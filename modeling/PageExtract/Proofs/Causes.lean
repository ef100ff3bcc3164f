import PageExtract.Proofs.Calls

/-!
Where failures come from. A failure of an evaluation was raised by one of the calls that it reaches,
and handed on by those between. Main statement: `Call.exists_raises`.
-/

set_option autoImplicit false

namespace PageExtract

open Json (Value)

namespace Call

/-- What a call itself fails with, as opposed to the failures of the calls that it makes. -/
inductive Raises (fetch : Fetch) (policy : Policy) : Call → Failure → Prop where
  | select {selector : Option String} {v : Visit} {s : Scope} {e : Failure}
      (missed : (v.selectFirst selector s).result = .error e) :
      Raises fetch policy ⟨.select selector, v, s⟩ e
  | each {elem : Option String} {item : Plan} {v : Visit} {s : Scope} {e : Failure}
      (missed : (v.selectAll elem s).result = .error e) :
      Raises fetch policy ⟨.each elem item, v, s⟩ e
  | directed {d : Directives} {fs : List (String × Plan)} {v : Visit} {s : Scope} {e : Failure}
      (missed : (v.narrow d.elem s).result = .error e) :
      Raises fetch policy ⟨.directed d fs, v, s⟩ e
  | following {d : Directives} {fs : List (String × Plan)} {link : Option String} {target : Plan}
      {v : Visit} {s : Scope} {e : Failure} (missed : (v.narrow d.elem s).result = .error e) :
      Raises fetch policy ⟨.following d fs link target, v, s⟩ e
  | link {d : Directives} {fs : List (String × Plan)} {link : Option String} {target : Plan}
      {v : Visit} {s : Scope} {focus : Focus} {before : Value} {e : Failure}
      (narrowed : (v.narrow d.elem s).result = .ok focus)
      (extracted : (d.extract fetch policy fs v focus).result = .ok before)
      (admitted : Filter.admits (d.filterBefore fs) before = true)
      (broken : (v.linked fetch policy focus link).result = .error e) :
      Raises fetch policy ⟨.following d fs link target, v, s⟩ e
  | malformed {reason : Malformation} {v : Visit} {s : Scope} :
      Raises fetch policy ⟨.malformed reason, v, s⟩ (.configuration (.malformed reason))

variable {fetch : Fetch} {policy : Policy}

theorem fields_error {fs : List (String × Plan)} {v : Visit} {s : Scope} {e : Failure}
    (failed : (FieldRun.assemble policy (fs.map (Plan.fieldRun fetch policy v s))).result =
      .error e) : ∃ f ∈ fs, (run fetch policy ⟨f.2, v, s⟩).result = .error e := by
  obtain ⟨_, member, cause, _⟩ := FieldRun.assemble_error failed
  obtain ⟨f, inside, rfl⟩ := List.mem_map.mp member
  exact ⟨f, inside, cause⟩

/-- What a mapping with directives fails with: the search for its element, one of its fields, or
what comes after. -/
theorem mapping_error {d : Directives} {fs : List (String × Plan)} {v : Visit} {s : Scope}
    {next : Focus → Value → Run Value} {e : Failure}
    (failed : ((v.narrow d.elem s).bind fun focus =>
      (d.extract fetch policy fs v focus).bind (next focus)).result = .error e) :
    (v.narrow d.elem s).result = .error e ∨
      ∃ focus, (v.narrow d.elem s).result = .ok focus ∧
        ((d.value = none ∧ ∃ f ∈ fs, (run fetch policy ⟨f.2, v, some focus⟩).result = .error e) ∨
          ∃ before, (d.extract fetch policy fs v focus).result = .ok before ∧
            (next focus before).result = .error e) := by
  rcases (Run.bind_error_iff _ _ _).mp failed with missed | ⟨focus, narrowed, ended⟩
  · exact .inl missed
  · rcases (Run.bind_error_iff _ _ _).mp ended with contents | ⟨before, extracted, later⟩
    · cases named : d.value with
      | some name => simp only [Directives.extract, named] at contents; cases contents
      | none =>
          simp only [Directives.extract, named, Plan.fieldRuns_eq_map] at contents
          exact .inr ⟨focus, narrowed, .inl ⟨rfl, fields_error contents⟩⟩
    · exact .inr ⟨focus, narrowed, .inr ⟨before, extracted, later⟩⟩

/-- A failed call either hands on the failure of a call that it makes, or raises it itself. -/
theorem error_cases {c : Call} {e : Failure} (failed : (c.run fetch policy).result = .error e) :
    (∃ d, c.Makes fetch policy d ∧ (d.run fetch policy).result = .error e) ∨
      c.Raises fetch policy e := by
  obtain ⟨plan, v, s⟩ := c
  cases plan with
  | select selector =>
      rw [run, Plan.evaluate_select] at failed
      rcases (Run.bind_error_iff _ _ _).mp failed with missed | ⟨n, _, read⟩
      · exact .inr (.select missed)
      · cases read
  | each elem item =>
      rw [run, Plan.evaluate_each] at failed
      rcases (Run.bind_error_iff _ _ _).mp failed with missed | ⟨ns, matched, ended⟩
      · exact .inr (.each missed)
      · obtain ⟨_, member, cause⟩ := exists_of_items_error ((listed_error_iff _ e).mp ended)
        obtain ⟨n, inside, rfl⟩ := List.mem_map.mp member
        exact .inl ⟨_, .item matched inside, cause⟩
  | fields fs =>
      rw [run, Plan.evaluate_fields] at failed
      obtain ⟨f, inside, cause⟩ := fields_error failed
      exact .inl ⟨_, .field inside, cause⟩
  | directed d fs =>
      rw [run, Plan.evaluate_directed] at failed
      rcases mapping_error failed with missed |
        ⟨focus, narrowed, ⟨valueless, f, inside, cause⟩ | ⟨before, _, gated⟩⟩
      · exact .inr (.directed missed)
      · exact .inl ⟨_, .directedField narrowed valueless inside, cause⟩
      · rw [Filter.gate_result] at gated
        split at gated <;> cases gated
  | following d fs link target =>
      rw [run, Plan.evaluate_following] at failed
      rcases mapping_error failed with missed |
        ⟨focus, narrowed, ⟨valueless, f, inside, cause⟩ | ⟨before, extracted, gated⟩⟩
      · exact .inr (.following missed)
      · exact .inl ⟨_, .followingField narrowed valueless inside, cause⟩
      · rw [Filter.gate_result] at gated
        split at gated
        · rename_i admitted
          rcases (Run.bind_error_iff _ _ _).mp gated with broken | ⟨page, arrived, there⟩
          · exact .inr (.link narrowed extracted admitted broken)
          · exact .inl ⟨_, .target narrowed extracted admitted arrived,
              (Run.map_error_iff _ _ _).mp there⟩
        · cases gated
  | malformed reason =>
      rw [run, Plan.evaluate_malformed] at failed
      cases failed
      exact .inr .malformed

theorem exists_raises {c : Call} {e : Failure} (failed : (c.run fetch policy).result = .error e) :
    ∃ d, c.Reaches fetch policy d ∧ d.Raises fetch policy e := by
  induction size : sizeOf c.plan using Nat.strongRecOn generalizing c with
  | _ n ih =>
      rcases error_cases failed with ⟨d, made, below⟩ | raises
      · have smaller : sizeOf d.plan < n := size ▸ made.sizeOf_lt
        obtain ⟨o, reached, raises⟩ := ih _ smaller below rfl
        exact ⟨o, .head made reached, raises⟩
      · exact ⟨c, .refl, raises⟩

end Call

theorem absorb_error {policy : Policy} {run : Run Value} {e : Failure}
    (failed : (absorb policy run).result = .error e) : run.result = .error e := by
  simp only [absorb] at failed
  split at failed
  · split at failed
    · cases failed
    · exact failed
  · exact failed

theorem pageText_error {load : Fetch} {r : ScrapeRequest} {url : String} {jar : Option Jar}
    {e : Failure} (failed : (r.pageText load url jar).result = .error e) :
    ∃ cause, e = .fetch cause := by
  simp only [ScrapeRequest.pageText] at failed
  split at failed
  · cases failed
  · rcases (Run.bind_error_iff _ _ _).mp failed with early | ⟨_, _, refused⟩
    · cases early
    · split at refused
      · cases refused
      · cases refused
        exact ⟨_, rfl⟩

/-- A scrape fails as the call on its first page does, or before it comes to that page. -/
theorem scrape_error_cases {fetcher : Fetcher} {sessions : Sessions} {r : ScrapeRequest}
    {e : Failure} (failed : (scrape fetcher sessions r).1.result = .error e) :
    (∃ root, r.rootCall? fetcher sessions = some root ∧
      (root.run fetcher.load r.policy).result = .error e) ∨
    (∃ mistake, e = .configuration mistake) ∨ (∃ cause, e = .auth cause) ∨
      ∃ cause, e = .fetch cause := by
  cases given : r.url? with
  | none =>
      rw [scrape_of_no_url _ _ r given] at failed
      cases failed
      exact .inr (.inl ⟨_, rfl⟩)
  | some url =>
      rcases answered : sessions.authenticate fetcher.login r.login with ⟨outcome, events, after⟩
      cases outcome with
      | error cause =>
          rw [scrape_of_refused _ _ after r url cause events given answered] at failed
          cases failed
          exact .inr (.inr (.inl ⟨cause, rfl⟩))
      | ok jar =>
          rw [scrape_of_accepted _ _ after r url jar events given answered] at failed
          rcases (Run.bind_error_iff _ _ _).mp failed with unloaded | ⟨html, text, later⟩
          · exact .inr (.inr (.inr (pageText_error unloaded)))
          · rcases (Run.bind_error_iff _ _ _).mp (absorb_error later) with
              unstarted | ⟨v, started, ended⟩
            · exact .inr (.inl (Visit.start_error unstarted))
            · have loaded : ((r.pageText fetcher.load url jar).bind
                  fun html => Visit.start url html 0).result = .ok v :=
                (Run.bind_ok_iff _ _ _).mpr ⟨html, text, started⟩
              have called : r.rootCall? fetcher sessions = some ⟨r.plan, v, none⟩ := by
                simp only [ScrapeRequest.rootCall?, ScrapeRequest.firstVisit?, given, answered,
                  loaded, Option.map_some]
              exact .inl ⟨_, called, ended⟩

end PageExtract
