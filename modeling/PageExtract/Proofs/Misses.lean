import PageExtract.Proofs.Assembly
import PageExtract.Proofs.PageRequests

/-!
Misses of selectors. Whoever fails with a miss has reported it, and nobody reports another, so the
misses that a scrape reports are those of the calls that it reaches: wherever one shows up, there is
a line about it, and a strict scrape that succeeds has none. Main definition:
`ScrapeRequest.Surfaces`.
-/

set_option autoImplicit false

namespace PageExtract

open Json (Value)

namespace Call

variable {fetch : Fetch} {policy : Policy}

/-- What a call raises, it fails with, and if it is a miss it reports it. -/
theorem Raises.failed {c : Call} {e : Failure} (raises : c.Raises fetch policy e) :
    (c.run fetch policy).result = .error e ∧
      ∀ event ∈ e.reported, event ∈ (c.run fetch policy).events := by
  cases raises with
  | @select selector v s _ missed =>
      rw [run, Plan.evaluate_select, (v.selectFirst_selects s selector).bind_of_failed missed]
      exact ⟨rfl, fun _ reported => reported⟩
  | @each elem item v s _ missed =>
      rw [run, Plan.evaluate_each, (v.selectAll_selects s elem).bind_of_failed missed]
      exact ⟨rfl, fun _ reported => reported⟩
  | @directed d fs v s _ missed =>
      rw [run, Plan.evaluate_directed, (v.narrow_selects s d.elem).bind_of_failed missed]
      exact ⟨rfl, fun _ reported => reported⟩
  | @following d fs link target v s _ missed =>
      rw [run, Plan.evaluate_following, (v.narrow_selects s d.elem).bind_of_failed missed]
      exact ⟨rfl, fun _ reported => reported⟩
  | @link d fs link target v s focus before _ narrowed extracted admitted broken =>
      rw [run, Plan.evaluate_following, Run.bind_of_ok _ _ focus narrowed,
        Run.bind_of_ok _ _ before extracted, Filter.gate_of_admitted admitted,
        Run.bind_of_error _ _ e broken]
      refine ⟨rfl, fun event reported => ?_⟩
      have there := Visit.linked_reported broken reported
      exact List.mem_append_right _ (List.mem_append_right _ (List.mem_append_right _ there))
  | malformed =>
      rw [run, Plan.evaluate_malformed]
      exact ⟨rfl, fun _ reported => absurd reported List.not_mem_nil⟩

/-- The misses that are reported are those that calls fail with. -/
theorem miss_mem_iff {c : Call} {selector : String} {context : Option String} :
    .diagnostic (.miss selector context) ∈ (c.run fetch policy).events ↔
      ∃ d, c.Reaches fetch policy d ∧
        (d.run fetch policy).result = .error (.selectorNotFound selector context) := by
  constructor
  · intro reported
    obtain ⟨d, reached, shows⟩ := exists_shows reported
    cases shows with
    | miss raises => exact ⟨d, reached, raises.failed.1⟩
    | ask _ same => cases same
  · rintro ⟨d, reached, failed⟩
    obtain ⟨o, below, raises⟩ := exists_raises failed
    have here := raises.failed.2 _ (List.mem_singleton.mpr rfl)
    exact Reaches.mem_events reached (Reaches.mem_events below here)

theorem field_ok_of_assemble (strict : policy.allowsErrors = false) {fs : List (String × Plan)}
    {v : Visit} {s : Scope} {whole : Value}
    (success : (FieldRun.assemble policy (fs.map (Plan.fieldRun fetch policy v s))).result =
      .ok whole) {f : String × Plan} (member : f ∈ fs) :
    ∃ w, (run fetch policy ⟨f.2, v, s⟩).result = .ok w := by
  obtain ⟨unended, _⟩ := FieldRun.of_assemble_ok success
  have isolated := FieldRun.ending?_eq_none_iff.mp (unended _ (List.mem_map_of_mem member))
  cases ended : (run fetch policy ⟨f.2, v, s⟩).result with
  | ok w => exact ⟨w, rfl⟩
  | error e =>
      have lenient := isolated e ended
      rw [strict, Bool.and_false] at lenient
      cases lenient

theorem field_ok_of_mapping (strict : policy.allowsErrors = false) {d : Directives}
    (valueless : d.value = none) {fs : List (String × Plan)} {v : Visit} {s : Scope} {focus : Focus}
    (narrowed : (v.narrow d.elem s).result = .ok focus) {next : Focus → Value → Run Value}
    {whole : Value}
    (success : ((v.narrow d.elem s).bind fun focus =>
      (d.extract fetch policy fs v focus).bind (next focus)).result = .ok whole)
    {f : String × Plan} (member : f ∈ fs) :
    ∃ w, (run fetch policy ⟨f.2, v, some focus⟩).result = .ok w := by
  rw [Run.bind_of_ok _ _ focus narrowed] at success
  obtain ⟨contents, extracted, _⟩ := (Run.bind_ok_iff _ _ _).mp success
  simp only [Directives.extract, valueless, Plan.fieldRuns_eq_map] at extracted
  exact field_ok_of_assemble strict extracted member

/-- Where no failure is isolated, a call succeeds only if all that it makes do. -/
theorem Makes.run_ok (strict : policy.allowsErrors = false) {c d : Call}
    (made : c.Makes fetch policy d) {whole : Value}
    (success : (c.run fetch policy).result = .ok whole) :
    ∃ w, (d.run fetch policy).result = .ok w := by
  cases made with
  | item matched member =>
      rw [run, Plan.evaluate_each] at success
      obtain ⟨ns, again, all⟩ := (Run.bind_ok_iff _ _ _).mp success
      obtain rfl := Except.ok.inj (matched.symm.trans again)
      obtain ⟨vs, came, _⟩ := (listed_ok_iff _ _).mp all
      exact item_ok_of_items came (List.mem_map_of_mem member)
  | field member =>
      rw [run, Plan.evaluate_fields] at success
      exact field_ok_of_assemble strict success member
  | directedField narrowed valueless member =>
      rw [run, Plan.evaluate_directed] at success
      exact field_ok_of_mapping strict valueless narrowed success member
  | followingField narrowed valueless member =>
      rw [run, Plan.evaluate_following] at success
      exact field_ok_of_mapping strict valueless narrowed success member
  | target narrowed extracted admitted arrived =>
      rw [run, Plan.evaluate_following_of_linked narrowed extracted admitted arrived] at success
      cases there : (run fetch policy ⟨_, _, none⟩).result with
      | ok w => exact ⟨w, rfl⟩
      | error e =>
          rw [run] at there
          rw [there] at success
          cases success

theorem Reaches.run_ok (strict : policy.allowsErrors = false) {c d : Call}
    (reached : c.Reaches fetch policy d) {whole : Value}
    (success : (c.run fetch policy).result = .ok whole) :
    ∃ w, (d.run fetch policy).result = .ok w := by
  induction reached with
  | refl => exact ⟨whole, success⟩
  | tail _ made ih =>
      obtain ⟨w, came⟩ := ih
      exact made.run_ok strict came

/-- The mappings that a call puts together: their fields, and the scope that these are in. -/
inductive Assembles : Call → List (String × Plan) → Scope → Prop where
  | fields {fs : List (String × Plan)} {v : Visit} {s : Scope} : Assembles ⟨.fields fs, v, s⟩ fs s
  | directed {d : Directives} {fs : List (String × Plan)} {v : Visit} {s : Scope} {focus : Focus}
      (narrowed : (v.narrow d.elem s).result = .ok focus) (valueless : d.value = none) :
      Assembles ⟨.directed d fs, v, s⟩ fs (some focus)
  | following {d : Directives} {fs : List (String × Plan)} {link : Option String} {target : Plan}
      {v : Visit} {s : Scope} {focus : Focus} (narrowed : (v.narrow d.elem s).result = .ok focus)
      (valueless : d.value = none) :
      Assembles ⟨.following d fs link target, v, s⟩ fs (some focus)

theorem Assembles.makes {c : Call} {fs : List (String × Plan)} {s : Scope}
    (assembles : c.Assembles fs s) {f : String × Plan} (member : f ∈ fs) :
    c.Makes fetch policy ⟨f.2, c.visit, s⟩ := by
  cases assembles with
  | fields => exact .field member
  | directed narrowed valueless => exact .directedField narrowed valueless member
  | following narrowed valueless => exact .followingField narrowed valueless member

/-- A field of a mapping failed, and the mapping came out all the same. -/
def Isolates (fetch : Fetch) (policy : Policy) (c : Call) (e : Failure) (key : String)
    (members : List (String × Value)) : Prop :=
  ∃ fs s plan, c.Assembles fs s ∧ (key, plan) ∈ fs ∧
    (run fetch policy ⟨plan, c.visit, s⟩).result = .error e ∧
    (run fetch policy ⟨.fields fs, c.visit, s⟩).result = .ok (.object members)

end Call

/-- The ways in which a failure shows up in what a scrape comes to: as the failure of the scrape, as
the text in the place of its whole result or of a field, and as an entry among the errors of a
mapping. -/
inductive ScrapeRequest.Surfaces (fetcher : Fetcher) (sessions : Sessions) (r : ScrapeRequest)
    (e : Failure) : Prop where
  | failure (failed : (scrape fetcher sessions r).1.result = .error e)
  | whole {root : Call} (called : r.rootCall? fetcher sessions = some root)
      (failed : (root.run fetcher.load r.policy).result = .error e)
      (shown : (scrape fetcher sessions r).1.result = .ok (.string e.message))
  | inline {c : Call} {key : String} {members : List (String × Value)}
      (reached : r.Reaches fetcher sessions c)
      (isolates : c.Isolates fetcher.load r.policy e key members)
      (shown : Entries.get? key members = some (.string e.message))
  | listed {c : Call} {key : String} {members errors : List (String × Value)}
      (reached : r.Reaches fetcher sessions c)
      (isolates : c.Isolates fetcher.load r.policy e key members)
      (beside : Entries.get? errorsKey members = some (.object errors))
      (shown : Entries.get? key errors = some (.string e.message))

section

variable {fetcher : Fetcher} {sessions : Sessions} {r : ScrapeRequest}

theorem Call.Isolates.exists_failed {c : Call} {e : Failure} {key : String}
    {members : List (String × Value)}
    (isolates : c.Isolates fetcher.load r.policy e key members)
    (reached : r.Reaches fetcher sessions c) :
    ∃ d, r.Reaches fetcher sessions d ∧ (d.run fetcher.load r.policy).result = .error e := by
  obtain ⟨fs, s, plan, assembles, member, failed, _⟩ := isolates
  obtain ⟨root, called, below⟩ := reached
  exact ⟨_, ⟨root, called, below.tail (assembles.makes member)⟩, failed⟩

/-- A miss that shows up is one that a call failed with. -/
theorem ScrapeRequest.Surfaces.exists_failed {selector : String} {context : Option String}
    (surfaces : r.Surfaces fetcher sessions (.selectorNotFound selector context)) :
    ∃ d, r.Reaches fetcher sessions d ∧
      (d.run fetcher.load r.policy).result = .error (.selectorNotFound selector context) := by
  cases surfaces with
  | failure failed =>
      rcases scrape_error_cases failed with
        ⟨root, called, below⟩ | ⟨_, other⟩ | ⟨_, other⟩ | ⟨_, other⟩
      · exact ⟨root, ⟨root, called, .refl⟩, below⟩
      all_goals cases other
  | whole called failed _ => exact ⟨_, ⟨_, called, .refl⟩, failed⟩
  | inline reached isolates _ => exact isolates.exists_failed reached
  | listed reached isolates _ _ => exact isolates.exists_failed reached

/-- The diagnostics of a scrape are those of the evaluation on its first page. -/
theorem mem_diagnostics_scrape_iff {d : Diagnostic} :
    d ∈ (scrape fetcher sessions r).1.diagnostics ↔
      ∃ root, r.rootCall? fetcher sessions = some root ∧
        .diagnostic d ∈ (root.run fetcher.load r.policy).events := by
  have opening : ∀ (kept : PageRequest → Option Diagnostic), (∀ q, kept q = none) →
      (r.opening fetcher sessions).filterMap kept = [] := fun _ none =>
    List.filterMap_eq_nil_iff.mpr fun q _ => none q
  rw [Run.diagnostics, filterMap_scrape_events fetcher sessions r _ fun _ _ => rfl,
    opening _ fun _ => rfl, List.nil_append]
  cases r.rootCall? fetcher sessions with
  | none => simp
  | some root =>
      simp only [List.mem_filterMap, Option.some.injEq, exists_eq_left']
      constructor
      · rintro ⟨e, member, kept⟩
        cases e with
        | diagnostic other =>
            cases kept
            exact member
        | _ => cases kept
      · exact fun member => ⟨_, member, rfl⟩

end

/-- Without `testing` and `separateErrors`, a scrape succeeds only if all calls that it reaches
succeed. -/
theorem ScrapeRequest.Reaches.run_ok {fetcher : Fetcher} {sessions : Sessions} {r : ScrapeRequest}
    {c : Call} (reached : r.Reaches fetcher sessions c) (plain : r.policy.testing = false)
    (joint : r.policy.separateErrors = false) {whole : Value}
    (success : (scrape fetcher sessions r).1.result = .ok whole) :
    ∃ w, (c.run fetcher.load r.policy).result = .ok w := by
  have strict : r.policy.allowsErrors = false := by rw [Policy.allowsErrors, plain, joint]; rfl
  obtain ⟨root, called, below⟩ := reached
  obtain ⟨v, opened, rfl⟩ := Option.map_eq_some_iff.mp called
  rw [scrape_result_of_firstVisit _ _ r v opened] at success
  have came : (Call.run fetcher.load r.policy ⟨r.plan, v, none⟩).result = .ok whole := by
    simp only [absorb, plain, Bool.false_and, Bool.false_eq_true, ↓reduceIte] at success
    split at success <;> exact success
  exact below.run_ok strict came

/-- No miss of a selector is silent. Wherever one shows up, as the failure of the scrape, as the
text in the place of a field or of the whole result, or among the errors of a mapping, there is a
line that names the selector and, if it was tried inside of the match of another, that one too. And
if no flag isolates failures, the diagnostics of a scrape that succeeds are about filters only. -/
theorem misses_reported (fetcher : Fetcher) (sessions : Sessions) (r : ScrapeRequest) :
    let run := (scrape fetcher sessions r).1
    (∀ selector context, r.Surfaces fetcher sessions (.selectorNotFound selector context) →
      (match context with
        | none => "Couldn't find '" ++ selector ++ "'"
        | some outer => "Couldn't find '" ++ selector ++ "' in '" ++ outer ++ "'") ∈
          run.diagnostics.map Diagnostic.text) ∧
    (r.policy.testing = false → r.policy.separateErrors = false → (∃ w, run.result = .ok w) →
      ∀ d ∈ run.diagnostics, ∃ f kind, d = .unsupportedFilter f kind) := by
  constructor
  · intro selector context surfaces
    obtain ⟨d, ⟨root, called, below⟩, failed⟩ := surfaces.exists_failed
    have reported : .miss selector context ∈ (scrape fetcher sessions r).1.diagnostics :=
      mem_diagnostics_scrape_iff.mpr ⟨root, called, Call.miss_mem_iff.mpr ⟨d, below, failed⟩⟩
    have line := List.mem_map_of_mem (f := Diagnostic.text) reported
    cases context with
    | none => exact line
    | some outer => exact line
  · rintro plain joint ⟨w, success⟩ d member
    obtain ⟨root, called, reported⟩ := mem_diagnostics_scrape_iff.mp member
    cases d with
    | unsupportedFilter f kind => exact ⟨f, kind, rfl⟩
    | miss selector context =>
        obtain ⟨c, below, failed⟩ := Call.miss_mem_iff.mp reported
        have reached : r.Reaches fetcher sessions c := ⟨root, called, below⟩
        obtain ⟨_, came⟩ := reached.run_ok plain joint success
        rw [failed] at came
        cases came

/-- Both paragraphs lack a heading, which is told of them as of matches of their selector. A filter
that is of no use for a link is all that is told of a strict scrape. -/
theorem misses_reported_linkPage :
    let fetcher : Fetcher := .ofPages []
    let lenient := linkRequest (.list [.map [("_elem", .selector "p"), ("heading", .selector "a")]])
      { Policy.standard with separateErrors := true }
    let strict := linkRequest (.map [("_elem", .selector "p + p"), ("_value", .selector "href"),
      ("_filter", .literal (.bool true))]) .standard
    lenient.Surfaces fetcher .empty (.selectorNotFound "a" (some "p")) ∧
      "Couldn't find 'a' in 'p'" ∈
        (scrape fetcher .empty lenient).1.diagnostics.map Diagnostic.text ∧
      (scrape fetcher .empty strict).1.result = .ok (.string "a:") ∧
      ∀ d ∈ (scrape fetcher .empty strict).1.diagnostics,
        ∃ f kind, d = .unsupportedFilter f kind := by
  intro fetcher lenient strict
  let fs : List (String × Plan) := [("heading", .select (some "a"))]
  let item : Call := ⟨.fields fs, linkVisit 0, some ⟨4, some "p"⟩⟩
  have reached : lenient.Reaches fetcher .empty item := by
    have matched : ((linkVisit 0).selectAll (some "p") none).result = .ok [4, 5] := by rfl
    refine ⟨⟨.each (some "p") (.fields fs), linkVisit 0, none⟩, ?_,
      .single (.item matched List.mem_cons_self)⟩
    rw [ScrapeRequest.rootCall?, firstVisit_linkRequest]
    rfl
  have isolates : item.Isolates fetcher.load lenient.policy (.selectorNotFound "a" (some "p"))
      "heading" [("heading", .string ""),
        ("errors", .object [("heading", .string "Couldn't find 'a'")])] :=
    ⟨fs, some ⟨4, some "p"⟩, .select (some "a"), .fields, List.mem_cons_self, by rfl, by rfl⟩
  have surfaces : lenient.Surfaces fetcher .empty (.selectorNotFound "a" (some "p")) :=
    .listed reached isolates rfl rfl
  have success : (scrape fetcher .empty strict).1.result = .ok (.string "a:") := by
    rw [scrape_result_of_firstVisit _ _ _ _ (firstVisit_linkRequest _ _ _ _)]
    rfl
  exact ⟨surfaces, (misses_reported fetcher .empty lenient).1 "a" (some "p") surfaces, success,
    (misses_reported fetcher .empty strict).2 rfl rfl ⟨_, success⟩⟩

end PageExtract
