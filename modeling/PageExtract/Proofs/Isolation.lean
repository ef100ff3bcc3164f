import PageExtract.Proofs.Scrapes

/-!
Isolation of failures as a conservative extension of strict evaluation. Without `testing` and
`separateErrors` the first failure ends everything. Setting the flags changes nothing about a
strict scrape that succeeds, and not the failure of one that fails fatally.
-/

set_option autoImplicit false

namespace PageExtract

open Json (Value)

namespace Run

variable {α β : Type}

/-- A lenient run keeps what a strict one came to: all of a success, and the cause of a fatal
failure. Nothing is said where the strict run fails recoverably. -/
structure ConservedBy (strict lenient : Run α) : Prop where
  success : ∀ a, strict.result = .ok a → lenient = strict
  severe : ∀ e, strict.result = .error e → e.isRecoverable = false → lenient.result = .error e

theorem ConservedBy.refl (r : Run α) : r.ConservedBy r :=
  ⟨fun _ _ => rfl, fun _ failed _ => failed⟩

theorem ConservedBy.bind {strict lenient : Run α} {next other : α → Run β}
    (first : strict.ConservedBy lenient) (rest : ∀ a, (next a).ConservedBy (other a)) :
    (strict.bind next).ConservedBy (lenient.bind other) := by
  constructor
  · intro b success
    obtain ⟨a, done, later⟩ := (bind_ok_iff _ _ _).mp success
    have same := first.success a done
    rw [same, bind_of_ok _ _ a done, bind_of_ok _ _ a done, (rest a).success b later]
  · intro e failed severe
    rcases (bind_error_iff _ _ _).mp failed with early | ⟨a, done, late⟩
    · exact (bind_error_iff _ _ _).mpr (.inl (first.severe e early severe))
    · rw [first.success a done]
      exact (bind_error_iff _ _ _).mpr (.inr ⟨a, done, (rest a).severe e late severe⟩)

theorem ConservedBy.map {strict lenient : Run α} (first : strict.ConservedBy lenient) (f : α → β) :
    (strict.map f).ConservedBy (lenient.map f) := by
  constructor
  · intro b success
    obtain ⟨a, done, _⟩ := (map_ok_iff _ _ _).mp success
    rw [first.success a done]
  · intro e failed severe
    exact (map_error_iff _ _ _).mpr (first.severe e ((map_error_iff _ _ _).mp failed) severe)

end Run

open Run (ConservedBy)

theorem gate_conservedBy (filter : Option Filter) (v : Value) {next other : Value → Run Value}
    (rest : ∀ v, (next v).ConservedBy (other v)) :
    (Filter.gate filter v next).ConservedBy (Filter.gate filter v other) := by
  cases filter with
  | none => exact rest v
  | some f =>
      simp only [Filter.gate]
      split
      · exact rest v
      · exact .refl _
      · exact .bind (.refl _) fun _ => rest v

/-- A list succeeds with all of its items, and fails with the first that fails. -/
theorem items_conserved {strict lenient : List (Run Value)}
    (agree : List.Forall₂ ConservedBy strict lenient) :
    (∀ vs, items strict = .ok vs → lenient = strict) ∧
    (∀ e, items strict = .error e → e.isRecoverable = false → items lenient = .error e) := by
  induction agree with
  | nil => exact ⟨fun _ _ => rfl, fun _ failed _ => failed⟩
  | @cons first other rest others head _ ih =>
      cases done : first.result with
      | error cause =>
          rw [items_cons_of_error done rest]
          constructor
          · intro vs success
            cases success
          · intro e failed severe
            have sameCause : cause = e := Except.error.inj failed
            exact items_cons_of_error (head.severe e (sameCause ▸ done) severe) others
      | ok v =>
          have same := head.success v done
          subst same
          simp only [items, done]
          cases tail : items rest with
          | error cause =>
              constructor
              · intro vs success
                cases success
              · intro e failed severe
                rw [ih.2 e (tail.trans failed) severe]
          | ok vs => rw [ih.1 vs tail, tail]; exact ⟨fun _ _ => rfl, fun _ failed _ => failed⟩

theorem listed_conservedBy {strict lenient : List (Run Value)}
    (agree : List.Forall₂ ConservedBy strict lenient) :
    (listed strict).ConservedBy (listed lenient) := by
  obtain ⟨success, severe⟩ := items_conserved agree
  constructor
  · intro v done
    obtain ⟨vs, all, _⟩ := (listed_ok_iff strict v).mp done
    rw [success vs all]
  · intro e failed fatal
    exact (listed_error_iff lenient e).mpr (severe e ((listed_error_iff strict e).mp failed) fatal)

/-- A field of a strict and of a lenient evaluation of the same mapping. -/
structure FieldRun.ConservedBy (strict lenient : FieldRun) : Prop where
  key : lenient.key = strict.key
  fallback : lenient.fallback = strict.fallback
  run : strict.run.ConservedBy lenient.run

namespace FieldRun

/-- Without isolation the first failing field fails its mapping, so a strict mapping succeeds only
with all of its fields, and none of these is touched by a more lenient policy. -/
theorem collect_conserved (strict lenient : Policy) (failsFast : strict.allowsErrors = false)
    {fs gs : List FieldRun} (agree : List.Forall₂ ConservedBy fs gs)
    (object errors : List (String × Value)) :
    (∀ done, collect strict fs object errors = .ok done →
      gs = fs ∧ collect lenient gs object errors = .ok done) ∧
    (∀ e, collect strict fs object errors = .error e → e.isRecoverable = false →
      collect lenient gs object errors = .error e) := by
  induction agree generalizing object with
  | nil => exact ⟨fun _ done => ⟨rfl, done⟩, fun _ failed _ => failed⟩
  | @cons f g fs gs head _ ih =>
      cases ended : f.run.result with
      | ok v =>
          have same : g = f := by
            obtain ⟨key, fallback, run⟩ := g
            obtain ⟨sameKey, sameFallback, kept⟩ := head
            simp only at sameKey sameFallback kept
            rw [sameKey, sameFallback, kept.success v ended]
          subst same
          rw [collect_cons_of_ok _ _ _ _ _ v ended, collect_cons_of_ok _ _ _ _ _ v ended]
          obtain ⟨success, severe⟩ := ih (Entries.insert g.key v object)
          exact ⟨fun done all => ⟨by rw [(success done all).1], (success done all).2⟩, severe⟩
      | error cause =>
          have propagated : f.isolated strict cause = none := by simp [isolated, failsFast]
          rw [collect_cons_of_propagated _ _ _ _ _ cause ended propagated]
          constructor
          · intro done success
            cases success
          · intro e failed severe
            have sameCause : cause = e := Except.error.inj failed
            subst sameCause
            exact collect_cons_of_propagated _ _ _ _ _ cause (head.run.severe cause ended severe)
              (isolated_of_fatal _ _ _ severe)

theorem assemble_conservedBy {strict lenient : Policy} (failsFast : strict.allowsErrors = false)
    {fs gs : List FieldRun} (agree : List.Forall₂ ConservedBy fs gs) :
    (assemble strict fs).ConservedBy (assemble lenient gs) := by
  obtain ⟨success, severe⟩ := collect_conserved strict lenient failsFast agree [] []
  constructor
  · intro v done
    obtain ⟨pair, all, _⟩ := (assemble_ok_iff strict fs v).mp done
    obtain ⟨sameFields, samePair⟩ := success pair all
    apply Run.ext
    · rw [assemble_result, assemble_result, samePair, all]
    · rw [assemble_events, assemble_events, sameFields]
  · intro e failed fatal
    have cause := (assemble_error_iff strict fs e).mp failed
    exact (assemble_error_iff lenient gs e).mpr (severe e cause fatal)

end FieldRun

/-- The policy with its two flags set anew; the limit on follows stays. -/
def Policy.withFlags (p : Policy) (testing separateErrors : Bool) : Policy :=
  { p with testing := testing, separateErrors := separateErrors }

namespace Plan

variable (fetch : Fetch) (policy : Policy) (testing separateErrors : Bool)

/-- The two runs go through the same elements and pages; they may only part at a mapping, where
the lenient one goes on after a recoverable failure that the strict one ends with. -/
theorem evaluate_conservedBy (plan : Plan) (v : Visit) (s : Scope) :
    (plan.evaluate fetch (policy.withFlags false false) v s).ConservedBy
      (plan.evaluate fetch (policy.withFlags testing separateErrors) v s) := by
  have assembled : ∀ (fs : List (String × Plan)) (v : Visit) (s : Scope),
      (∀ f ∈ fs, ∀ v s, (f.2.evaluate fetch (policy.withFlags false false) v s).ConservedBy
        (f.2.evaluate fetch (policy.withFlags testing separateErrors) v s)) →
      (FieldRun.assemble (policy.withFlags false false)
        (fieldRuns fetch (policy.withFlags false false) fs v s)).ConservedBy
      (FieldRun.assemble (policy.withFlags testing separateErrors)
        (fieldRuns fetch (policy.withFlags testing separateErrors) fs v s)) := by
    intro fs v s kept
    rw [fieldRuns_eq_map, fieldRuns_eq_map]
    apply FieldRun.assemble_conservedBy rfl
    rw [List.forall₂_map_left_iff, List.forall₂_map_right_iff, List.forall₂_same]
    exact fun f member => ⟨rfl, rfl, kept f member v s⟩
  have extracted : ∀ (d : Directives) (fs : List (String × Plan)) (v : Visit) (focus : Focus),
      (∀ f ∈ fs, ∀ v s, (f.2.evaluate fetch (policy.withFlags false false) v s).ConservedBy
        (f.2.evaluate fetch (policy.withFlags testing separateErrors) v s)) →
      (d.extract fetch (policy.withFlags false false) fs v focus).ConservedBy
        (d.extract fetch (policy.withFlags testing separateErrors) fs v focus) := by
    intro d fs v focus kept
    simp only [Directives.extract]
    cases d.value with
    | some name => exact .refl _
    | none => exact assembled fs v (some focus) kept
  induction plan generalizing v s with
  | select selector => rw [evaluate_select, evaluate_select]; exact .refl _
  | each elem item ih =>
      rw [evaluate_each, evaluate_each]
      refine .bind (.refl _) fun ns => listed_conservedBy ?_
      rw [List.forall₂_map_left_iff, List.forall₂_map_right_iff, List.forall₂_same]
      exact fun n _ => ih v (itemScope elem s n)
  | directed d fs ih =>
      rw [evaluate_directed, evaluate_directed]
      exact .bind (.refl _) fun focus => .bind (extracted d fs v focus ih) fun _ => .refl _
  | following d fs link target ih next =>
      rw [evaluate_following, evaluate_following]
      refine .bind (.refl _) fun focus => .bind (extracted d fs v focus ih) fun value => ?_
      exact gate_conservedBy _ value fun before =>
        .bind (.refl _) fun page => (next page none).map (merge before)
  | fields fs ih =>
      rw [evaluate_fields, evaluate_fields, ← fieldRuns_eq_map, ← fieldRuns_eq_map]
      exact assembled fs v s ih
  | malformed reason => rw [evaluate_malformed, evaluate_malformed]; exact .refl _

end Plan

/-- Absorption at the outermost place only ever turns a recoverable failure into a value. -/
theorem absorb_conservedBy (policy : Policy) (testing separateErrors : Bool)
    {strict lenient : Run Value} (kept : strict.ConservedBy lenient) :
    (absorb (policy.withFlags false false) strict).ConservedBy
      (absorb (policy.withFlags testing separateErrors) lenient) := by
  have untouched : absorb (policy.withFlags false false) strict = strict := by
    simp only [absorb, Policy.withFlags, Bool.false_and, Bool.false_eq_true, ↓reduceIte]
    split <;> rfl
  rw [untouched]
  constructor
  · intro v done
    have same := kept.success v done
    simp only [absorb, same, done]
  · intro e failed severe
    have same := kept.severe e failed severe
    simp only [absorb, same, severe, Bool.and_false, Bool.false_eq_true, ↓reduceIte]

/-- The request with other flags in its policy. -/
def ScrapeRequest.withFlags (r : ScrapeRequest) (testing separateErrors : Bool) : ScrapeRequest :=
  { r with policy := r.policy.withFlags testing separateErrors }

theorem linkRequest_withFlags (data : Spec) (policy : Policy) (testing separateErrors : Bool) :
    (linkRequest data policy).withFlags testing separateErrors =
      linkRequest data (policy.withFlags testing separateErrors) := rfl

theorem scrapePage_conservedBy (load : Fetch) (r : ScrapeRequest) (testing separateErrors : Bool)
    (url : String) (jar : Option Jar) :
    (scrapePage load (r.withFlags false false) url jar).ConservedBy
      (scrapePage load (r.withFlags testing separateErrors) url jar) := by
  refine .bind (.refl _) fun html => ?_
  apply absorb_conservedBy
  exact .bind (.refl _) fun page => Plan.evaluate_conservedBy load r.policy _ _ r.plan page none

theorem scrape_conservedBy (fetcher : Fetcher) (sessions : Sessions) (r : ScrapeRequest)
    (testing separateErrors : Bool) :
    (scrape fetcher sessions (r.withFlags false false)).1.ConservedBy
      (scrape fetcher sessions (r.withFlags testing separateErrors)).1 ∧
    (scrape fetcher sessions (r.withFlags testing separateErrors)).2 =
      (scrape fetcher sessions (r.withFlags false false)).2 := by
  cases given : r.url? with
  | none =>
      rw [scrape_of_no_url _ _ (r.withFlags false false) given,
        scrape_of_no_url _ _ (r.withFlags testing separateErrors) given]
      exact ⟨.refl _, rfl⟩
  | some url =>
      rcases answered : sessions.authenticate fetcher.login r.login with ⟨outcome, events, after⟩
      cases outcome with
      | error cause =>
          rw [scrape_of_refused _ _ after (r.withFlags false false) url cause events given answered,
            scrape_of_refused _ _ after (r.withFlags testing separateErrors) url cause events given
              answered]
          exact ⟨.refl _, rfl⟩
      | ok jar =>
          rw [scrape_of_accepted _ _ after (r.withFlags false false) url jar events given answered,
            scrape_of_accepted _ _ after (r.withFlags testing separateErrors) url jar events given
              answered]
          have kept := scrapePage_conservedBy fetcher.load r testing separateErrors url jar
          exact ⟨⟨fun v done => by rw [kept.success v done], kept.severe⟩, rfl⟩

/-- Setting the flags never changes a strict scrape that succeeds, down to its diagnostics and
requests, nor the cause of one that fails fatally, nor the sessions afterwards. They change what a
scrape comes to only where it fails recoverably without them. -/
theorem scrape_withFlags_conservative (fetcher : Fetcher) (sessions : Sessions) (r : ScrapeRequest)
    (testing separateErrors : Bool) :
    (∀ v, (scrape fetcher sessions (r.withFlags false false)).1.result = .ok v →
      (scrape fetcher sessions (r.withFlags testing separateErrors)).1 =
        (scrape fetcher sessions (r.withFlags false false)).1) ∧
    (∀ e, (scrape fetcher sessions (r.withFlags false false)).1.result = .error e →
      e.isRecoverable = false →
      (scrape fetcher sessions (r.withFlags testing separateErrors)).1.result = .error e) ∧
    ((scrape fetcher sessions (r.withFlags testing separateErrors)).1.result ≠
        (scrape fetcher sessions (r.withFlags false false)).1.result →
      (scrape fetcher sessions (r.withFlags false false)).1.IsRecoverable) ∧
    (scrape fetcher sessions (r.withFlags testing separateErrors)).2 =
      (scrape fetcher sessions (r.withFlags false false)).2 := by
  obtain ⟨kept, same⟩ := scrape_conservedBy fetcher sessions r testing separateErrors
  refine ⟨kept.success, kept.severe, fun differs => ?_, same⟩
  rcases Run.ok_or_recoverable_or_fatal (scrape fetcher sessions (r.withFlags false false)).1 with
    ⟨v, done⟩ | recoverable | ⟨e, failed, severe⟩
  · exact absurd (congrArg Run.result (kept.success v done)) differs
  · exact recoverable
  · exact absurd ((kept.severe e failed severe).trans failed.symm) differs

/-- A strict success and a strict fatal failure, each kept with both flags set. -/
theorem scrape_withFlags_linkPage :
    (scrape (.ofPages []) .empty ((linkRequest (.list [.map
        [("_elem", .selector "p"), ("_value", .selector "href")]]) .standard).withFlags
          true true)).1.result = .ok (.array [.string "a:"]) ∧
    (scrape (.ofPages []) .empty ((linkRequest (.map
        [("title", .selector "p"), ("link", .map [("_value", .selector "href")])])
          .standard).withFlags true true)).1.result = .error (.configuration .missingElement) := by
  have success : (scrape (.ofPages []) .empty ((linkRequest (.list [.map
      [("_elem", .selector "p"), ("_value", .selector "href")]]) .standard).withFlags
        false false)).1.result = .ok (.array [.string "a:"]) := by
    rw [linkRequest_withFlags,
      scrape_result_of_firstVisit _ _ _ _ (firstVisit_linkRequest _ _ _ _)]
    rfl
  have severe : (scrape (.ofPages []) .empty ((linkRequest (.map
      [("title", .selector "p"), ("link", .map [("_value", .selector "href")])])
        .standard).withFlags false false)).1.result = .error (.configuration .missingElement) := by
    rw [linkRequest_withFlags,
      scrape_result_of_firstVisit _ _ _ _ (firstVisit_linkRequest _ _ _ _)]
    rfl
  constructor
  · rw [(scrape_withFlags_conservative _ _ _ true true).1 _ success]
    exact success
  · exact (scrape_withFlags_conservative _ _ _ true true).2.1 _ severe rfl

end PageExtract
