import PageExtract.Proofs.Scrapes

/-!
Progress of well-scoped plans. A plan is well scoped if none of its parts is malformed, its
selectors can be read, and whatever stands for the element in scope has one. Evaluating such a plan
never fails fatally, so a policy that lets failures become values always gets one.
-/

set_option autoImplicit false

namespace PageExtract

open Json (Value)

/-- A selector that can be read, or none where an element is in scope. -/
def Plan.inScope (located : Bool) (selector : Option String) : Bool :=
  match selector with
  | none => located
  | some selector => (Css.Selector.read selector).isOk

namespace Plan

mutual

/-- `located` tells whether an element is in scope. One is below an `_elem` and below a list item,
but none at the top of a page. -/
def wellScoped (located : Bool) : Plan → Bool
  | .select selector => inScope located selector
  | .each elem item => inScope located elem && wellScoped true item
  | .directed d fs => inScope located d.elem && fieldsWellScoped true fs
  | .following d fs link target =>
    inScope located d.elem && fieldsWellScoped true fs && inScope true link &&
      wellScoped false target
  | .fields fs => fieldsWellScoped located fs
  | .malformed _ => false
  termination_by structural plan => plan

def fieldsWellScoped (located : Bool) : List (String × Plan) → Bool
  | [] => true
  | (_, plan) :: rest => wellScoped located plan && fieldsWellScoped located rest
  termination_by structural fs => fs

end

theorem wellScoped_of_mem {located : Bool} {fs : List (String × Plan)}
    (well : fieldsWellScoped located fs = true) :
    ∀ f ∈ fs, f.2.wellScoped located = true := by
  induction fs with
  | nil => intro f member; cases member
  | cons first rest ih =>
      obtain ⟨key, plan⟩ := first
      rw [fieldsWellScoped, Bool.and_eq_true] at well
      intro f member
      rcases List.mem_cons.mp member with rfl | later
      · exact well.1
      · exact ih well.2 f later

end Plan

/-- An element is in scope wherever the plan counts on one. -/
def Scope.Provides (s : Scope) (located : Bool) : Prop :=
  located = true → s.isSome = true

theorem Scope.provides_some (focus : Focus) (located : Bool) :
    Scope.Provides (some focus) located :=
  fun _ => rfl

theorem Scope.provides_false (s : Scope) : s.Provides false := nofun

namespace Visit

variable {located : Bool} {s : Scope} {selector : Option String}

theorem current_not_isFatal (provided : s.Provides located)
    (inside : Plan.inScope located none = true) : ¬ (current s).IsFatal := by
  cases s with
  | none => exact absurd (provided inside) Bool.false_ne_true
  | some focus => exact Run.not_isFatal_of_ok rfl

theorem parsed_not_isFatal {text : String}
    (readable : Plan.inScope located (some text) = true) : ¬ (parsed text).IsFatal := by
  simp only [Plan.inScope] at readable
  cases taken : Css.Selector.read text with
  | error problem => rw [taken] at readable; cases readable
  | ok sel =>
      simp only [parsed, taken]
      exact Run.not_isFatal_of_ok rfl

theorem selectAll_not_isFatal (v : Visit) (provided : s.Provides located)
    (inside : Plan.inScope located selector = true) : ¬ (v.selectAll selector s).IsFatal := by
  cases selector with
  | none =>
      simp only [selectAll, Run.map_isFatal_iff]
      exact current_not_isFatal provided inside
  | some text =>
      refine Run.bind_not_isFatal (parsed_not_isFatal inside) fun sel _ => ?_
      split
      · -- no match is a recoverable failure
        rw [Run.not_isFatal_iff]
        intro e failed
        cases failed
        rfl
      · exact Run.not_isFatal_of_ok rfl

theorem selectFirst_not_isFatal (v : Visit) (provided : s.Provides located)
    (inside : Plan.inScope located selector = true) : ¬ (v.selectFirst selector s).IsFatal := by
  cases selector with
  | none => exact current_not_isFatal provided inside
  | some text =>
      refine Run.bind_not_isFatal (parsed_not_isFatal inside) fun sel _ => ?_
      split
      · exact Run.not_isFatal_of_ok rfl
      · rw [Run.map_isFatal_iff]
        exact selectAll_not_isFatal v provided inside

theorem narrow_not_isFatal (v : Visit) (provided : s.Provides located)
    (inside : Plan.inScope located selector = true) : ¬ (v.narrow selector s).IsFatal := by
  cases selector with
  | none =>
      cases s with
      | none => exact absurd (provided inside) Bool.false_ne_true
      | some focus => exact Run.not_isFatal_of_ok rfl
  | some text =>
      simp only [narrow, Run.map_isFatal_iff]
      exact selectFirst_not_isFatal v provided inside

end Visit

/-- Pages come only from URLs that can be read, so a followed page can always be started. -/
def ServesReadable (fetch : Fetch) : Prop :=
  ∀ q html, fetch q = .ok html → ∃ page, Page.read q.url = .ok page

theorem Visit.start_ok {url : String} {page : Page} (address : Page.read url = .ok page)
    (html : String) (depth : Nat) :
    (start url html depth).result = .ok ⟨page, .read html, depth⟩ := by
  simp only [start, address]
  rfl

theorem Visit.linked_not_isFatal {fetch : Fetch} (served : ServesReadable fetch) (policy : Policy)
    (v : Visit) (focus : Focus) {link : Option String} (inside : Plan.inScope true link = true) :
    ¬ (v.linked fetch policy focus link).IsFatal := by
  have found : ¬ (v.linkElement focus link).IsFatal := by
    cases link with
    | none => exact Run.not_isFatal_of_ok rfl
    | some text => exact selectFirst_not_isFatal v (Scope.provides_some focus true) inside
  refine Run.bind_not_isFatal found fun n _ =>
    Run.bind_not_isFatal (Run.not_isFatal_of_ok rfl) fun _ _ => ?_
  have mild : ∀ e : Failure, e.isRecoverable = true → ¬ (Run.fail e : Run Visit).IsFatal := by
    intro e recoverable
    rw [Run.not_isFatal_iff]
    intro cause failed
    cases failed
    exact recoverable
  split
  · exact mild _ rfl
  · rename_i url _
    split
    · exact mild _ rfl
    · refine Run.bind_not_isFatal (Run.not_isFatal_of_ok rfl) fun _ _ => ?_
      split
      · exact mild _ rfl
      · rename_i html loaded
        obtain ⟨page, address⟩ := served _ html loaded
        exact Run.not_isFatal_of_ok (start_ok address html _)

theorem listed_not_isFatal {rs : List (Run Value)} (safe : ∀ r ∈ rs, ¬ r.IsFatal) :
    ¬ (listed rs).IsFatal := by
  rintro ⟨e, failed, severe⟩
  obtain ⟨r, member, cause⟩ := exists_of_items_error ((listed_error_iff rs e).mp failed)
  exact safe r member ⟨e, cause, severe⟩

namespace FieldRun

theorem assemble_not_isFatal {policy : Policy} {fs : List FieldRun}
    (safe : ∀ f ∈ fs, ¬ f.run.IsFatal) : ¬ (assemble policy fs).IsFatal := by
  rintro ⟨e, failed, severe⟩
  obtain ⟨f, member, cause, _⟩ := assemble_error failed
  exact safe f member ⟨e, cause, severe⟩

/-- Where failures are isolated, only a fatal one keeps a mapping from being a value. -/
theorem assemble_ok {policy : Policy} (lenient : policy.allowsErrors = true) {fs : List FieldRun}
    (safe : ∀ f ∈ fs, ¬ f.run.IsFatal) : ∃ value, (assemble policy fs).result = .ok value := by
  cases ended : (assemble policy fs).result with
  | ok value => exact ⟨value, rfl⟩
  | error e =>
      obtain ⟨f, member, cause, propagated⟩ := assemble_error ended
      have recoverable := (Run.not_isFatal_iff f.run).mp (safe f member) e cause
      simp [isolated, recoverable, lenient] at propagated

end FieldRun

namespace Plan

variable {fetch : Fetch} (served : ServesReadable fetch) (policy : Policy)

include served

/-- The static scope of a plan is kept by evaluation: a list item and the contents of a narrowed
mapping are evaluated at an element, and a followed page from its top. -/
theorem evaluate_not_isFatal (plan : Plan) (located : Bool) (well : plan.wellScoped located = true)
    (v : Visit) (s : Scope) (provided : s.Provides located) :
    ¬ (plan.evaluate fetch policy v s).IsFatal := by
  have assembled : ∀ (fs : List (String × Plan)) (located : Bool) (v : Visit) (s : Scope),
      (∀ f ∈ fs, ∀ located, f.2.wellScoped located = true → ∀ v s, Scope.Provides s located →
        ¬ (f.2.evaluate fetch policy v s).IsFatal) →
      fieldsWellScoped located fs = true → s.Provides located →
      ∀ g ∈ fs.map (fieldRun fetch policy v s), ¬ g.run.IsFatal := by
    intro fs located v s safe well provided g member
    obtain ⟨f, inside, rfl⟩ := List.mem_map.mp member
    exact safe f inside located (wellScoped_of_mem well f inside) v s provided
  have extracted : ∀ (d : Directives) (fs : List (String × Plan)) (v : Visit) (focus : Focus),
      (∀ f ∈ fs, ∀ located, f.2.wellScoped located = true → ∀ v s, Scope.Provides s located →
        ¬ (f.2.evaluate fetch policy v s).IsFatal) →
      fieldsWellScoped true fs = true → ¬ (d.extract fetch policy fs v focus).IsFatal := by
    intro d fs v focus safe well
    simp only [Directives.extract]
    split
    · exact Run.not_isFatal_of_ok rfl
    · rw [fieldRuns_eq_map]
      exact FieldRun.assemble_not_isFatal
        (assembled fs true v (some focus) safe well (Scope.provides_some focus true))
  induction plan generalizing located v s with
  | select selector =>
      rw [wellScoped] at well
      rw [evaluate_select]
      exact Run.bind_not_isFatal (Visit.selectFirst_not_isFatal v provided well)
        fun n _ => Run.not_isFatal_of_ok rfl
  | each elem item ih =>
      rw [wellScoped, Bool.and_eq_true] at well
      rw [evaluate_each]
      refine Run.bind_not_isFatal (Visit.selectAll_not_isFatal v provided well.1) fun ns _ =>
        listed_not_isFatal fun r member => ?_
      obtain ⟨n, _, rfl⟩ := List.mem_map.mp member
      exact ih true well.2 v _ (Scope.provides_some _ true)
  | directed d fs ih =>
      rw [wellScoped, Bool.and_eq_true] at well
      rw [evaluate_directed]
      exact Run.bind_not_isFatal (Visit.narrow_not_isFatal v provided well.1) fun focus _ =>
        Run.bind_not_isFatal (extracted d fs v focus ih well.2) fun value _ =>
          Filter.gate_not_isFatal (Run.not_isFatal_of_ok rfl)
  | following d fs link target ih next =>
      simp only [wellScoped, Bool.and_eq_true] at well
      obtain ⟨⟨⟨atElement, inFields⟩, atLink⟩, below⟩ := well
      rw [evaluate_following]
      refine Run.bind_not_isFatal (Visit.narrow_not_isFatal v provided atElement) fun focus _ =>
        Run.bind_not_isFatal (extracted d fs v focus ih inFields) fun value _ =>
          Filter.gate_not_isFatal ?_
      refine Run.bind_not_isFatal (Visit.linked_not_isFatal served policy v focus atLink) ?_
      intro page _
      rw [Run.map_isFatal_iff]
      exact next false below page none (Scope.provides_false none)
  | fields fs ih =>
      rw [wellScoped] at well
      rw [evaluate_fields]
      exact FieldRun.assemble_not_isFatal (assembled fs located v s ih well provided)
  | malformed reason => cases well

end Plan

/-- With `testing` a scrape fails only fatally once its first page is there. -/
theorem absorb_ok {policy : Policy} (testing : policy.testing = true) {run : Run Value}
    (safe : ¬ run.IsFatal) : ∃ value, (absorb policy run).result = .ok value := by
  cases ended : run.result with
  | ok value => exact ⟨value, by simp only [absorb, ended]⟩
  | error e =>
      have recoverable := (Run.not_isFatal_iff run).mp safe e ended
      exact ⟨.string e.message, by simp [absorb, ended, testing, recoverable]⟩

/-- A well-scoped spec never fails fatally on a page, and a scrape of it whose first page is there
always yields a value if `testing` is set, or `separateErrors` with a mapping of fields. -/
theorem scrape_of_wellScoped (fetcher : Fetcher) (sessions : Sessions) (r : ScrapeRequest)
    (served : ServesReadable fetcher.load) (well : r.plan.wellScoped false = true) :
    (∀ (policy : Policy) (url html : String) (page : Page), Page.read url = .ok page →
      ¬ (evaluatePage fetcher.load policy r.plan url html).IsFatal) ∧
    ∀ v, r.firstVisit? fetcher sessions = some v →
      (r.policy.testing = true ∨ r.policy.separateErrors = true ∧
        ∃ entries, r.data.substitute r.params = .map entries ∧
          Plan.hasDirective entries = false) →
      ∃ value, (scrape fetcher sessions r).1.result = .ok value := by
  have safe : ∀ (policy : Policy) (v : Visit),
      ¬ (r.plan.evaluate fetcher.load policy v none).IsFatal := fun policy v =>
    Plan.evaluate_not_isFatal served policy r.plan false well v none (Scope.provides_false none)
  constructor
  · intro policy url html page address
    exact Run.bind_not_isFatal (Run.not_isFatal_of_ok (Visit.start_ok address html 0))
      fun v _ => safe policy v
  · rintro v opened lenient
    rw [scrape_result_of_firstVisit fetcher sessions r v opened]
    rcases lenient with testing | ⟨separate, entries, given, plain⟩
    · exact absorb_ok testing (safe r.policy v)
    · have isFields : r.plan = .fields (Plan.fieldsOf entries) := by
        simp [ScrapeRequest.plan, given, Plan.ofSpec, Plan.ofMapping, plain]
      have inFields : Plan.fieldsWellScoped false (Plan.fieldsOf entries) = true := by
        rw [isFields, Plan.wellScoped] at well
        exact well
      obtain ⟨value, assembled⟩ : ∃ value,
          (r.plan.evaluate fetcher.load r.policy v none).result = .ok value := by
        rw [isFields, Plan.evaluate_fields]
        apply FieldRun.assemble_ok (by simp [Policy.allowsErrors, separate])
        intro g member
        obtain ⟨f, inside, rfl⟩ := List.mem_map.mp member
        exact Plan.evaluate_not_isFatal served r.policy f.2 false
          (Plan.wellScoped_of_mem inFields f inside) v none (Scope.provides_false none)
      exact ⟨value, by simp only [absorb, assembled]⟩

/-- A missing heading and a followed link without a target, both kept apart as errors. -/
theorem scrape_of_wellScoped_linkPage :
    let data : Spec := .map
      [("heading", .selector "a"),
       ("next", .map [("_elem", .selector "p"), ("_follow", .map [("text", .selector "p")])])]
    let fetcher : Fetcher := .ofPages [("a:", linkPage)]
    let policy : Policy := { Policy.standard with separateErrors := true }
    (Plan.ofSpec data).wellScoped false = true ∧ ServesReadable fetcher.load ∧
      ∃ value, (scrape fetcher .empty (linkRequest data policy)).1.result = .ok value := by
  intro data fetcher policy
  have well : (linkRequest data policy).plan.wellScoped false = true := by rfl
  have served : ServesReadable fetcher.load := by
    intro q html loaded
    by_cases asked : "a:" = q.url
    · exact ⟨(linkVisit 0).page, by rw [← asked]; rfl⟩
    · simp [fetcher, Fetcher.ofPages, Entries.get?, asked] at loaded
  have isolating : (linkRequest data policy).policy.separateErrors = true := rfl
  exact ⟨well, served, (scrape_of_wellScoped fetcher .empty _ served well).2 (linkVisit 0)
    (firstVisit_linkRequest fetcher .empty data policy) (.inr ⟨isolating, _, rfl, rfl⟩)⟩

end PageExtract
