import PageExtract.Proofs.Grammar
import PageExtract.Proofs.Scrapes

/-!
Mappings with directives where no element is in scope. Such a mapping is refused unless its `_elem`
finds one. The target of a follow starts on a new page with nothing in scope, and its `_elem` is
taken for the link, so a target with a directive of its own is refused on every page.
-/

set_option autoImplicit false

namespace PageExtract

open Json (Value)

namespace Plan

variable {es : List (String × Spec)}

/-- What a mapping with directives is refused for where there is no element for it. -/
def refusal (es : List (String × Spec)) : Misconfiguration :=
  match followOf es with
  | .error m => .malformed m
  | .ok _ =>
    match directives es with
    | .error m => .malformed m
    | .ok _ => .missingElement

theorem refusal_cases (es : List (String × Spec)) :
    refusal es = .missingElement ∨ ∃ reason, refusal es = .malformed reason := by
  simp only [refusal]
  cases followOf es with
  | error m => exact .inr ⟨m, rfl⟩
  | ok follow =>
      cases directives es with
      | error m => exact .inr ⟨m, rfl⟩
      | ok d => exact .inl rfl

theorem evaluate_refused (steered : hasDirective es = true)
    (unplaced : stringDirective Spec.elemKey es = .ok none) (fetch : Fetch) (policy : Policy)
    (v : Visit) :
    (ofSpec (.map es)).evaluate fetch policy v none = .fail (.configuration (refusal es)) := by
  simp only [ofSpec, ofMapping, steered, Bool.not_true, Bool.false_eq_true, ↓reduceIte, refusal]
  -- a mistake in the follow comes before one in the other directives
  cases followOf es with
  | error m => exact evaluate_malformed fetch policy m v none
  | ok follow =>
      cases formed : directives es with
      | error m => exact evaluate_malformed fetch policy m v none
      | ok d =>
          have noElem : d.elem = none :=
            Except.ok.inj ((directives_ok_iff.mp formed).1.symm.trans unplaced)
          cases follow with
          | none =>
              simp only [evaluate_directed, noElem, Visit.narrow]
              exact Run.bind_of_error _ _ _ rfl
          | some f =>
              simp only [evaluate_following, noElem, Visit.narrow]
              exact Run.bind_of_error _ _ _ rfl

theorem hasDirective_withoutElem_iff : hasDirective (withoutElem es) = true ↔
    ∃ e ∈ es, (e.1 = Spec.valueKey ∨ e.1 = Spec.filterKey ∨ e.1 = Spec.followKey) ∧
      e.2.isMissing = false := by
  have other : ∀ key, key ≠ Spec.elemKey ∧ Spec.isDirective key = true ↔
      key = Spec.valueKey ∨ key = Spec.filterKey ∨ key = Spec.followKey := by
    intro key
    constructor
    · rintro ⟨differs, steers⟩
      simpa [Spec.isDirective, differs, or_assoc] using steers
    · rintro (rfl | rfl | rfl) <;> decide
  simp only [hasDirective, withoutElem, Entries.erase, List.any_eq_true, List.mem_filter,
    Bool.and_eq_true, decide_eq_true_eq, Bool.not_eq_true', ← other]
  constructor
  · rintro ⟨e, ⟨member, differs⟩, steers, given⟩
    exact ⟨e, member, ⟨differs, steers⟩, given⟩
  · rintro ⟨e, member, ⟨differs, steers⟩, given⟩
    exact ⟨e, ⟨member, differs⟩, steers, given⟩

/-- Where its target is refused on every page, a mapping comes to something only if its filter drops
it. -/
theorem dropped_of_refused {fetch : Fetch} {policy : Policy} {target : Plan} {e : Failure}
    (refused : ∀ page, target.evaluate fetch policy page none = .fail e) {d : Directives}
    {fs : List (String × Plan)} {link : Option String} {v : Visit} {s : Scope} {value : Value}
    (success : ((Plan.following d fs link target).evaluate fetch policy v s).result = .ok value) :
    value = .null ∧ ∃ f, d.filter = some f := by
  rw [evaluate_following] at success
  obtain ⟨focus, _, rest⟩ := (Run.bind_ok_iff _ _ _).mp success
  obtain ⟨held, _, gated⟩ := (Run.bind_ok_iff _ _ _).mp rest
  rw [Filter.gate_result] at gated
  split at gated
  · -- on the linked page there is nothing but the refusal
    obtain ⟨page, _, merged⟩ := (Run.bind_ok_iff _ _ _).mp gated
    rw [refused] at merged
    cases merged
  · rename_i rejected
    refine ⟨(Except.ok.inj gated).symm, ?_⟩
    cases filter : d.filter with
    | none => simp [Directives.filterBefore, filter, Filter.admits] at rejected
    | some f => exact ⟨f, rfl⟩

end Plan

/-- A follow whose target has a directive besides its `_elem` never succeeds. It fails as the way to
the linked page does, and where it gets there it is refused, before anything on that page is looked
at. So a mapping with such a follow comes to nothing, unless its filter drops it before its link is
looked at. -/
theorem steered_target_refused {es : List (String × Spec)} (elem : Spec.Textual Spec.elemKey es)
    (steered : ∃ e ∈ es, (e.1 = Spec.valueKey ∨ e.1 = Spec.filterKey ∨ e.1 = Spec.followKey) ∧
      e.2.isMissing = false) :
    ∃ link target mistake,
      Plan.stringDirective Spec.elemKey es = .ok link ∧
      Plan.targetOf (.map es) = .ok (some (link, target)) ∧
      (mistake = .missingElement ∨ ∃ reason, mistake = .malformed reason) ∧
      (∀ (fetch : Fetch) (policy : Policy) (v : Visit) (focus : Focus) (before : Value),
        let linked := v.linked fetch policy focus link
        let run := follow fetch policy v focus link before fun page =>
          target.evaluate fetch policy page none
        (∀ e, linked.result = .error e → run = ⟨.error e, linked.events⟩) ∧
        ∀ page, linked.result = .ok page → run = ⟨.error (.configuration mistake), linked.events⟩) ∧
      ∀ (outer : List (String × Spec)), Entries.get? Spec.followKey outer = some (.map es) →
        ∀ (fetch : Fetch) (policy : Policy) (v : Visit) (s : Scope) (value : Value),
          ((Plan.ofSpec (.map outer)).evaluate fetch policy v s).result = .ok value →
            value = .null ∧ ∃ f, Plan.filterOf outer = some f := by
  obtain ⟨link, read⟩ := Plan.stringDirective_isOk_iff.mpr elem
  have target : Plan.targetOf (.map es) =
      .ok (some (link, Plan.ofSpec (.map (Plan.withoutElem es)))) := Plan.targetOf_map read
  have unplaced : Plan.stringDirective Spec.elemKey (Plan.withoutElem es) = .ok none := by
    simp only [Plan.stringDirective, Plan.withoutElem, Entries.get?_erase_self]
  have refused := Plan.evaluate_refused (Plan.hasDirective_withoutElem_iff.mpr steered) unplaced
  refine ⟨link, _, Plan.refusal (Plan.withoutElem es), read, target, Plan.refusal_cases _, ?_, ?_⟩
  · intro fetch policy v focus before linked run
    have whole : run = linked.bind fun page =>
        ((Plan.ofSpec (.map (Plan.withoutElem es))).evaluate fetch policy page none).map
          (merge before) := follow_eq_bind_linked fetch policy v focus link before _
    constructor
    · intro e failed
      rw [whole, Run.bind_of_error _ _ e failed]
    · intro page arrived
      rw [whole, Run.bind_of_ok _ _ page arrived, refused]
      simp [Run.map, Run.fail, Except.map]
  · intro outer followed fetch policy v s value success
    have isFollow : Plan.followOf outer =
        .ok (some (link, Plan.ofSpec (.map (Plan.withoutElem es)))) := by
      rw [Plan.followOf_eq, followed]
      exact target
    rw [Plan.ofSpec_map_of_followed isFollow] at success
    cases formed : Plan.directives outer with
    | error m =>
        simp only [formed, Plan.evaluate_malformed] at success
        cases success
    | ok d =>
        simp only [formed] at success
        obtain ⟨dropped, f, filtered⟩ := Plan.dropped_of_refused (refused fetch policy) success
        exact ⟨dropped, f, (Plan.directives_ok_iff.mp formed).2.2.trans filtered⟩

/-- The linked page has a value for the target, which is not looked at. -/
theorem steered_target_refused_linkPage :
    let es : List (String × Spec) := [("_value", .selector "content"), ("t", .selector "p")]
    let outer : List (String × Spec) := [("_elem", .selector "p + p"), ("_follow", .map es)]
    let fetcher := Fetcher.ofPages [("a:", linkPage)]
    let linked := (linkVisit 0).linked fetcher.load .standard ⟨5, some "p + p"⟩ none
    Spec.Textual Spec.elemKey es ∧
    (∃ e ∈ es, (e.1 = Spec.valueKey ∨ e.1 = Spec.filterKey ∨ e.1 = Spec.followKey) ∧
      e.2.isMissing = false) ∧
    Entries.get? Spec.followKey outer = some (.map es) ∧
    linked.result = .ok (linkVisit 1) ∧
    ((Plan.ofSpec (.map outer)).evaluate fetcher.load .standard (linkVisit 0) none).result =
      .error (.configuration .missingElement) ∧
    ∀ value, ((Plan.ofSpec (.map outer)).evaluate fetcher.load .standard (linkVisit 0)
      none).result ≠ .ok value := by
  intro es outer fetcher linked
  have elem : Spec.Textual Spec.elemKey es := by
    intro s found
    cases found
  have steered : ∃ e ∈ es, (e.1 = Spec.valueKey ∨ e.1 = Spec.filterKey ∨ e.1 = Spec.followKey) ∧
      e.2.isMissing = false := ⟨_, List.mem_cons_self, .inl rfl, rfl⟩
  have followed : Entries.get? Spec.followKey outer = some (.map es) := rfl
  have arrived : linked.result = .ok (linkVisit 1) :=
    linked_linkPage .standard 0 (some "p + p") (by decide)
  obtain ⟨link, target, mistake, -, -, -, -, dropped⟩ := steered_target_refused elem steered
  have refused : ((Plan.ofSpec (.map outer)).evaluate fetcher.load .standard (linkVisit 0)
      none).result = .error (.configuration .missingElement) := by
    have narrowed : ((linkVisit 0).narrow (some "p + p") none).result = .ok ⟨5, some "p + p"⟩ := by
      rfl
    have plan : Plan.ofSpec (.map outer) = .following ⟨some "p + p", none, none⟩ [] none
        (.directed ⟨none, some "content", none⟩ [("t", .select (some "p"))]) := rfl
    rw [plan, Plan.evaluate_following_of_linked narrowed rfl rfl arrived]
    rfl
  refine ⟨elem, steered, followed, arrived, refused, ?_⟩
  intro value success
  obtain ⟨-, f, filtered⟩ := dropped outer followed fetcher.load .standard (linkVisit 0) none value
    success
  cases filtered

end PageExtract
