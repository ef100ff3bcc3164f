import PageExtract.Proofs.Mappings
import PageExtract.Proofs.Scrapes

/-!
Lists with a filter. The filter of an item either keeps its value or turns it into null, and a list
drops its nulls, those that come from the page too. So the filter of a list may as well be applied
to the list that comes out without it.
-/

set_option autoImplicit false

namespace PageExtract

open Json (Value)

/-- What a filter leaves of an item. -/
def Filter.retain (f : Filter) (v : Value) : Value :=
  if f.passes v then v else .null

theorem gate_pure_result (f : Filter) (r : Run Value) :
    (r.bind fun v => Filter.gate (some f) v .pure).result = r.result.map f.retain := by
  rw [Run.bind_result]
  cases r.result with
  | error e => rfl
  | ok v =>
      by_cases passed : f.passes v = true
      · simp [Except.bind, Except.map, Filter.gate_result, Filter.admits, Filter.retain, passed]
      · simp [Except.bind, Except.map, Filter.gate_result, Filter.admits, Filter.retain, passed]

/-- Nulls are dropped from a list either way, so it doesn't matter what the filter says on them. -/
theorem items_retained (f : Filter) (ns : List Html.NodeId)
    {bare kept : Html.NodeId → Run Value}
    (retained : ∀ n, (kept n).result = (bare n).result.map f.retain) :
    items (ns.map kept) = (items (ns.map bare)).map (List.filter f.passes) := by
  induction ns with
  | nil => rfl
  | cons n rest ih =>
      simp only [List.map_cons, items, retained n]
      cases (bare n).result with
      | error e => rfl
      | ok v =>
          simp only [Except.map, ih]
          cases items (rest.map bare) with
          | error e => rfl
          | ok vs =>
              by_cases passed : f.passes v = true
              · cases v <;> simp [Filter.retain, passed]
              · cases v <;> simp [Filter.retain, passed]

namespace Plan

variable (fetch : Fetch) (policy : Policy)

theorem followOf_of_missing {es : List (String × Spec)}
    (unfollowed : ∀ follow, Entries.get? Spec.followKey es = some follow → follow = .missing) :
    followOf es = .ok none := by
  rw [followOf_eq]
  cases found : Entries.get? Spec.followKey es with
  | none => rfl
  | some follow =>
      rw [unfollowed follow found]
      rfl

/-- An item comes to the same with and without its filter, but for what the filter rejects. -/
theorem itemOf_retained {es : List (String × Spec)} {f : Filter} (filtered : filterOf es = some f)
    (unfollowed : ∀ follow, Entries.get? Spec.followKey es = some follow → follow = .missing)
    (v : Visit) (focus : Focus) :
    ((itemOf (.map es)).evaluate fetch policy v (some focus)).result =
      ((itemOf (.map (Entries.erase Spec.filterKey es))).evaluate fetch policy v
        (some focus)).result.map f.retain := by
  have sameFollow : Entries.get? Spec.followKey (Entries.erase Spec.filterKey es) =
      Entries.get? Spec.followKey es := Entries.get?_erase_of_ne (by decide) es
  have sameValue : stringDirective Spec.valueKey (Entries.erase Spec.filterKey es) =
      stringDirective Spec.valueKey es :=
    stringDirective_congr (Entries.get?_erase_of_ne (by decide) es)
  have unfiltered : filterOf (Entries.erase Spec.filterKey es) = none := by
    simp only [filterOf, Entries.get?_erase_self]
  rw [evaluate_itemOf fetch policy (followOf_of_missing unfollowed),
    evaluate_itemOf fetch policy (followOf_of_missing (by rwa [sameFollow])), sameValue,
    fieldsOf_erase rfl, filtered, unfiltered]
  cases stringDirective Spec.valueKey es with
  | error m => rfl
  | ok value =>
      simp only [Filter.gate_none, Run.bind_pure]
      -- the filter is no part of what is extracted
      exact gate_pure_result f (Directives.extract fetch policy ⟨none, value, none⟩ _ v focus)

/-- Both lists visit the same matches, and end with the same item if one fails. -/
theorem evaluate_each_retained {bare kept : Plan} {f : Filter} {v : Visit}
    (retained : ∀ focus, (kept.evaluate fetch policy v (some focus)).result =
      (bare.evaluate fetch policy v (some focus)).result.map f.retain)
    (elem : Option String) (s : Scope) :
    (∃ all, ((Plan.each elem bare).evaluate fetch policy v s).result = .ok (.array all) ∧
      ((Plan.each elem kept).evaluate fetch policy v s).result =
        .ok (.array (all.filter f.passes))) ∨
    ∃ e, ((Plan.each elem bare).evaluate fetch policy v s).result = .error e ∧
      ((Plan.each elem kept).evaluate fetch policy v s).result = .error e := by
  simp only [evaluate_each, Run.bind_result]
  cases (v.selectAll elem s).result with
  | error e => exact .inr ⟨e, rfl, rfl⟩
  | ok ns =>
      simp only [Except.bind, listed]
      have related := items_retained f ns fun n =>
        retained ⟨n, elem.or (s.bind Focus.selector)⟩
      simp only [itemScope, related]
      cases items (ns.map fun n =>
          bare.evaluate fetch policy v (some ⟨n, elem.or (s.bind Focus.selector)⟩)) with
      | error e => exact .inr ⟨e, rfl, rfl⟩
      | ok all => exact .inl ⟨all, rfl, rfl⟩

end Plan

/-- A list with a filter holds those items of the list without it that pass, and fails as that one
does. -/
theorem list_filter_eq_filter (fetch : Fetch) (policy : Policy) (v : Visit) (s : Scope)
    (es : List (String × Spec)) (wanted : Spec)
    (filtered : Entries.get? Spec.filterKey es = some wanted) (present : wanted ≠ .missing)
    (unfollowed : ∀ follow, Entries.get? Spec.followKey es = some follow → follow = .missing) :
    let bare := (Plan.ofSpec (.list [.map (Entries.erase Spec.filterKey es)])).evaluate
      fetch policy v s
    let kept := (Plan.ofSpec (.list [.map es])).evaluate fetch policy v s
    let passes := (Filter.ofSpec wanted).passes
    (∃ all, bare.result = .ok (.array all) ∧ kept.result = .ok (.array (all.filter passes)) ∧
      (all.filter passes).filter passes = all.filter passes ∧
      (all.filter passes).length = all.length - all.countP fun item => !passes item) ∨
    ∃ e, bare.result = .error e ∧ kept.result = .error e := by
  intro bare kept passes
  have isFilter : Plan.filterOf es = some (.ofSpec wanted) := by
    cases wanted with
    | missing => exact absurd rfl present
    | _ => simp only [Plan.filterOf, filtered]
  have sameElem : Plan.stringDirective Spec.elemKey (Entries.erase Spec.filterKey es) =
      Plan.stringDirective Spec.elemKey es :=
    Plan.stringDirective_congr (Entries.get?_erase_of_ne (by decide) es)
  have related : (∃ all, bare.result = .ok (.array all) ∧
      kept.result = .ok (.array (all.filter passes))) ∨
      ∃ e, bare.result = .error e ∧ kept.result = .error e := by
    simp only [kept, bare, Plan.ofSpec, Plan.ofTemplate, sameElem]
    cases Plan.stringDirective Spec.elemKey es with
    | error m =>
        simp only [Plan.evaluate_malformed]
        exact .inr ⟨_, rfl, rfl⟩
    | ok elem =>
        exact Plan.evaluate_each_retained fetch policy
          (Plan.itemOf_retained fetch policy isFilter unfollowed v) elem s
  rcases related with ⟨all, success, filteredAll⟩ | failed
  · have counted : all.length = all.countP passes + all.countP fun item => !passes item := by
      simpa using @List.length_eq_countP_add_countP _ passes all
    refine .inl ⟨all, success, filteredAll, ?_, ?_⟩
    · exact List.filter_eq_self.mpr fun item member => (List.mem_filter.mp member).2
    · rw [← List.countP_eq_length_filter]
      omega
  · exact .inr failed

/-- The links of the page without and with a filter that rejects the only one. -/
theorem list_filter_linkPage :
    let es : List (String × Spec) := [("_elem", .selector "p"), ("_value", .selector "href"),
      ("_filter", .selector "z")]
    let fetch := (Fetcher.ofPages []).load
    ((Plan.ofSpec (.list [.map (Entries.erase Spec.filterKey es)])).evaluate fetch .standard
      (linkVisit 0) none).result = .ok (.array [.string "a:"]) ∧
    ((Plan.ofSpec (.list [.map es])).evaluate fetch .standard (linkVisit 0) none).result =
      .ok (.array []) := by
  intro es fetch
  have bare : ((Plan.ofSpec (.list [.map (Entries.erase Spec.filterKey es)])).evaluate fetch
      .standard (linkVisit 0) none).result = .ok (.array [.string "a:"]) := by rfl
  refine ⟨bare, ?_⟩
  rcases list_filter_eq_filter fetch .standard (linkVisit 0) none es (.selector "z") rfl nofun
    (fun _ found => by cases found) with ⟨all, success, kept, _⟩ | ⟨e, failed, _⟩
  · rw [bare] at success
    cases success
    exact kept
  · rw [bare] at failed
    cases failed

end PageExtract
