import PageExtract.Proofs.Mappings
import PageExtract.Proofs.Scrapes
import PageExtract.Proofs.Selections

/-!
Single and list forms of a spec. On its own a spec with a selector is evaluated at the first match
of it, and as the template of a list at all of them. What is evaluated at a match is the same either
way: what is left of the spec without the selector.
-/

set_option autoImplicit false

namespace PageExtract

open Json (Value)

namespace Spec

/-- A spec that finds its element by a selector, with what is left of it at that element. -/
inductive Located : Spec → String → Spec → Prop where
  | selector {text : String} (visible : Text.isAllBlank text = false) :
      Located (.selector text) text .missing
  | mapping {es : List (String × Spec)} {text : String} {d : Directives}
      {follow : Option (Option String × Plan)}
      (named : Entries.get? elemKey es = some (.selector text))
      (visible : Text.isAllBlank text = false) (formed : Plan.directives es = .ok d)
      (followed : Plan.followOf es = .ok follow) :
      Located (.map es) text (.map (Plan.withoutElem es))

end Spec

/-- A list holds what its items come to, up to the first failure and without nulls. -/
theorem items_map (run : Html.NodeId → Run Value) (ns : List Html.NodeId) :
    items (ns.map run) = (ns.mapM fun n => (run n).result).map fun ws =>
      ws.filter fun w => w.kind ≠ .null := by
  induction ns with
  | nil => rfl
  | cons n rest ih =>
      rw [List.mapM_cons, List.map_cons, items, ih]
      cases (run n).result with
      | error e => rfl
      | ok w =>
          cases rest.mapM fun n => (run n).result with
          | error e => rfl
          | ok ws => cases w <;> rfl

theorem listed_map_result (run : Html.NodeId → Run Value) (ns : List Html.NodeId) :
    (listed (ns.map run)).result = (ns.mapM fun n => (run n).result).map fun ws =>
      .array (ws.filter fun w => w.kind ≠ .null) := by
  simp only [listed, items_map]
  cases ns.mapM fun n => (run n).result <;> rfl

/-- Where a list comes to something so does its first item, which heads the list unless dropped. -/
theorem head_of_items {run : Html.NodeId → Run Value} {n : Html.NodeId} {ns : List Html.NodeId}
    {vs : List Value} (success : items ((n :: ns).map run) = .ok vs) :
    ∃ w, (run n).result = .ok w ∧ (w = .null ∨ vs.head? = some w) := by
  rw [List.map_cons] at success
  cases ended : (run n).result with
  | error e =>
      rw [items_cons_of_error ended] at success
      cases success
  | ok w =>
      refine ⟨w, rfl, ?_⟩
      simp only [items, ended] at success
      cases tail : items (ns.map run) with
      | error e =>
          rw [tail] at success
          cases success
      | ok others =>
          rw [tail] at success
          cases w with
          | null => exact .inl rfl
          | _ =>
              cases success
              exact .inr rfl

namespace Spec.Located

variable {spec rest : Spec} {selector : String}

theorem evaluate_single (located : spec.Located selector rest) (fetch : Fetch) (policy : Policy)
    (v : Visit) (s : Scope) :
    (Plan.ofSpec spec).evaluate fetch policy v s =
      (v.selectFirst (some selector) s).bind fun n =>
        (Plan.ofSpec rest).evaluate fetch policy v (some ⟨n, some selector⟩) := by
  cases located with
  | selector visible =>
      have found : Plan.nonBlank? selector = some selector := by simp [Plan.nonBlank?, visible]
      simp only [Plan.ofSpec, found, Plan.evaluate_select, Visit.selectFirst, Visit.current,
        Run.pure_bind]
  | @mapping es _ d follow named visible formed followed =>
      have elem : d.elem = some selector := by
        have read := (Plan.directives_ok_iff.mp formed).1
        simpa [Plan.stringDirective, named, Plan.nonBlank?, visible] using read.symm
      have atMatch := fun n => Plan.evaluate_map_of_located fetch policy
        (Plan.directives_withoutElem_of_ok formed) ((Plan.followOf_withoutElem es).trans followed)
        (s := some ⟨n, some selector⟩) (.inr rfl) v
      rw [Plan.evaluate_map_of_located fetch policy formed followed (.inl (by simp [elem]))]
      simp only [elem, Visit.narrow, Run.map_then_bind, atMatch, Plan.fieldsOf_withoutElem,
        Run.pure_bind]
      rfl

theorem evaluate_list (located : spec.Located selector rest) (fetch : Fetch) (policy : Policy)
    (v : Visit) (s : Scope) :
    (Plan.ofSpec (.list [spec])).evaluate fetch policy v s =
      (v.selectAll (some selector) s).bind fun ns => listed (ns.map fun n =>
        (Plan.ofSpec rest).evaluate fetch policy v (some ⟨n, some selector⟩)) := by
  cases located with
  | selector visible =>
      have found : Plan.nonBlank? selector = some selector := by simp [Plan.nonBlank?, visible]
      simp only [Plan.ofSpec, Plan.ofTemplate, found, Plan.evaluate_each]
      rfl
  | mapping named visible formed followed =>
      refine Plan.evaluate_list fetch policy ?_ v s
      simp only [Plan.stringDirective, named, Plan.nonBlank?, visible]
      rfl

end Spec.Located

/-- A spec with a selector is evaluated at the first match of it, and in a list at all of them, the
list being what comes of that up to the first failure and without nulls. Without a match both fail
alike. So a list that comes to something starts with what the spec comes to, unless that is null. -/
theorem single_agrees_with_list (spec rest : Spec) (selector : String)
    (located : spec.Located selector rest) (fetch : Fetch) (policy : Policy) (v : Visit)
    (s : Scope) :
    let single := (Plan.ofSpec spec).evaluate fetch policy v s
    let list := (Plan.ofSpec (.list [spec])).evaluate fetch policy v s
    let first := v.selectFirst (some selector) s
    let all := v.selectAll (some selector) s
    let run := fun n => (Plan.ofSpec rest).evaluate fetch policy v (some ⟨n, some selector⟩)
    single = first.bind run ∧
    list = (all.bind fun ns => listed (ns.map run)) ∧
    list.result = (all.result.bind fun ns =>
      (ns.mapM fun n => (run n).result).map fun ws => .array (ws.filter fun w => w.kind ≠ .null)) ∧
    (∀ ns, all.result = .ok ns → ∃ n, ns.head? = some n ∧ first.result = .ok n) ∧
    (∀ e, all.result = .error e → single = ⟨.error e, all.events⟩ ∧ list = ⟨.error e, all.events⟩) ∧
    (∀ sel, Css.Selector.read selector = .ok sel →
      all.result = match sel.select v.document (s.map Focus.element) with
        | [] => .error (.selectorNotFound selector (s.bind Focus.selector))
        | ns => .ok ns) ∧
    ∀ whole, list.result = .ok whole → ∃ vs w, whole = .array vs ∧ single.result = .ok w ∧
      (w = .null ∨ vs.head? = some w) := by
  intro single list first all run
  have isSingle : single = first.bind run := located.evaluate_single fetch policy v s
  have isList : list = all.bind fun ns => listed (ns.map run) :=
    located.evaluate_list fetch policy v s
  have isFirst : first = all.map fun ns => ns.headD 0 :=
    v.selectFirst_eq_map_selectAll s (some selector)
  refine ⟨isSingle, isList, ?_, ?_, ?_, fun sel taken => Visit.selectAll_result taken, ?_⟩
  · simp only [isList, Run.bind_result, listed_map_result]
  · intro ns matched
    obtain ⟨n, others, rfl, found⟩ := Visit.selectFirst_of_selectAll matched
    exact ⟨n, rfl, found⟩
  · intro e failed
    rw [isSingle, isList, isFirst, Run.map_then_bind]
    exact ⟨Run.bind_of_error _ _ e failed, Run.bind_of_error _ _ e failed⟩
  · intro whole success
    rw [isList] at success
    obtain ⟨ns, matched, built⟩ := (Run.bind_ok_iff _ _ _).mp success
    obtain ⟨n, others, rfl, found⟩ := Visit.selectFirst_of_selectAll matched
    obtain ⟨vs, complete, rfl⟩ := (listed_ok_iff _ _).mp built
    obtain ⟨w, came, starts⟩ := head_of_items complete
    refine ⟨vs, w, rfl, ?_, starts⟩
    rw [isSingle]
    exact (Run.bind_ok_iff _ _ _).mpr ⟨n, found, came⟩

/-- The paragraphs of the page: the first has no link, so its value is null, and the list of links
holds that of the second alone. -/
theorem single_agrees_with_list_linkPage :
    let es : List (String × Spec) := [("_elem", .selector "p"), ("_value", .selector "href")]
    let fetch := (Fetcher.ofPages []).load
    ((Plan.ofSpec (.list [.map es])).evaluate fetch .standard (linkVisit 0) none).result =
      .ok (.array [.string "a:"]) ∧
    ((Plan.ofSpec (.map es)).evaluate fetch .standard (linkVisit 0) none).result = .ok .null := by
  intro es fetch
  have formed : Plan.directives es = .ok ⟨some "p", some "href", none⟩ := by rfl
  have unfollowed : Plan.followOf es = .ok none := by rfl
  have located : (Spec.map es).Located "p" (.map [("_value", .selector "href")]) :=
    .mapping rfl rfl formed unfollowed
  have list : ((Plan.ofSpec (.list [.map es])).evaluate fetch .standard (linkVisit 0) none).result =
      .ok (.array [.string "a:"]) := by rfl
  obtain ⟨single, _⟩ := single_agrees_with_list _ _ "p" located fetch .standard (linkVisit 0) none
  refine ⟨list, ?_⟩
  rw [single]
  rfl

end PageExtract
