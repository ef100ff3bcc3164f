import PageExtract.Proofs.Evaluations

/-!
Selections. The first match of a selector is the head of all its matches, of which there is one
where the selection succeeds. All that is reported on the way is the miss that a selection fails
with.
-/

set_option autoImplicit false

namespace PageExtract

open Html (Document NodeId)

theorem Css.Selector.first?_eq_head? (sel : Css.Selector) (d : Document) (scope : Option NodeId) :
    sel.first? d scope = (sel.select d scope).head? := by
  rw [select, first?, List.head?_filter]

/-- What selections fail with. -/
inductive Failure.OfSelection : Failure → Prop where
  | missingElement : OfSelection (.configuration .missingElement)
  | invalid (selector reason : String) : OfSelection (.invalidSelector selector reason)
  | notFound (selector : String) (context : Option String) :
      OfSelection (.selectorNotFound selector context)

/-- What is reported by a selection that fails in this way. -/
def Failure.reported : Failure → List Event
  | .selectorNotFound selector context => [.diagnostic (.miss selector context)]
  | _ => []

/-- The run does nothing but select: it fails only as a selection does, and reports a miss exactly
if it fails with it. -/
structure Run.Selects {α : Type} (r : Run α) : Prop where
  silent : ∀ a, r.result = .ok a → r.events = []
  reported : ∀ e, r.result = .error e → r.events = e.reported
  failure : ∀ e, r.result = .error e → e.OfSelection

namespace Run.Selects

variable {α β : Type} {r : Run α}

theorem pure (a : α) : (Run.pure a).Selects :=
  ⟨fun _ _ => rfl, fun _ => nofun, fun _ => nofun⟩

/-- A selection that there is nothing to select for. -/
theorem fail {e : Failure} (unreported : e.reported = []) (kind : e.OfSelection) :
    (Run.fail e : Run α).Selects := by
  refine ⟨fun _ => nofun, ?_, ?_⟩
  · rintro _ ⟨⟩
    exact unreported.symm
  · rintro _ ⟨⟩
    exact kind

theorem map (selects : r.Selects) (f : α → β) : (r.map f).Selects := by
  refine ⟨?_, ?_, ?_⟩
  · intro b success
    obtain ⟨a, found, _⟩ := (map_ok_iff f r b).mp success
    exact selects.silent a found
  · exact fun e failed => selects.reported e ((map_error_iff f r e).mp failed)
  · exact fun e failed => selects.failure e ((map_error_iff f r e).mp failed)

theorem bind (selects : r.Selects) {next : α → Run β} (rest : ∀ a, (next a).Selects) :
    (r.bind next).Selects := by
  cases ended : r.result with
  | error e =>
      rw [bind_of_error _ _ e ended]
      refine ⟨fun _ => nofun, ?_, ?_⟩
      · rintro _ ⟨⟩
        exact selects.reported e ended
      · rintro _ ⟨⟩
        exact selects.failure e ended
  | ok a =>
      rw [bind_of_ok _ _ a ended, selects.silent a ended, List.nil_append]
      exact rest a

/-- Whatever a selection reports is the miss that it fails with. -/
theorem miss_of_mem (selects : r.Selects) {e : Event} (member : e ∈ r.events) :
    ∃ selector context, e = .diagnostic (.miss selector context) ∧
      r.result = .error (.selectorNotFound selector context) := by
  cases ended : r.result with
  | ok a =>
      rw [selects.silent a ended] at member
      cases member
  | error cause =>
      rw [selects.reported cause ended] at member
      cases cause with
      | selectorNotFound selector context =>
          exact ⟨selector, context, List.mem_singleton.mp member, rfl⟩
      | _ => cases member

/-- A selection that fails ends the run that it begins, with its miss reported. -/
theorem bind_of_failed (selects : r.Selects) {e : Failure} (failed : r.result = .error e)
    (next : α → Run β) : r.bind next = ⟨.error e, e.reported⟩ := by
  rw [bind_of_error _ _ e failed, selects.reported e failed]

end Run.Selects

namespace Visit

variable (v : Visit) (s : Scope)

theorem parsed_of_read {text : String} {sel : Css.Selector}
    (taken : Css.Selector.read text = .ok sel) : parsed text = .pure sel := by
  simp only [parsed, taken]

/-- Selecting one element and selecting all fail alike, and report the same. -/
theorem selectFirst_eq_map_selectAll (selector : Option String) :
    v.selectFirst selector s = (v.selectAll selector s).map fun ns => ns.headD 0 := by
  cases selector with
  | none => cases s <;> rfl
  | some text =>
      cases taken : Css.Selector.read text with
      | error problem =>
          simp only [selectFirst, selectAll, parsed, taken]
          rfl
      | ok sel =>
          simp only [selectFirst, selectAll, parsed_of_read taken, Run.pure_bind,
            Css.Selector.first?_eq_head?]
          cases sel.select v.document (s.map Focus.element) <;> rfl

variable {v s}

theorem selectAll_ne_nil {selector : Option String} {ns : List NodeId}
    (matched : (v.selectAll selector s).result = .ok ns) : ns ≠ [] := by
  rintro rfl
  cases selector with
  | none =>
      obtain ⟨n, _, impossible⟩ := (Run.map_ok_iff _ _ _).mp matched
      cases impossible
  | some text =>
      obtain ⟨sel, _, found⟩ := (Run.bind_ok_iff _ _ _).mp matched
      split at found
      · cases found
      · rename_i matching
        exact matching (Except.ok.inj found)

theorem selectFirst_of_selectAll {selector : Option String} {ns : List NodeId}
    (matched : (v.selectAll selector s).result = .ok ns) :
    ∃ n others, ns = n :: others ∧ (v.selectFirst selector s).result = .ok n := by
  obtain ⟨n, others, rfl⟩ := List.exists_cons_of_ne_nil (selectAll_ne_nil matched)
  refine ⟨n, others, rfl, ?_⟩
  rw [selectFirst_eq_map_selectAll, Run.map_result, matched]
  rfl

theorem selectAll_result {text : String} {sel : Css.Selector}
    (taken : Css.Selector.read text = .ok sel) :
    (v.selectAll (some text) s).result = match sel.select v.document (s.map Focus.element) with
      | [] => .error (.selectorNotFound text (s.bind Focus.selector))
      | ns => .ok ns := by
  simp only [selectAll, parsed_of_read taken, Run.pure_bind]
  cases sel.select v.document (s.map Focus.element) <;> rfl

theorem current_selects : (current s).Selects := by
  cases s with
  | none => exact .fail rfl .missingElement
  | some focus => exact .pure focus.element

theorem parsed_selects (text : String) : (parsed text).Selects := by
  cases taken : Css.Selector.read text with
  | error problem =>
      simp only [parsed, taken]
      exact .fail rfl (.invalid text _)
  | ok sel =>
      rw [parsed_of_read taken]
      exact .pure sel

variable (v s)

theorem selectAll_selects (selector : Option String) : (v.selectAll selector s).Selects := by
  cases selector with
  | none => exact current_selects.map _
  | some text =>
      refine (parsed_selects text).bind fun sel => ?_
      split
      · refine ⟨fun _ => nofun, ?_, ?_⟩
        · rintro _ ⟨⟩
          rfl
        · rintro _ ⟨⟩
          exact .notFound text _
      · exact .pure _

theorem selectFirst_selects (selector : Option String) : (v.selectFirst selector s).Selects := by
  rw [selectFirst_eq_map_selectAll]
  exact (selectAll_selects v s selector).map _

theorem narrow_selects (elem : Option String) : (v.narrow elem s).Selects := by
  cases elem with
  | some text => exact (selectFirst_selects v s (some text)).map _
  | none =>
      cases s with
      | none => exact .fail rfl .missingElement
      | some focus => exact .pure focus

theorem linkElement_selects (focus : Focus) (link : Option String) :
    (v.linkElement focus link).Selects := by
  cases link with
  | some text => exact selectFirst_selects v (some focus) (some text)
  | none => exact .pure focus.element

/-- What a selection reports, said of what it comes to: one line for a miss, and nothing else. -/
theorem selectAll_events (selector : Option String) :
    (v.selectAll selector s).events = match (v.selectAll selector s).result with
      | .error (.selectorNotFound text context) => [.diagnostic (.miss text context)]
      | _ => [] := by
  have selects := selectAll_selects v s selector
  cases ended : (v.selectAll selector s).result with
  | ok ns => exact selects.silent ns ended
  | error e =>
      rw [selects.reported e ended]
      cases e <;> rfl

/-- The first match is the head of all matches. Both ways of selecting fail alike and report the
same, one line for a miss and nothing else. There is a match wherever all are selected, so nothing
that might stand in for a missing head is ever given. -/
theorem selectFirst_head_of_all (v : Visit) (selector : Option String) (s : Scope) :
    (∀ n, (v.selectFirst selector s).result = .ok n ↔
      ∃ others, (v.selectAll selector s).result = .ok (n :: others)) ∧
    (∀ e, (v.selectFirst selector s).result = .error e ↔
      (v.selectAll selector s).result = .error e) ∧
    (v.selectFirst selector s).events = (v.selectAll selector s).events ∧
    ((v.selectAll selector s).events = match (v.selectAll selector s).result with
      | .error (.selectorNotFound text context) => [.diagnostic (.miss text context)]
      | _ => []) ∧
    (v.selectAll selector s).result ≠ .ok [] ∧
    ∀ standIn : NodeId,
      v.selectFirst selector s = (v.selectAll selector s).map fun ns => ns.headD standIn := by
  have found : (v.selectAll selector s).result ≠ .ok [] := fun none => selectAll_ne_nil none rfl
  have headed : ∀ standIn : NodeId,
      v.selectFirst selector s = (v.selectAll selector s).map fun ns => ns.headD standIn := by
    intro standIn
    rw [selectFirst_eq_map_selectAll]
    apply Run.ext
    · rw [Run.map_result, Run.map_result]
      cases ended : (v.selectAll selector s).result with
      | error e => rfl
      | ok ns =>
          obtain ⟨n, others, rfl⟩ := List.exists_cons_of_ne_nil (selectAll_ne_nil ended)
          rfl
    · rfl
  refine ⟨fun n => ?_, fun e => ?_, ?_, selectAll_events v s selector, found, headed⟩
  · rw [headed 0, Run.map_ok_iff]
    constructor
    · rintro ⟨ns, matched, rfl⟩
      obtain ⟨n, others, rfl⟩ := List.exists_cons_of_ne_nil (selectAll_ne_nil matched)
      exact ⟨others, matched⟩
    · rintro ⟨others, matched⟩
      exact ⟨n :: others, matched, rfl⟩
  · rw [headed 0, Run.map_error_iff]
  · rw [headed 0]
    rfl

end Visit

end PageExtract
