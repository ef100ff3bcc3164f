import PageExtract.Proofs.FollowedErrors
import PageExtract.Proofs.Mappings

/-!
What fields leave in their mapping. Each field that succeeds has its value under its own name,
unless that is the name under which the errors of other fields are listed.
-/

set_option autoImplicit false

namespace PageExtract

open Json (Value)

namespace FieldRun

variable {policy : Policy} {fs : List FieldRun} {members : List (String × Value)}

/-- A field that succeeds is found under its name, but for errors that are listed there. -/
theorem get?_assemble_of_ok (distinct : (fs.map key).Nodup)
    (success : (assemble policy fs).result = .ok (.object members)) {f : FieldRun} (member : f ∈ fs)
    {w : Value} (came : f.run.result = .ok w) :
    Entries.get? f.key members =
      if f.key = errorsKey ∧ (complaints policy fs).isEmpty = false then
        some (.object (complaints policy fs))
      else some w := by
  have distinctEntries : (Entries.keys (fs.map (entry policy))).Nodup :=
    keys_entries policy fs ▸ distinct
  have isEntry : (f.key, w) ∈ fs.map (entry policy) :=
    List.mem_map.mpr ⟨f, member, by simp only [entry, came]⟩
  have entered : Entries.get? f.key (Entries.ofList (fs.map (entry policy))) = some w := by
    rw [Entries.ofList_of_distinct distinctEntries]
    exact Entries.get?_of_mem distinctEntries isEntry
  obtain ⟨_, same⟩ := of_assemble_ok success
  rw [joined_eq, Value.object.injEq] at same
  rw [same]
  cases none : (complaints policy fs).isEmpty with
  | true => simp [entered]
  | false =>
      by_cases named : f.key = errorsKey
      · rw [if_neg (by decide), if_pos ⟨named, rfl⟩, named]
        exact Entries.get?_insert_self _ _ _
      · rw [if_neg (by decide), if_neg fun both => named both.1,
          Entries.get?_insert_of_ne named, entered]

theorem get?_assemble_iff (distinct : (fs.map key).Nodup)
    (success : (assemble policy fs).result = .ok (.object members)) {f : FieldRun} (member : f ∈ fs)
    {w : Value} (came : f.run.result = .ok w) :
    Entries.get? f.key members = some w ↔
      f.key ≠ errorsKey ∨ (complaints policy fs).isEmpty = true ∨
        w = .object (complaints policy fs) := by
  rw [get?_assemble_of_ok distinct success member came]
  by_cases taken : f.key = errorsKey ∧ (complaints policy fs).isEmpty = false
  · obtain ⟨named, listed⟩ := taken
    rw [if_pos ⟨named, listed⟩, Option.some.injEq, eq_comm]
    simp only [named, listed, ne_eq, not_true_eq_false, Bool.false_eq_true, false_or]
  · rw [if_neg taken]
    refine iff_of_true rfl ?_
    rcases not_and_or.mp taken with apart | none_listed
    · exact .inl apart
    · exact .inr (.inl (Bool.eq_true_of_not_eq_false none_listed))

/-- Fields of distinct names complain once each. -/
theorem complaints_of_distinct (distinct : (fs.map key).Nodup)
    (separate : policy.separateErrors = true) :
    complaints policy fs = fs.filterMap complaint? := by
  rw [complaints, if_pos separate,
    Entries.ofList_of_distinct ((keys_complaints_sublist fs).nodup distinct)]

end FieldRun

namespace Plan

theorem keys_fieldsOf_sublist (es : List (String × Spec)) :
    (Entries.keys (fieldsOf es)).Sublist (Entries.keys es) := by
  have sameKeys : Entries.keys (fieldsOf es) =
      Entries.keys (es.filter fun e => !Spec.isDirective e.1) := by
    rw [fieldsOf_eq, Entries.keys_map]
  rw [sameKeys]
  exact List.filter_sublist.map Prod.fst

end Plan

/-- Where the fields of a mapping of distinct keys come out, each field that succeeds has its value
under its own name, exactly if that isn't the name of the errors, or there are none to list, or the
value is what they look like. -/
theorem field_kept_iff {fetch : Fetch} {policy : Policy} {es : List (String × Spec)}
    (distinct : (Entries.keys es).Nodup) {v : Visit} {s : Scope} {members : List (String × Value)}
    (success : (FieldRun.assemble policy
      (Plan.fieldRuns fetch policy (Plan.fieldsOf es) v s)).result = .ok (.object members))
    {field : String × Spec} (declared : field ∈ es) (names : Spec.isDirective field.1 = false)
    {w : Value} (came : ((Plan.ofSpec field.2).evaluate fetch policy v s).result = .ok w) :
    let outcome (f : String × Plan) := (f.2.evaluate fetch policy v s).result
    let messages := (Plan.fieldsOf es).filterMap fun f =>
      match outcome f with
      | .ok _ => none
      | .error e => some (f.1, Value.string e.message)
    Entries.get? field.1 members = some w ↔
      field.1 ≠ errorsKey ∨ policy.separateErrors = false ∨
        (∀ f ∈ Plan.fieldsOf es, ∃ u, outcome f = .ok u) ∨ w = .object messages := by
  intro outcome messages
  let runs := (Plan.fieldsOf es).map (Plan.fieldRun fetch policy v s)
  rw [Plan.fieldRuns_eq_map] at success
  have keysOf : runs.map FieldRun.key = Entries.keys (Plan.fieldsOf es) :=
    Plan.keys_fieldRuns fetch policy (Plan.fieldsOf es) v s
  have distinctRuns : (runs.map FieldRun.key).Nodup :=
    keysOf ▸ (Plan.keys_fieldsOf_sublist es).nodup distinct
  have isField : (field.1, Plan.ofSpec field.2) ∈ Plan.fieldsOf es := by
    rw [Plan.fieldsOf_eq]
    exact List.mem_map.mpr ⟨field, List.mem_filter.mpr ⟨declared, by rw [names]; rfl⟩, rfl⟩
  have allCame : (∀ f ∈ runs, ∃ u, f.run.result = .ok u) ↔
      ∀ f ∈ Plan.fieldsOf es, ∃ u, outcome f = .ok u := List.forall_mem_map
  have kept := FieldRun.get?_assemble_iff distinctRuns success (List.mem_map_of_mem isField) came
  rw [FieldRun.complaints_isEmpty_iff, allCame, or_assoc] at kept
  refine kept.trans (or_congr_right ?_)
  cases separate : policy.separateErrors with
  | false => simp only [true_or]
  | true =>
      have listed : FieldRun.complaints policy runs = messages := by
        rw [FieldRun.complaints_of_distinct distinctRuns separate]
        simp only [runs, List.filterMap_map]
        rfl
      rw [listed]

/-- A field with the name of the errors beside one that isn't found: kept where failures are told in
their place. -/
theorem field_kept_linkPage :
    let es : List (String × Spec) := [("errors", .selector "p"), ("title", .selector "a")]
    let policy : Policy := { Policy.standard with testing := true }
    let fetch := (Fetcher.ofPages []).load
    let members : List (String × Value) :=
      [("errors", .string ""), ("title", .string "Couldn't find 'a'")]
    (Entries.keys es).Nodup ∧ ("errors", Spec.selector "p") ∈ es ∧
      Spec.isDirective "errors" = false ∧
      (FieldRun.assemble policy (Plan.fieldRuns fetch policy (Plan.fieldsOf es) (linkVisit 0)
        none)).result = .ok (.object members) ∧
      ((Plan.ofSpec (.selector "p")).evaluate fetch policy (linkVisit 0) none).result =
        .ok (.string "") ∧
      Entries.get? "errors" members = some (.string "") := by
  intro es policy fetch members
  have distinct : (Entries.keys es).Nodup := by decide
  have declared : ("errors", Spec.selector "p") ∈ es := List.mem_cons_self
  have success : (FieldRun.assemble policy (Plan.fieldRuns fetch policy (Plan.fieldsOf es)
      (linkVisit 0) none)).result = .ok (.object members) := by rfl
  have came : ((Plan.ofSpec (.selector "p")).evaluate fetch policy (linkVisit 0) none).result =
      .ok (.string "") := by rfl
  exact ⟨distinct, declared, by decide, success, came,
    (field_kept_iff distinct success declared (by decide) came).mpr (.inr (.inl rfl))⟩

/-- Where errors are listed beside the fields, the value of a field with their name is lost. -/
theorem errors_replace_field_linkPage :
    let es : List (String × Spec) := [("errors", .selector "p"), ("title", .selector "a")]
    let policy : Policy := { Policy.standard with separateErrors := true }
    let fetch := (Fetcher.ofPages []).load
    let members : List (String × Value) :=
      [("errors", .object [("title", .string "Couldn't find 'a'")]), ("title", .string "")]
    (Entries.keys es).Nodup ∧
      ((Plan.ofSpec (.map es)).evaluate fetch policy (linkVisit 0) none).result =
        .ok (.object members) ∧
      ((Plan.ofSpec (.selector "p")).evaluate fetch policy (linkVisit 0) none).result =
        .ok (.string "") ∧
      Entries.get? "errors" members ≠ some (.string "") := by
  intro es policy fetch members
  refine ⟨by decide, by rfl, by rfl, ?_⟩
  intro impossible
  cases impossible

end PageExtract
