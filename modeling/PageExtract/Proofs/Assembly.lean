import PageExtract.Proofs.Entries
import PageExtract.Proofs.Scrapes

/-!
How a mapping is put together from its fields. All fields are evaluated before any is looked at; the
first failure in declared order that the policy doesn't isolate ends the mapping, and without one
each field has its entry, a failed one that of its message or its default. What a field comes to has
no part in the entries of the others.
-/

set_option autoImplicit false

namespace PageExtract

open Json (Value)

namespace FieldRun

/-- The failure of a field, if it ends the mapping. -/
def ending? (policy : Policy) (f : FieldRun) : Option Failure :=
  match f.run.result with
  | .ok _ => none
  | .error e => if (f.isolated policy e).isSome then none else some e

/-- The entry of a field: its value, or what stands for it where it failed. -/
def entry (policy : Policy) (f : FieldRun) : String × Value :=
  (f.key, match f.run.result with
    | .ok v => v
    | .error e => if policy.testing then .string e.message else f.fallback)

/-- The entry of a field among the errors of its mapping. -/
def complaint? (f : FieldRun) : Option (String × Value) :=
  match f.run.result with
  | .ok _ => none
  | .error e => some (f.key, .string e.message)

/-- The errors beside the fields of a mapping. -/
def complaints (policy : Policy) (fs : List FieldRun) : List (String × Value) :=
  if policy.separateErrors then Entries.ofList (fs.filterMap complaint?) else []

theorem isolated_isSome (policy : Policy) (f : FieldRun) (e : Failure) :
    (f.isolated policy e).isSome = (e.isRecoverable && policy.allowsErrors) := by
  by_cases lenient : (e.isRecoverable && policy.allowsErrors) = true
  · simp only [isolated, lenient, ↓reduceIte, Option.isSome_some]
  · simp only [isolated, lenient, Bool.false_eq_true, ↓reduceIte, Option.isSome_none]

theorem ending?_eq_some_iff {policy : Policy} {f : FieldRun} {e : Failure} :
    f.ending? policy = some e ↔
      f.run.result = .error e ∧ (e.isRecoverable && policy.allowsErrors) = false := by
  cases ended : f.run.result with
  | ok v => simp [ending?, ended]
  | error cause =>
      simp only [ending?, ended, isolated_isSome, Except.error.injEq]
      by_cases lenient : (cause.isRecoverable && policy.allowsErrors) = true
      · simp only [lenient, ↓reduceIte]
        constructor
        · intro impossible
          cases impossible
        · rintro ⟨rfl, strict⟩
          exact absurd lenient (Bool.eq_false_iff.mp strict)
      · simp only [lenient, Bool.false_eq_true, ↓reduceIte, Option.some.injEq]
        constructor
        · rintro rfl
          exact ⟨rfl, Bool.eq_false_iff.mpr lenient⟩
        · exact And.left

theorem ending?_eq_none_iff {policy : Policy} {f : FieldRun} :
    f.ending? policy = none ↔
      ∀ e, f.run.result = .error e → (e.isRecoverable && policy.allowsErrors) = true := by
  rw [Option.eq_none_iff_forall_ne_some]
  simp only [ne_eq, ending?_eq_some_iff, not_and, Bool.not_eq_false]

/-- Without an ending failure, fields are entered one after the other and so are their messages. -/
theorem collect_eq (policy : Policy) (fs : List FieldRun) (object errors : List (String × Value)) :
    collect policy fs object errors =
      match fs.findSome? (ending? policy) with
      | some e => .error e
      | none => .ok (Entries.extend object (fs.map (entry policy)),
          if policy.separateErrors then Entries.extend errors (fs.filterMap complaint?)
          else errors) := by
  induction fs generalizing object errors with
  | nil => simp [collect]
  | cons f rest ih =>
      cases ended : f.run.result with
      | ok v =>
          rw [collect_cons_of_ok _ _ _ _ _ v ended, ih]
          simp [ending?, entry, complaint?, ended]
      | error e =>
          by_cases lenient : (e.isRecoverable && policy.allowsErrors) = true
          · simp only [collect, ended, isolated, lenient, ↓reduceIte, ih]
            simp only [List.findSome?_cons, ending?, ended, isolated_isSome, lenient, ↓reduceIte,
              List.map_cons, entry, List.filterMap_cons, complaint?, Entries.extend_cons]
            cases policy.separateErrors <;> rfl
          · have propagated : f.isolated policy e = none := by
              simp only [isolated, lenient, Bool.false_eq_true, ↓reduceIte]
            rw [collect_cons_of_propagated _ _ _ _ _ e ended propagated]
            simp only [List.findSome?_cons, ending?, ended, propagated, Option.isSome_none,
              Bool.false_eq_true, ↓reduceIte]

theorem assemble_eq (policy : Policy) (fs : List FieldRun) :
    (assemble policy fs).result =
      match fs.findSome? (ending? policy) with
      | some e => .error e
      | none => .ok (joined (Entries.ofList (fs.map (entry policy)), complaints policy fs)) := by
  rw [assemble_result, collect_eq]
  cases fs.findSome? (ending? policy) <;> rfl

/-- A mapping fails with the first failure that ends it. -/
theorem assemble_error_iff_findSome? (policy : Policy) (fs : List FieldRun) (e : Failure) :
    (assemble policy fs).result = .error e ↔ fs.findSome? (ending? policy) = some e := by
  rw [assemble_eq]
  cases fs.findSome? (ending? policy) <;> simp

/-- A mapping succeeds with the entries of all fields, none of them having ended it. -/
theorem of_assemble_ok {policy : Policy} {fs : List FieldRun} {v : Value}
    (success : (assemble policy fs).result = .ok v) :
    (∀ f ∈ fs, f.ending? policy = none) ∧
      v = joined (Entries.ofList (fs.map (entry policy)), complaints policy fs) := by
  rw [assemble_eq] at success
  cases ended : fs.findSome? (ending? policy) with
  | some e => rw [ended] at success; cases success
  | none =>
      rw [ended, Except.ok.injEq] at success
      exact ⟨List.findSome?_eq_none_iff.mp ended, success.symm⟩

theorem joined_eq (object errors : List (String × Value)) :
    joined (object, errors) =
      .object (if errors.isEmpty then object
        else Entries.insert errorsKey (.object errors) object) := by
  cases errors <;> rfl

theorem keys_entries (policy : Policy) (fs : List FieldRun) :
    Entries.keys (fs.map (entry policy)) = fs.map key := by
  simp [Entries.keys, entry, Function.comp_def]

theorem keys_complaints_sublist (fs : List FieldRun) :
    (Entries.keys (fs.filterMap complaint?)).Sublist (fs.map key) := by
  induction fs with
  | nil => exact .slnil
  | cons f rest ih =>
      cases ended : f.run.result with
      | ok v =>
          simp only [List.filterMap_cons, complaint?, ended, List.map_cons]
          exact ih.cons _
      | error e =>
          simp only [List.filterMap_cons, complaint?, ended, List.map_cons, Entries.keys_cons]
          exact ih.cons_cons _

/-- Distinct fields have their entries in declared order, and the errors come last. -/
theorem assemble_of_distinct {policy : Policy} {fs : List FieldRun} (distinct : (fs.map key).Nodup)
    (free : errorsKey ∉ fs.map key) (unended : ∀ f ∈ fs, f.ending? policy = none) :
    (assemble policy fs).result = .ok (.object (fs.map (entry policy) ++
      if policy.separateErrors && !(fs.filterMap complaint?).isEmpty
      then [(errorsKey, .object (fs.filterMap complaint?))] else [])) := by
  have entries : Entries.ofList (fs.map (entry policy)) = fs.map (entry policy) :=
    Entries.ofList_of_distinct (keys_entries policy fs ▸ distinct)
  have errors : Entries.ofList (fs.filterMap complaint?) = fs.filterMap complaint? :=
    Entries.ofList_of_distinct ((keys_complaints_sublist fs).nodup distinct)
  have fresh : errorsKey ∉ Entries.keys (fs.map (entry policy)) := by
    rw [keys_entries]
    exact free
  rw [assemble_eq, List.findSome?_eq_none_iff.mpr unended, entries, complaints, errors, joined_eq,
    Entries.insert_of_notMem _ fresh]
  cases policy.separateErrors with
  | false => simp
  | true => cases fs.filterMap complaint? <;> simp

end FieldRun

theorem Plan.keys_fieldRuns (fetch : Fetch) (policy : Policy) (fs : List (String × Plan))
    (v : Visit) (s : Scope) : (fs.map (fieldRun fetch policy v s)).map FieldRun.key = Entries.keys fs := by
  simp only [List.map_map, Entries.keys]
  rfl

/-- A mapping of distinct fields fails exactly if a failure of a field is fatal or no flag isolates
it, and then with the first of these in declared order. Otherwise it holds a value for each field,
in declared order, and under `separateErrors` the messages of the failed fields after them, if
there are any. -/
theorem fields_assembled (fetch : Fetch) (policy : Policy) (fs : List (String × Plan)) (v : Visit)
    (s : Scope) (distinct : (Entries.keys fs).Nodup) (free : errorsKey ∉ Entries.keys fs) :
    let outcome (f : String × Plan) := (f.2.evaluate fetch policy v s).result
    let whole := ((Plan.fields fs).evaluate fetch policy v s).result
    let ends (e : Failure) :=
      e.isRecoverable = false ∨ policy.testing = false ∧ policy.separateErrors = false
    let messages := fs.filterMap fun f =>
      match outcome f with
      | .ok _ => none
      | .error e => some (f.1, Value.string e.message)
    ((∃ e, whole = .error e) ↔ ∃ f ∈ fs, ∃ e, outcome f = .error e ∧ ends e) ∧
    (∀ e, whole = .error e ↔
      ∃ before f after, fs = before ++ f :: after ∧ outcome f = .error e ∧ ends e ∧
        ∀ g ∈ before, ∀ cause, outcome g = .error cause → ¬ ends cause) ∧
    ((∀ f ∈ fs, ∀ e, outcome f = .error e → ¬ ends e) →
      whole = .ok (.object
        (fs.map (fun f => (f.1, match outcome f with
          | .ok w => w
          | .error e => if policy.testing then .string e.message else f.2.fallback)) ++
        if policy.separateErrors && !messages.isEmpty then [(errorsKey, .object messages)]
        else []))) := by
  intro outcome whole ends messages
  let runs := fs.map (Plan.fieldRun fetch policy v s)
  have sameKeys : runs.map FieldRun.key = Entries.keys fs := Plan.keys_fieldRuns fetch policy fs v s
  have isWhole : whole = (FieldRun.assemble policy runs).result := by
    simp only [whole, runs, Plan.evaluate_fields]
  have ends_iff : ∀ e : Failure, ends e ↔ (e.isRecoverable && policy.allowsErrors) = false := by
    intro e
    simp only [ends, Policy.allowsErrors, Bool.and_eq_false_iff, Bool.or_eq_false_iff,
      and_comm (a := policy.testing = false)]
  have failed : ∀ e, whole = .error e ↔
      fs.findSome? (FieldRun.ending? policy ∘ Plan.fieldRun fetch policy v s) = some e := by
    intro e
    rw [isWhole, FieldRun.assemble_error_iff_findSome?, List.findSome?_map]
  refine ⟨?_, ?_, ?_⟩
  · simp only [failed, ← Option.isSome_iff_exists, List.findSome?_isSome_iff]
    simp only [Option.isSome_iff_exists, Function.comp_apply, FieldRun.ending?_eq_some_iff,
      ends_iff]
    rfl
  · intro e
    rw [failed, List.findSome?_eq_some_iff]
    simp only [Function.comp_apply, FieldRun.ending?_eq_some_iff, FieldRun.ending?_eq_none_iff,
      ends_iff, Bool.not_eq_false, and_assoc]
    rfl
  · intro unended
    have isolated : ∀ f ∈ runs, f.ending? policy = none := by
      intro f member
      obtain ⟨g, declared, rfl⟩ := List.mem_map.mp member
      rw [FieldRun.ending?_eq_none_iff]
      intro e ended
      have lenient := unended g declared e ended
      rwa [ends_iff, Bool.not_eq_false] at lenient
    have sameMessages : runs.filterMap FieldRun.complaint? = messages := by
      simp only [runs, List.filterMap_map]
      rfl
    have sameEntries : runs.map (FieldRun.entry policy) = fs.map fun f => (f.1, match outcome f with
        | .ok w => w
        | .error e => if policy.testing then .string e.message else f.2.fallback) := by
      simp only [runs, List.map_map]
      rfl
    rw [isWhole, FieldRun.assemble_of_distinct (sameKeys ▸ distinct) (sameKeys ▸ free) isolated,
      sameMessages, sameEntries]

/-- A missing heading beside the links of the page, with a default for it and its message. -/
theorem fields_assembled_linkPage :
    let fs : List (String × Plan) := [("heading", .select (some "a")),
      ("links", .each (some "p") (.directed ⟨none, some "href", none⟩ []))]
    let policy : Policy := { Policy.standard with separateErrors := true }
    (Entries.keys fs).Nodup ∧ errorsKey ∉ Entries.keys fs ∧
      ((Plan.fields fs).evaluate (Fetcher.ofPages []).load policy (linkVisit 0) none).result =
        .ok (.object [("heading", .string ""), ("links", .array [.string "a:"]),
          ("errors", .object [("heading", .string "Couldn't find 'a'")])]) := by
  intro fs policy
  have distinct : (Entries.keys fs).Nodup := by decide
  have free : errorsKey ∉ Entries.keys fs := by decide
  refine ⟨distinct, free, ?_⟩
  rw [(fields_assembled _ policy fs (linkVisit 0) none distinct free).2.2]
  · rfl
  · intro f member e failed
    have missing : ((Plan.select (some "a")).evaluate (Fetcher.ofPages []).load policy (linkVisit 0)
        none).result = .error (.selectorNotFound "a" none) := by rfl
    have links : ((Plan.each (some "p") (.directed ⟨none, some "href", none⟩ [])).evaluate
        (Fetcher.ofPages []).load policy (linkVisit 0) none).result =
          .ok (.array [.string "a:"]) := by rfl
    simp only [fs, List.mem_cons, List.not_mem_nil, or_false] at member
    rcases member with rfl | rfl
    · cases failed.symm.trans missing
      rintro (severe | ⟨_, strict⟩)
      · cases severe
      · cases strict
    · cases failed.symm.trans links

end PageExtract
