import PageExtract.Proofs.Calls
import PageExtract.Proofs.Shapes

/-!
Errors across a follow. The mapping before a link and the mapping on the linked page list the errors
of their own fields. Merging them treats the two lists as it treats any other field, so that of the
linked page takes the place of the one before it.
-/

set_option autoImplicit false

namespace PageExtract

open Json (Value)

/-- A failure of the field is listed beside the fields. -/
def ListsError (members : List (String × Value)) (key : String) : Prop :=
  ∃ errors, Entries.get? errorsKey members = some (.object errors) ∧ key ∈ Entries.keys errors

theorem listsError_extend_iff {base extra : List (String × Value)}
    (distinct : (Entries.keys extra).Nodup) (key : String) :
    ListsError (Entries.extend base extra) key ↔
      ListsError extra key ∨ Entries.get? errorsKey extra = none ∧ ListsError base key := by
  simp only [ListsError, Entries.get?_extend errorsKey distinct]
  cases Entries.get? errorsKey extra <;> simp

namespace FieldRun

variable {policy : Policy} {fs : List FieldRun} {members : List (String × Value)}

theorem mem_keys_complaints (separate : policy.separateErrors = true) (key : String) :
    key ∈ Entries.keys (complaints policy fs) ↔
      ∃ f ∈ fs, f.key = key ∧ ∃ e, f.run.result = .error e := by
  rw [complaints, if_pos separate, Entries.mem_keys_ofList]
  constructor
  · intro listed
    obtain ⟨entry, complained, rfl⟩ := List.mem_map.mp listed
    obtain ⟨f, member, complains⟩ := List.mem_filterMap.mp complained
    simp only [complaint?] at complains
    split at complains
    · cases complains
    · rename_i e failed
      cases complains
      exact ⟨f, member, rfl, e, failed⟩
  · rintro ⟨f, member, rfl, e, failed⟩
    refine Entries.mem_keys_of_mem (List.mem_filterMap.mpr ⟨f, member, ?_⟩ :
      (f.key, Value.string e.message) ∈ _)
    simp only [complaint?, failed]

/-- No error is listed if errors are told in place, or if no field failed. -/
theorem complaints_isEmpty_iff :
    (complaints policy fs).isEmpty = true ↔
      policy.separateErrors = false ∨ ∀ f ∈ fs, ∃ w, f.run.result = .ok w := by
  cases separate : policy.separateErrors with
  | false => simp [complaints, separate]
  | true =>
      rw [List.isEmpty_iff, List.eq_nil_iff_forall_not_mem]
      constructor
      · intro none
        refine .inr fun f member => ?_
        cases ended : f.run.result with
        | ok w => exact ⟨w, rfl⟩
        | error e =>
            have listed := (mem_keys_complaints separate f.key).mpr ⟨f, member, rfl, e, ended⟩
            obtain ⟨entry, complained, _⟩ := List.mem_map.mp listed
            exact absurd complained (none entry)
      · rintro (impossible | all) entry complained
        · cases impossible
        · obtain ⟨f, member, _, e, failed⟩ :=
            (mem_keys_complaints separate entry.1).mp (Entries.mem_keys_of_mem complained)
          obtain ⟨w, came⟩ := all f member
          rw [failed] at came
          cases came

/-- What stands beside the fields of a mapping under the key of its errors: these, if there are any,
or else a field with that name. -/
theorem assemble_errors (success : (assemble policy fs).result = .ok (.object members)) :
    Entries.get? errorsKey members =
      if (complaints policy fs).isEmpty then
        Entries.get? errorsKey (Entries.ofList (fs.map (entry policy)))
      else some (.object (complaints policy fs)) := by
  obtain ⟨_, same⟩ := of_assemble_ok success
  rw [joined_eq, Value.object.injEq] at same
  rw [same]
  split
  · rfl
  · exact Entries.get?_insert_self _ _ _

/-- Every failed field of a mapping that came out is listed. -/
theorem assemble_listsError (separate : policy.separateErrors = true)
    (success : (assemble policy fs).result = .ok (.object members)) {f : FieldRun} (member : f ∈ fs)
    {e : Failure} (failed : f.run.result = .error e) : ListsError members f.key := by
  have listed : f.key ∈ Entries.keys (complaints policy fs) :=
    (mem_keys_complaints separate f.key).mpr ⟨f, member, rfl, e, failed⟩
  refine ⟨complaints policy fs, ?_, listed⟩
  rw [assemble_errors success, if_neg]
  intro none
  rw [List.isEmpty_iff.mp none] at listed
  cases listed

/-- Without a field that is named like them, the errors of a mapping are those of its fields. -/
theorem assemble_errors_iff (separate : policy.separateErrors = true)
    (free : errorsKey ∉ fs.map key)
    (success : (assemble policy fs).result = .ok (.object members)) (key : String) :
    (Entries.get? errorsKey members = none ↔ ∀ f ∈ fs, ∃ w, f.run.result = .ok w) ∧
    (ListsError members key ↔ ∃ f ∈ fs, f.key = key ∧ ∃ e, f.run.result = .error e) := by
  have unnamed : Entries.get? errorsKey (Entries.ofList (fs.map (entry policy))) = none := by
    rw [Entries.get?_eq_none_iff, Entries.mem_keys_ofList, keys_entries]
    exact free
  have none_listed : (complaints policy fs).isEmpty = true ↔
      ∀ f ∈ fs, ∃ w, f.run.result = .ok w := by
    rw [complaints_isEmpty_iff, separate]
    simp only [Bool.true_eq_false, false_or]
  have found := assemble_errors success
  rw [unnamed] at found
  constructor
  · rw [found, ← none_listed]
    cases (complaints policy fs).isEmpty <;> simp
  · constructor
    · rintro ⟨errors, present, listed⟩
      rw [found] at present
      split at present
      · cases present
      · cases present
        exact (mem_keys_complaints separate key).mp listed
    · rintro ⟨f, member, rfl, e, failed⟩
      exact assemble_listsError separate success member failed

end FieldRun

namespace Plan

variable {fetch : Fetch} {policy : Policy} {fs : List (String × Plan)} {v : Visit} {s : Scope}
  {members : List (String × Value)}

theorem fields_listsError (separate : policy.separateErrors = true)
    (success : ((Plan.fields fs).evaluate fetch policy v s).result = .ok (.object members))
    {f : String × Plan} (member : f ∈ fs) {e : Failure}
    (failed : (f.2.evaluate fetch policy v s).result = .error e) : ListsError members f.1 := by
  rw [evaluate_fields] at success
  exact FieldRun.assemble_listsError separate success (List.mem_map_of_mem member) failed

theorem fields_errors_iff (separate : policy.separateErrors = true)
    (free : errorsKey ∉ Entries.keys fs)
    (success : ((Plan.fields fs).evaluate fetch policy v s).result = .ok (.object members))
    (key : String) :
    (Entries.get? errorsKey members = none ↔
      ∀ f ∈ fs, ∃ w, (f.2.evaluate fetch policy v s).result = .ok w) ∧
    (ListsError members key ↔
      ∃ f ∈ fs, f.1 = key ∧ ∃ e, (f.2.evaluate fetch policy v s).result = .error e) := by
  rw [← keys_fieldRuns fetch policy fs v s] at free
  rw [evaluate_fields] at success
  have listed := FieldRun.assemble_errors_iff separate free success key
  simpa only [List.mem_map, forall_exists_index, and_imp, forall_apply_eq_imp_iff₂,
    exists_exists_and_eq_and, fieldRun] using listed

end Plan

/-- Where a followed link yields a mapping, the merged one lists all errors that are listed there,
those of its failed fields among them. It lists an error from before the link exactly if the linked
mapping has no errors, or lists one for the same key. -/
theorem following_errors {fetch : Fetch} {policy : Policy} (separate : policy.separateErrors = true)
    {d : Directives} {fs : List (String × Plan)} {link : Option String} {target : Plan}
    {v page : Visit} {s : Scope} {extra : List (String × Value)}
    (followed : Call.Makes fetch policy ⟨.following d fs link target, v, s⟩ ⟨target, page, none⟩)
    (mapping : (target.evaluate fetch policy page none).result = .ok (.object extra)) :
    ∃ merged, ((Plan.following d fs link target).evaluate fetch policy v s).result =
        .ok (.object merged) ∧
      (∀ key, ListsError extra key → ListsError merged key) ∧
      (∀ ts, target = .fields ts → ∀ f ∈ ts, ∀ e,
        (f.2.evaluate fetch policy page none).result = .error e → ListsError merged f.1) ∧
      ∀ focus, (v.narrow d.elem s).result = .ok focus → d.value = none →
        ∀ f ∈ fs, ∀ e, (f.2.evaluate fetch policy v (some focus)).result = .error e →
          (ListsError merged f.1 ↔
            Entries.get? errorsKey extra = none ∨ ListsError extra f.1) ∧
          ∀ ts, target = .fields ts → errorsKey ∉ Entries.keys ts →
            (ListsError merged f.1 ↔
              (∀ g ∈ ts, ∃ w, (g.2.evaluate fetch policy page none).result = .ok w) ∨
              ∃ g ∈ ts, g.1 = f.1 ∧
                ∃ e, (g.2.evaluate fetch policy page none).result = .error e) := by
  cases followed with
  | @target _ _ _ _ _ _ _ focus before narrowed extracted admitted arrived =>
    have result : ((Plan.following d fs link target).evaluate fetch policy v s).result =
        .ok (merge before (.object extra)) := by
      rw [Plan.evaluate_following_of_linked narrowed extracted admitted arrived, mapping]
      rfl
    have distinct := (Plan.evaluate_tidy mapping).distinct
    have there : ∀ ts, target = .fields ts → ∀ f ∈ ts, ∀ e,
        (f.2.evaluate fetch policy page none).result = .error e → ListsError extra f.1 := by
      rintro ts rfl f member e failed
      exact Plan.fields_listsError separate mapping member failed
    rcases Plan.extract_ok extracted with ⟨named, text⟩ | ⟨valueless, assembled⟩
    · -- a value has no fields before the link, so nothing is merged
      have replaced : merge before (.object extra) = .object extra := by
        rcases text with rfl | ⟨text, rfl⟩ <;> rfl
      rw [replaced] at result
      refine ⟨extra, result, fun key listed => listed, there, fun _ _ valueless => ?_⟩
      rw [valueless] at named
      cases named
    · obtain ⟨base, rfl⟩ := FieldRun.assemble_object assembled
      have merged_iff : ∀ key, ListsError (Entries.extend base extra) key ↔ ListsError extra key ∨
          Entries.get? errorsKey extra = none ∧ ListsError base key :=
        listsError_extend_iff distinct
      have keeps : ∀ key, ListsError extra key → ListsError (Entries.extend base extra) key :=
        fun key listed => (merged_iff key).mpr (.inl listed)
      refine ⟨Entries.extend base extra, result, keeps, ?_, ?_⟩
      · intro ts plain f member e failed
        exact keeps f.1 (there ts plain f member e failed)
      intro same narrowedSame _ f member e failed
      obtain rfl : focus = same := Except.ok.inj (narrowed.symm.trans narrowedSame)
      have listedBefore : ListsError base f.1 :=
        FieldRun.assemble_listsError separate assembled (List.mem_map_of_mem member) failed
      have kept : ListsError (Entries.extend base extra) f.1 ↔
          Entries.get? errorsKey extra = none ∨ ListsError extra f.1 := by
        rw [merged_iff, and_iff_left listedBefore, or_comm]
      refine ⟨kept, ?_⟩
      rintro ts rfl free
      obtain ⟨absent, listed⟩ := Plan.fields_errors_iff separate free mapping f.1
      rw [kept, absent, listed]

/-- A heading is missing on the page, and on the one that its link leads to. -/
theorem following_errors_linkPage :
    let fs : List (String × Plan) := [("heading", .select (some "a"))]
    let target : Plan := .fields [("heading", .select (some "a")), ("text", .select (some "p"))]
    let plan : Plan := .following ⟨some "p + p", none, none⟩ fs none target
    let policy : Policy := { Policy.standard with separateErrors := true }
    let fetch := (Fetcher.ofPages [("a:", linkPage)]).load
    Call.Makes fetch policy ⟨plan, linkVisit 0, none⟩ ⟨target, linkVisit 1, none⟩ ∧
      (∃ extra, (target.evaluate fetch policy (linkVisit 1) none).result = .ok (.object extra)) ∧
      ∃ merged, (plan.evaluate fetch policy (linkVisit 0) none).result = .ok (.object merged) ∧
        ListsError merged "heading" := by
  intro fs target plan policy fetch
  have narrowed : ((linkVisit 0).narrow (some "p + p") none).result = .ok ⟨5, some "p + p"⟩ := by
    rfl
  have followed : Call.Makes fetch policy ⟨plan, linkVisit 0, none⟩ ⟨target, linkVisit 1, none⟩ :=
    .target narrowed rfl rfl (linked_linkPage policy 0 (some "p + p") (by decide))
  have mapping : (target.evaluate fetch policy (linkVisit 1) none).result =
      .ok (.object [("heading", .string ""), ("text", .string ""),
        ("errors", .object [("heading", .string "Couldn't find 'a'")])]) := by rfl
  have missing : ((Plan.select (some "a")).evaluate fetch policy (linkVisit 0)
      (some ⟨5, some "p + p"⟩)).result = .error (.selectorNotFound "a" (some "p + p")) := by rfl
  have there : ((Plan.select (some "a")).evaluate fetch policy (linkVisit 1) none).result =
      .error (.selectorNotFound "a" none) := by rfl
  obtain ⟨merged, result, _, _, before⟩ := following_errors rfl followed mapping
  have kept := (before _ narrowed rfl _ List.mem_cons_self _ missing).2 _ rfl (by decide)
  exact ⟨followed, ⟨_, mapping⟩, merged, result,
    kept.mpr (.inr ⟨_, List.mem_cons_self, rfl, _, there⟩)⟩

/-- Of a field that is missing on the page and another that is missing on the linked one, only the
second is listed. -/
theorem following_drops_error_linkPage :
    let plan := Plan.ofSpec (.map [("_elem", .selector "p + p"), ("heading", .selector "a"),
      ("_follow", .map [("title", .selector "a")])])
    let policy : Policy := { Policy.standard with separateErrors := true }
    let fetch := (Fetcher.ofPages [("a:", linkPage)]).load
    let merged : List (String × Value) := [("heading", .string ""),
      ("errors", .object [("title", .string "Couldn't find 'a'")]), ("title", .string "")]
    (plan.evaluate fetch policy (linkVisit 0) none).result = .ok (.object merged) ∧
      ((Plan.select (some "a")).evaluate fetch policy (linkVisit 0)
        (some ⟨5, some "p + p"⟩)).result = .error (.selectorNotFound "a" (some "p + p")) ∧
      ¬ ListsError merged "heading" := by
  intro plan policy fetch merged
  have narrowed : ((linkVisit 0).narrow (some "p + p") none).result = .ok ⟨5, some "p + p"⟩ := by
    rfl
  refine ⟨?_, by rfl, ?_⟩
  · have normal : plan = .following ⟨some "p + p", none, none⟩ [("heading", .select (some "a"))]
        none (.fields [("title", .select (some "a"))]) := by rfl
    rw [normal, Plan.evaluate_following_of_linked narrowed rfl rfl
      (linked_linkPage policy 0 (some "p + p") (by decide))]
    rfl
  · rintro ⟨errors, found, listed⟩
    cases found
    exact absurd listed (by decide)

end PageExtract
