import PageExtract.Proofs.Shapes

/-!
The defaults of failed fields. A default is chosen from the plan of a field alone, and what the
field yields has the kind that its plan tells. The two agree unless a mapping both names a value and
follows a link: its default is that of the value, though the linked page takes the place of it.
-/

set_option autoImplicit false

namespace PageExtract

open Json (Value)

namespace Plan

/-- On the way down its follows, a plan names a value beside a link whose target yields no text. -/
def hidesTarget : Plan → Bool
  | .following d _ _ target =>
    if d.value.isSome then target.kind? != some .string else target.hidesTarget
  | _ => false
  termination_by structural plan => plan

theorem fallback_kind_iff {plan : Plan} {k : Value.Kind} (known : plan.kind? = some k) :
    plan.fallback.kind = k ↔ plan.hidesTarget = false := by
  induction plan with
  | select _ =>
      cases known
      simp [fallback, hidesTarget, Value.kind]
  | each _ _ =>
      cases known
      simp [fallback, hidesTarget, Value.kind]
  | directed d fs _ =>
      cases known
      cases named : d.value.isSome <;> simp [fallback, hidesTarget, named, Value.kind]
  | following d fs link target _ ih =>
      rw [kind?] at known
      cases named : d.value.isSome with
      | true =>
          simp only [fallback, hidesTarget, named, ↓reduceIte, known, Value.kind,
            bne_eq_false_iff_eq, Option.some.injEq]
          exact eq_comm
      | false =>
          simp only [fallback, hidesTarget, named, Bool.false_eq_true, ↓reduceIte]
          exact ih known
  | fields _ _ =>
      cases known
      simp [fallback, hidesTarget, Value.kind]
  | malformed _ => cases known

end Plan

/-- A field that fails recoverably gets its default where errors are kept apart. This is of the kind
of anything but null that the field yields, on whatever page and by whatever fetcher, exactly if its
plan doesn't name a value that a follow replaces by something of another kind. -/
theorem default_kind_iff (key : String) (plan : Plan) {fetch other : Fetch}
    {policy separate : Policy} {v page : Visit} {s scope : Scope} {value : Value} {e : Failure}
    (success : (plan.evaluate fetch policy v s).result = .ok value) (present : value ≠ .null)
    (failed : (plan.evaluate other separate page scope).result = .error e)
    (recoverable : e.isRecoverable = true) (separates : separate.separateErrors = true)
    (quiet : separate.testing = false) :
    let field := Plan.fieldRun other separate page scope (key, plan)
    field.run.result = .error e ∧
      ∃ default, field.isolated separate e = some default ∧
        (default.kind = value.kind ↔ plan.hidesTarget = false) := by
  intro field
  refine ⟨failed, plan.fallback, ?_, ?_⟩
  · simp [field, Plan.fieldRun, FieldRun.isolated, recoverable, Policy.allowsErrors, separates,
      quiet]
  · exact Plan.fallback_kind_iff ((Plan.evaluate_kind success).resolve_left present)

/-- The paragraphs of a linked page, on a page that is there and on one that is not. -/
theorem default_kind_linkPage :
    let plan : Plan :=
      .following ⟨some "p + p", none, none⟩ [] none (.each (some "p") (.select none))
    let separate : Policy := { Policy.standard with separateErrors := true }
    let value : Value := .array [.string "", .string ""]
    let field := Plan.fieldRun (Fetcher.ofPages []).load separate (linkVisit 0) none ("next", plan)
    (plan.evaluate (Fetcher.ofPages [("a:", linkPage)]).load .standard (linkVisit 0) none).result =
        .ok value ∧
      field.run.result = .error (.fetch (.notFound "a:")) ∧
      ∃ default, field.isolated separate (.fetch (.notFound "a:")) = some default ∧
        default.kind = value.kind := by
  intro plan separate value field
  have narrowed : ((linkVisit 0).narrow (some "p + p") none).result = .ok ⟨5, some "p + p"⟩ := by
    rfl
  have success : (plan.evaluate (Fetcher.ofPages [("a:", linkPage)]).load .standard (linkVisit 0)
      none).result = .ok value := by
    rw [Plan.evaluate_following_of_linked narrowed rfl rfl
      (linked_linkPage .standard 0 (some "p + p") (by decide))]
    rfl
  have failed : (plan.evaluate (Fetcher.ofPages []).load separate (linkVisit 0) none).result =
      .error (.fetch (.notFound "a:")) := by rfl
  obtain ⟨same, default, chosen, kinds⟩ :=
    default_kind_iff "next" plan success nofun failed rfl rfl rfl
  exact ⟨success, same, default, chosen, kinds.mpr rfl⟩

/-- With a value beside the link, a field that yields a mapping where the page is there has an empty
text as its default where it is not. -/
theorem default_hides_target_linkPage :
    let plan := Plan.ofSpec (.map [("_elem", .selector "p + p"), ("_value", .selector "href"),
      ("_follow", .map [("text", .selector "p")])])
    let separate : Policy := { Policy.standard with separateErrors := true }
    let field := Plan.fieldRun (Fetcher.ofPages []).load separate (linkVisit 0) none ("next", plan)
    (plan.evaluate (Fetcher.ofPages [("a:", linkPage)]).load separate (linkVisit 0) none).result =
        .ok (.object [("text", .string "")]) ∧
      field.run.result = .error (.fetch (.notFound "a:")) ∧
      field.isolated separate (.fetch (.notFound "a:")) = some (.string "") ∧
      (Value.string "").kind ≠ (Value.object [("text", .string "")]).kind := by
  intro plan separate field
  have narrowed : ((linkVisit 0).narrow (some "p + p") none).result = .ok ⟨5, some "p + p"⟩ := by
    rfl
  refine ⟨?_, by rfl, by rfl, nofun⟩
  have normal : plan = .following ⟨some "p + p", some "href", none⟩ [] none
      (.fields [("text", .select (some "p"))]) := by rfl
  rw [normal, Plan.evaluate_following_of_linked narrowed rfl rfl
    (linked_linkPage separate 0 (some "p + p") (by decide))]
  rfl

end PageExtract
