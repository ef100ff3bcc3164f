/-!
Histories: what happens from one state to another, step by step, with the labels of all steps in
order. An invariant may speak of what has happened so far, as long as each step keeps it.
-/

set_option autoImplicit false

namespace PageExtract

universe u w

/-- From one state to another by steps that carry labels. -/
inductive History {S : Type u} {E : Type w} (step : S → List E → S → Prop) :
    S → List E → S → Prop where
  | refl (s : S) : History step s [] s
  | next {s t last : S} {labels later : List E} (first : step s labels t)
      (rest : History step t later last) : History step s (labels ++ later) last

namespace History

variable {S : Type u} {E : Type w} {step : S → List E → S → Prop} {s t last : S}
variable {labels later : List E}

theorem single (first : step s labels t) : History step s labels t := by
  have whole : History step s (labels ++ []) t := .next first (.refl t)
  rwa [List.append_nil] at whole

theorem trans (first : History step s labels t) (second : History step t later last) :
    History step s (labels ++ later) last := by
  induction first with
  | refl => exact second
  | next head _ ih =>
      rw [List.append_assoc]
      exact .next head (ih second)

/-- A history of a part is one of the whole that the part is put into. -/
theorem lift {S' : Type u} {whole : S' → List E → S' → Prop} (put : S → S')
    (lifted : ∀ {s labels t}, step s labels t → whole (put s) labels (put t))
    (history : History step s labels t) : History whole (put s) labels (put t) := by
  induction history with
  | refl s => exact .refl (put s)
  | next first _ ih => exact .next (lifted first) ih

/-- What each step keeps, of the state and of all that has happened, holds at the end. -/
theorem preserves (Inv : List E → S → Prop)
    (kept : ∀ {before s labels t}, Inv before s → step s labels t → Inv (before ++ labels) t)
    (history : History step s labels t) {before : List E} (initial : Inv before s) :
    Inv (before ++ labels) t := by
  induction history generalizing before with
  | refl s =>
      rw [List.append_nil]
      exact initial
  | next first _ ih =>
      have after := ih (kept initial first)
      rwa [List.append_assoc] at after

end History

end PageExtract
