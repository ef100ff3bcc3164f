import PageExtract.Evaluation

/-!
Laws of runs: how results and events of composed runs come from those of their parts, and which
failures of the parts become failures of the whole.
-/

set_option autoImplicit false

namespace PageExtract

open Json (Value)

/-- The load of a page that an event is. -/
def Event.request? : Event → Option PageRequest
  | .request q _ => some q
  | _ => none

namespace Run

variable {α β γ : Type}

@[ext] theorem ext {first second : Run α} (results : first.result = second.result)
    (events : first.events = second.events) : first = second := by
  cases first
  cases second
  simp only [mk.injEq]
  exact ⟨results, events⟩

@[simp] theorem pure_result (a : α) : (pure a).result = .ok a := rfl

@[simp] theorem pure_events (a : α) : (pure a).events = [] := rfl

@[simp] theorem map_result (f : α → β) (r : Run α) : (r.map f).result = r.result.map f := rfl

theorem requests_eq_filterMap (r : Run α) : r.requests = r.events.filterMap Event.request? := rfl

theorem bind_result (first : Run α) (next : α → Run β) :
    (first.bind next).result = first.result.bind fun a => (next a).result := by
  cases failed : first.result with
  | error e => simp only [bind, failed, Except.bind]
  | ok a => simp only [bind, failed, Except.bind]

@[simp] theorem pure_bind (a : α) (next : α → Run β) : (pure a).bind next = next a := by
  rw [bind_of_ok _ _ a rfl, pure_events, List.nil_append]

@[simp] theorem bind_pure (r : Run α) : r.bind pure = r := by
  cases failed : r.result with
  | error e => rw [bind_of_error _ _ e failed, ← failed]
  | ok a => rw [bind_of_ok _ _ a failed, pure_result, pure_events, List.append_nil, ← failed]

theorem mem_events_bind {first : Run α} {next : α → Run β} {e : Event} :
    e ∈ (first.bind next).events ↔
      e ∈ first.events ∨ ∃ a, first.result = .ok a ∧ e ∈ (next a).events := by
  cases ended : first.result with
  | error cause => simp [bind_of_error _ _ cause ended]
  | ok a => simp [bind_of_ok _ _ a ended]

/-- Only what the first run comes to matters to what follows. -/
theorem bind_congr {first : Run α} {next other : α → Run β}
    (same : ∀ a, first.result = .ok a → next a = other a) : first.bind next = first.bind other := by
  cases ended : first.result with
  | error cause => rw [bind_of_error _ _ cause ended, bind_of_error _ _ cause ended]
  | ok a => rw [bind_of_ok _ _ a ended, bind_of_ok _ _ a ended, same a ended]

/-- Only what the parts come to matters to what the whole comes to. -/
theorem result_bind_congr {first second : Run α} {next other : α → Run β}
    (same : first.result = second.result)
    (rest : ∀ a, second.result = .ok a → (next a).result = (other a).result) :
    (first.bind next).result = (second.bind other).result := by
  rw [bind_result, bind_result, same]
  cases ended : second.result with
  | error e => rfl
  | ok a => exact rest a ended

theorem requests_congr {first : Run α} {second : Run β} (same : first.events = second.events) :
    first.requests = second.requests := by
  rw [requests_eq_filterMap, requests_eq_filterMap, same]

theorem requests_sublist {first : Run α} {second : Run β}
    (within : first.events.Sublist second.events) : first.requests.Sublist second.requests := by
  rw [requests_eq_filterMap, requests_eq_filterMap]
  exact within.filterMap _

theorem requests_bind_of_ok {first : Run α} {next : α → Run β} {a : α}
    (success : first.result = .ok a) :
    (first.bind next).requests = first.requests ++ (next a).requests := by
  simp only [requests_eq_filterMap, bind_of_ok _ _ a success, List.filterMap_append]

theorem map_then_bind (f : α → β) (first : Run α) (next : β → Run γ) :
    (first.map f).bind next = first.bind fun a => next (f a) := by
  cases ended : first.result with
  | error cause =>
      rw [bind_of_error _ _ cause ended, bind_of_error _ _ cause]
      · rfl
      · rw [map_result, ended]; rfl
  | ok a =>
      rw [bind_of_ok _ _ a ended, bind_of_ok _ _ (f a)]
      · rfl
      · rw [map_result, ended]; rfl

theorem bind_assoc (first : Run α) (next : α → Run β) (last : β → Run γ) :
    (first.bind next).bind last = first.bind fun a => (next a).bind last := by
  cases failed : first.result with
  | error e =>
      rw [bind_of_error first _ e failed, bind_of_error first _ e failed]
      exact bind_of_error _ _ e rfl
  | ok a =>
      rw [bind_of_ok first _ a failed, bind_of_ok first _ a failed]
      cases middle : (next a).result with
      | error e => rw [bind_of_error (next a) _ e middle]; exact bind_of_error _ _ e rfl
      | ok b =>
          rw [bind_of_ok (next a) _ b middle, bind_of_ok _ _ b rfl]
          exact ext rfl (List.append_assoc _ _ _)

theorem bind_ok_iff (first : Run α) (next : α → Run β) (b : β) :
    (first.bind next).result = .ok b ↔ ∃ a, first.result = .ok a ∧ (next a).result = .ok b := by
  rw [bind_result]
  cases first.result <;> simp [Except.bind]

theorem bind_error_iff (first : Run α) (next : α → Run β) (e : Failure) :
    (first.bind next).result = .error e ↔
      first.result = .error e ∨ ∃ a, first.result = .ok a ∧ (next a).result = .error e := by
  rw [bind_result]
  cases first.result <;> simp [Except.bind]

theorem map_ok_iff (f : α → β) (r : Run α) (b : β) :
    (r.map f).result = .ok b ↔ ∃ a, r.result = .ok a ∧ f a = b := by
  rw [map_result]
  cases r.result <;> simp [Except.map]

theorem map_error_iff (f : α → β) (r : Run α) (e : Failure) :
    (r.map f).result = .error e ↔ r.result = .error e := by
  rw [map_result]
  cases r.result <;> simp [Except.map]

/-- The run failed in a way that no policy turns into a value. -/
def IsFatal (r : Run α) : Prop :=
  ∃ e, r.result = .error e ∧ e.isRecoverable = false

/-- The run failed in a way that a policy may turn into a value. -/
def IsRecoverable (r : Run α) : Prop :=
  ∃ e, r.result = .error e ∧ e.isRecoverable = true

theorem IsFatal.not_ok {r : Run α} (fatal : r.IsFatal) (a : α) : r.result ≠ .ok a := by
  obtain ⟨e, failed, _⟩ := fatal
  rw [failed]
  intro impossible
  cases impossible

theorem IsFatal.not_recoverable {r : Run α} (fatal : r.IsFatal) : ¬ r.IsRecoverable := by
  obtain ⟨e, failed, severe⟩ := fatal
  rintro ⟨other, again, mild⟩
  rw [failed, Except.error.injEq] at again
  rw [again, mild] at severe
  cases severe

/-- Every run succeeds, fails recoverably or fails fatally. -/
theorem ok_or_recoverable_or_fatal (r : Run α) :
    (∃ a, r.result = .ok a) ∨ r.IsRecoverable ∨ r.IsFatal := by
  cases result : r.result with
  | ok a => exact .inl ⟨a, rfl⟩
  | error e =>
      cases severity : e.isRecoverable with
      | true => exact .inr (.inl ⟨e, result, severity⟩)
      | false => exact .inr (.inr ⟨e, result, severity⟩)

theorem not_isFatal_iff (r : Run α) :
    ¬ r.IsFatal ↔ ∀ e, r.result = .error e → e.isRecoverable = true := by
  simp only [IsFatal, not_exists, not_and, Bool.not_eq_false]

theorem not_isFatal_of_ok {r : Run α} {a : α} (success : r.result = .ok a) : ¬ r.IsFatal :=
  fun fatal => fatal.not_ok a success

theorem bind_isFatal_iff (first : Run α) (next : α → Run β) :
    (first.bind next).IsFatal ↔
      first.IsFatal ∨ ∃ a, first.result = .ok a ∧ (next a).IsFatal := by
  simp only [IsFatal, bind_error_iff, or_and_right, exists_or]
  constructor
  · rintro (⟨e, failed, severe⟩ | ⟨e, ⟨a, done, failed⟩, severe⟩)
    · exact .inl ⟨e, failed, severe⟩
    · exact .inr ⟨a, done, e, failed, severe⟩
  · rintro (⟨e, failed, severe⟩ | ⟨a, done, e, failed, severe⟩)
    · exact .inl ⟨e, failed, severe⟩
    · exact .inr ⟨e, ⟨a, done, failed⟩, severe⟩

theorem bind_not_isFatal {first : Run α} {next : α → Run β} (safe : ¬ first.IsFatal)
    (rest : ∀ a, first.result = .ok a → ¬ (next a).IsFatal) : ¬ (first.bind next).IsFatal := by
  rw [bind_isFatal_iff]
  rintro (fatal | ⟨a, done, fatal⟩)
  · exact safe fatal
  · exact rest a done fatal

theorem map_isFatal_iff (f : α → β) (r : Run α) : (r.map f).IsFatal ↔ r.IsFatal := by
  simp only [IsFatal, map_error_iff]

end Run

end PageExtract
