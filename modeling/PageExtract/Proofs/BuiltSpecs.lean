import PageExtract.Proofs.Entries
import PageExtract.Spec

/-!
Specs that are built by setting one key after the other. The result is a mapping without repeated
keys, in which the last value set for a key stands where the key came first. Main result:
`setAll_entries`.
-/

set_option autoImplicit false

namespace PageExtract.Spec

/-- The entries of a mapping; any other spec has none. -/
def entries : Spec → List (String × Spec)
  | .map es => es
  | _ => []

/-- Sets one key after the other. -/
def setAll (s : Spec) (steps : List (String × Spec)) : Spec :=
  steps.foldl (fun built step => built.set step.1 step.2) s

/-- No mapping in the spec has a key twice. -/
inductive Distinct : Spec → Prop where
  | missing : Distinct .missing
  | selector (s : String) : Distinct (.selector s)
  | list {items : List Spec} (each : ∀ s ∈ items, Distinct s) : Distinct (.list items)
  | map {es : List (String × Spec)} (keys : (Entries.keys es).Nodup)
      (each : ∀ e ∈ es, Distinct e.2) : Distinct (.map es)
  | literal (v : Json.Value) : Distinct (.literal v)
  | pattern (p : Pattern) : Distinct (.pattern p)
  | predicate (test : Json.Value → Bool) : Distinct (.predicate test)

variable {s : Spec}

theorem get?_eq_entries (s : Spec) (key : String) : s.get? key = Entries.get? key s.entries := by
  cases s <;> rfl

/-- Whatever a key is set in becomes a mapping. -/
theorem set_eq_insert (s : Spec) (key : String) (value : Spec) :
    s.set key value = .map (Entries.insert key value s.entries) := by
  cases s <;> rfl

theorem setAll_map (es steps : List (String × Spec)) :
    (Spec.map es).setAll steps = .map (Entries.extend es steps) := by
  induction steps generalizing es with
  | nil => rfl
  | cons step rest ih => exact ih (Entries.insert step.1 step.2 es)

/-- After the first step there is a mapping, whatever there was before. -/
theorem setAll_eq_extend (s : Spec) {steps : List (String × Spec)} (stepped : steps ≠ []) :
    s.setAll steps = .map (Entries.extend s.entries steps) := by
  obtain ⟨⟨key, value⟩, rest, rfl⟩ := List.exists_cons_of_ne_nil stepped
  change (s.set key value).setAll rest = _
  rw [set_eq_insert, setAll_map, Entries.extend_cons]

theorem Distinct.keys (distinct : s.Distinct) : (Entries.keys s.entries).Nodup := by
  cases distinct with
  | map keys each => exact keys
  | _ => exact List.nodup_nil

theorem Distinct.entry (distinct : s.Distinct) {e : String × Spec} (member : e ∈ s.entries) :
    e.2.Distinct := by
  cases distinct with
  | map keys each => exact each e member
  | _ => cases member

/-- A step keeps keys distinct, those of the value that it sets included. -/
theorem Distinct.set (distinct : s.Distinct) (key : String) {value : Spec}
    (added : value.Distinct) : (s.set key value).Distinct := by
  rw [set_eq_insert]
  refine .map (Entries.nodup_keys_insert key value distinct.keys) fun e member => ?_
  rcases Entries.mem_insert member with rfl | old
  · exact added
  · exact distinct.entry old

theorem Distinct.setAll (distinct : s.Distinct) {steps : List (String × Spec)}
    (added : ∀ step ∈ steps, step.2.Distinct) : (s.setAll steps).Distinct := by
  induction steps generalizing s with
  | nil => exact distinct
  | cons step rest ih =>
      have next := distinct.set step.1 (added step List.mem_cons_self)
      exact ih next fun later member => added later (List.mem_cons_of_mem _ member)

/-- Setting keys gives a mapping in which each key stands once: first the keys that were there, then
the new ones in the order in which they were set first. A key has the value that was set last for
it, or else the one that it had, and this is what a lookup finds. Keys stay distinct inside of the
values too. -/
theorem setAll_entries (distinct : s.Distinct) {steps : List (String × Spec)}
    (stepped : steps ≠ []) :
    ∃ es, s.setAll steps = .map es ∧
      (Entries.keys es).Nodup ∧
      Entries.keys es = Entries.keys s.entries ++
        ((Entries.keys steps).filter fun key => key ∉ Entries.keys s.entries).eraseDups ∧
      (∀ before key value after, steps = before ++ (key, value) :: after →
        key ∉ Entries.keys after → (s.setAll steps).get? key = some value) ∧
      (∀ key, key ∉ Entries.keys steps → (s.setAll steps).get? key = s.get? key) ∧
      (∀ key value, (key, value) ∈ es ↔ (s.setAll steps).get? key = some value) ∧
      ((∀ step ∈ steps, step.2.Distinct) → (s.setAll steps).Distinct) := by
  have built := setAll_eq_extend s stepped
  have found : ∀ key, (s.setAll steps).get? key =
      Entries.get? key (Entries.extend s.entries steps) := fun key => by rw [built]; rfl
  have keys := Entries.nodup_keys_extend distinct.keys steps
  refine ⟨Entries.extend s.entries steps, built, keys, Entries.keys_extend _ _, ?_, ?_, ?_, ?_⟩
  · rintro before key value after rfl last
    rw [found]
    exact Entries.get?_extend_last last s.entries before value
  · intro key untouched
    rw [found, get?_eq_entries]
    exact Entries.get?_extend_of_notMem untouched s.entries
  · intro key value
    rw [found]
    exact ⟨Entries.get?_of_mem keys, Entries.mem_of_get?⟩
  · exact distinct.setAll

/-- A key that was there and is set again keeps its place, and so does a new one. -/
theorem setAll_entries_twice :
    let s : Spec := .map [("a", .missing), ("b", .selector "p")]
    let steps : List (String × Spec) :=
      [("c", .missing), ("a", .selector "i"), ("d", .missing), ("c", .selector "u")]
    s.Distinct ∧ steps ≠ [] ∧
    (∃ es, s.setAll steps = .map es ∧ Entries.keys es = ["a", "b", "c", "d"]) ∧
    (s.setAll steps).get? "c" = some (.selector "u") ∧
    (s.setAll steps).get? "b" = some (.selector "p") := by
  intro s steps
  have distinct : s.Distinct := by
    refine .map (by decide) fun e member => ?_
    rcases List.mem_cons.mp member with rfl | later
    · exact .missing
    · rw [List.mem_singleton.mp later]
      exact .selector "p"
  have stepped : steps ≠ [] := List.cons_ne_nil _ _
  obtain ⟨es, built, _, order, last, kept, _⟩ := setAll_entries distinct stepped
  refine ⟨distinct, stepped, ⟨es, built, ?_⟩, ?_, ?_⟩
  · rw [order]
    decide
  · exact last (steps.take 3) "c" (.selector "u") [] rfl (by decide)
  · exact kept "b" (by decide)

end PageExtract.Spec
