import Mathlib.Data.List.TakeWhile
import Mathlib.Tactic
import PageExtract.Text.Split

/-!
Texts cut and put together: what is cut off at the first character that doesn't belong, from either
end, and the parts between separators.
-/

set_option autoImplicit false

namespace PageExtract.Text

/-- A fact about ASCII characters, by going through all of them. -/
theorem ascii_induction {p : Char → Prop} (all : ∀ n < 0x80, p (Char.ofNat n)) {c : Char}
    (ascii : c.toNat < 0x80) : p c := by
  have held := all c.toNat ascii
  rwa [Char.ofNat_toNat] at held

theorem eq_space {c : Char} (same : c.toNat = 0x20) : c = ' ' := by
  rw [← Char.ofNat_toNat c, same]

/-! ## At one character -/

section

variable {p : Char → Bool} {s rest : List Char}

theorem takeWhile_append (inside : ∀ c ∈ s, p c = true)
    (stops : ∀ c, rest.head? = some c → p c = false) : (s ++ rest).takeWhile p = s := by
  rw [List.takeWhile_append_of_pos inside]
  cases rest with
  | nil => simp
  | cons c rest => simp [stops c rfl]

theorem dropWhile_append (inside : ∀ c ∈ s, p c = true)
    (stops : ∀ c, rest.head? = some c → p c = false) : (s ++ rest).dropWhile p = rest := by
  rw [List.dropWhile_append_of_pos inside]
  cases rest with
  | nil => rfl
  | cons c rest => simp [stops c rfl]

/-- The text after the last separator, which is found from the end. -/
theorem takeWhile_reverse_append {sep : Char} (inside : ∀ c ∈ s, p c = true) (stop : p sep = false)
    (before : List Char) : ((before ++ sep :: s).reverse.takeWhile p).reverse = s := by
  have reversed : (before ++ sep :: s).reverse = s.reverse ++ sep :: before.reverse := by simp
  rw [reversed, takeWhile_append (fun c member => inside c (List.mem_reverse.mp member)),
    List.reverse_reverse]
  intro c first
  cases first
  exact stop

/-- How much stands before the separator. -/
theorem length_before (before : List Char) (sep : Char) (s : List Char) :
    (before ++ sep :: s).length - s.length - 1 = before.length := by
  simp only [List.length_append, List.length_cons]
  omega

end

/-! ## At every separator -/

theorem not_mem_of_mem_splitAt {sep : Char} {s part : List Char} (member : part ∈ splitAt sep s) :
    sep ∉ part := by
  induction s generalizing part with
  | nil => simp_all [splitAt]
  | cons c rest ih =>
      simp only [splitAt] at member
      split at member
      · rcases List.mem_cons.mp member with rfl | later
        · exact List.not_mem_nil
        · exact ih later
      · rename_i other
        split at member
        · simpa [List.mem_singleton.mp member] using Ne.symm other
        · rename_i first parts split
          rcases List.mem_cons.mp member with rfl | later
          · have bare := ih (split ▸ List.mem_cons_self)
            simpa [bare] using Ne.symm other
          · exact ih (split ▸ List.mem_cons_of_mem _ later)

theorem splitAt_ne_nil (sep : Char) (s : List Char) : splitAt sep s ≠ [] := by
  cases s with
  | nil => simp [splitAt]
  | cons c rest =>
      simp only [splitAt]
      split
      · simp
      · split <;> simp

theorem splitAt_of_not_mem {sep : Char} {s : List Char} (bare : sep ∉ s) : splitAt sep s = [s] := by
  induction s with
  | nil => rfl
  | cons c rest ih =>
      rw [List.mem_cons, not_or] at bare
      rw [splitAt, if_neg (Ne.symm bare.1), ih bare.2]

theorem splitAt_append {sep : Char} {s : List Char} (bare : sep ∉ s) (rest : List Char) :
    splitAt sep (s ++ sep :: rest) = s :: splitAt sep rest := by
  induction s with
  | nil => rw [List.nil_append, splitAt, if_pos rfl]
  | cons c s ih =>
      rw [List.mem_cons, not_or] at bare
      rw [List.cons_append, splitAt, if_neg (Ne.symm bare.1), ih bare.2]

/-- Parts are found again between the separators they are joined by. -/
theorem splitAt_intercalate {sep : Char} {parts : List (List Char)} (some_part : parts ≠ [])
    (bare : ∀ part ∈ parts, sep ∉ part) : splitAt sep ([sep].intercalate parts) = parts := by
  induction parts with
  | nil => exact absurd rfl some_part
  | cons part rest ih =>
      have first := bare part List.mem_cons_self
      cases rest with
      | nil => rw [List.intercalate_singleton, splitAt_of_not_mem first]
      | cons next rest =>
          rw [List.intercalate_cons_cons, List.append_assoc, List.singleton_append,
            splitAt_append first, ih (by simp) fun p member => bare p (List.mem_cons_of_mem _ member)]

theorem mem_intercalate {sep c : Char} {parts : List (List Char)}
    (member : c ∈ [sep].intercalate parts) : c = sep ∨ ∃ part ∈ parts, c ∈ part := by
  induction parts with
  | nil => simp at member
  | cons part rest ih =>
      cases rest with
      | nil => exact .inr ⟨part, List.mem_cons_self, by simpa using member⟩
      | cons next rest =>
          rw [List.intercalate_cons_cons, List.append_assoc, List.singleton_append,
            List.mem_append, List.mem_cons] at member
          rcases member with inside | separator | later
          · exact .inr ⟨part, List.mem_cons_self, inside⟩
          · exact .inl separator
          · rcases ih later with separator | ⟨p, among, inside⟩
            · exact .inl separator
            · exact .inr ⟨p, List.mem_cons_of_mem _ among, inside⟩

end PageExtract.Text
