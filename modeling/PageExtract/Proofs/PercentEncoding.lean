import Mathlib.Tactic
import PageExtract.Url.Percent

/-!
Percent encoding as it is read again: what is encoded once has nothing left to encode, in any of the
sets of characters.
-/

set_option autoImplicit false

namespace PageExtract.Url

variable {inSet : Char → Bool} {s : List Char}

/-- No character of the text has to be encoded. -/
def Clean (inSet : Char → Bool) (s : List Char) : Prop :=
  ∀ c ∈ s, inSet c = false

/-- A character of the text that a byte is encoded as. -/
def IsEscape (c : Char) : Prop :=
  c = '%' ∨ ∃ n < 16, c = upperHexDigit n

/-- The text that bytes are encoded as has nothing left to encode. -/
def SparesEscapes (inSet : Char → Bool) : Prop :=
  inSet '%' = false ∧ ∀ n < 16, inSet (upperHexDigit n) = false

theorem clean_nil : Clean inSet [] := fun _ member => absurd member List.not_mem_nil

theorem encode_cons (c : Char) : encode inSet (c :: s) =
    (if inSet c then (Text.utf8Bytes c).flatMap encodedByte else [c]) ++ encode inSet s :=
  List.flatMap_cons ..

theorem encode_of_clean (clean : Clean inSet s) : encode inSet s = s := by
  induction s with
  | nil => rfl
  | cons c rest ih =>
      rw [encode_cons, if_neg (by simp [clean c List.mem_cons_self]),
        ih fun d member => clean d (List.mem_cons_of_mem c member), List.singleton_append]

theorem isEscape_of_mem_encodedByte {b : UInt8} {c : Char} (member : c ∈ encodedByte b) :
    IsEscape c := by
  have byte := b.toNat_lt
  simp only [encodedByte, List.mem_cons, List.not_mem_nil, or_false] at member
  rcases member with rfl | rfl | rfl
  · exact .inl rfl
  · exact .inr ⟨_, by omega, rfl⟩
  · exact .inr ⟨_, by omega, rfl⟩

theorem isEscape_of_mem_utf8 {c d : Char} (member : d ∈ (Text.utf8Bytes c).flatMap encodedByte) :
    IsEscape d := by
  obtain ⟨b, -, digit⟩ := List.mem_flatMap.mp member
  exact isEscape_of_mem_encodedByte digit

/-- What is encoded is of the characters that needn't be and of encoded bytes. -/
theorem mem_encode {c : Char} (member : c ∈ encode inSet s) :
    (c ∈ s ∧ inSet c = false) ∨ IsEscape c := by
  obtain ⟨d, original, written⟩ := List.mem_flatMap.mp member
  split at written
  · exact .inr (isEscape_of_mem_utf8 written)
  · rename_i spared
    rw [List.mem_singleton.mp written]
    exact .inl ⟨original, Bool.eq_false_iff.mpr spared⟩

theorem SparesEscapes.apply (spares : SparesEscapes inSet) {c : Char} (escape : IsEscape c) :
    inSet c = false := by
  rcases escape with rfl | ⟨n, small, rfl⟩
  · exact spares.1
  · exact spares.2 n small

theorem clean_encode (spares : SparesEscapes inSet) (s : List Char) : Clean inSet (encode inSet s) := by
  intro c member
  rcases mem_encode member with ⟨-, spared⟩ | escape
  · exact spared
  · exact spares.apply escape

theorem encoded_ne_nil (c : Char) : (Text.utf8Bytes c).flatMap encodedByte ≠ [] := by
  have bytes : Text.utf8Bytes c ≠ [] := by
    simp only [Text.utf8Bytes]
    split_ifs <;> simp
  obtain ⟨b, bs, same⟩ := List.exists_cons_of_ne_nil bytes
  rw [same, List.flatMap_cons]
  simp [encodedByte]

/-- An encoded text starts as the text does, if not with an encoded character. -/
theorem head?_encode {d : Char} (first : (encode inSet s).head? = some d) :
    s.head? = some d ∨ IsEscape d := by
  cases s with
  | nil => cases first
  | cons c rest =>
      rw [encode_cons] at first
      split at first
      · rw [List.head?_append_of_ne_nil _ (encoded_ne_nil c)] at first
        exact .inr (isEscape_of_mem_utf8 (List.mem_of_head? first))
      · exact .inl first

/-- An encoded text ends as the text does, if not with an encoded character. -/
theorem getLast?_encode {d : Char} (last : (encode inSet s).getLast? = some d) :
    s.getLast? = some d ∨ IsEscape d := by
  induction s using List.reverseRecOn with
  | nil => cases last
  | append_singleton rest c =>
      rw [encode, List.flatMap_append, List.flatMap_singleton] at last
      split at last
      · rw [List.getLast?_append_of_ne_nil _ (encoded_ne_nil c)] at last
        exact .inr (isEscape_of_mem_utf8 (List.mem_of_getLast? last))
      · rw [List.getLast?_concat] at last
        rw [List.getLast?_concat]
        exact .inl last

theorem sparesEscapes_control : SparesEscapes isControl := by
  simp only [SparesEscapes]
  decide

theorem sparesEscapes_fragment : SparesEscapes inFragmentSet := by
  simp only [SparesEscapes]
  decide

theorem sparesEscapes_path : SparesEscapes inPathSet := by
  simp only [SparesEscapes]
  decide

theorem sparesEscapes_userinfo : SparesEscapes inUserinfoSet := by
  simp only [SparesEscapes]
  decide

theorem sparesEscapes_query : SparesEscapes inQuerySet := by
  simp only [SparesEscapes]
  decide

theorem sparesEscapes_specialQuery : SparesEscapes inSpecialQuerySet := by
  simp only [SparesEscapes]
  decide

/-- A text without `%` stands for its own bytes. -/
theorem decodedBytes_of_unescaped (plain : ∀ c ∈ s, c ≠ '%') :
    decodedBytes s = s.flatMap Text.utf8Bytes := by
  induction s with
  | nil => rfl
  | cons c rest ih =>
      have unescaped := plain c List.mem_cons_self
      rw [decodedBytes.eq_3 _ _ (by rintro a b tail rfl; exact absurd rfl unescaped), List.flatMap_cons,
        ih fun d member => plain d (List.mem_cons_of_mem c member)]

end PageExtract.Url
