import Mathlib.Data.List.Chain
import PageExtract.Text.Blank

/-!
Words of a text. They are the parts between blanks, and joining them by single spaces gives the one
collapsed text that has them. Main definition: `Collapsed`; main result: `eq_collapse_iff`.
-/

set_option autoImplicit false

namespace PageExtract.Text

variable {s t w : List Char} {ws : List (List Char)}

/-- The words are the parts that a text is cut into at every blank, but for empty ones. -/
theorem words_eq_splitOnP (s : List Char) :
    words s = (s.splitOnP isBlank).filter fun w => !w.isEmpty := by
  fun_induction words s with
  | case1 => simp
  | case2 c rest blank ih => simp [List.splitOnP_cons_eq_if_modifyHead, blank, ih]
  | case3 c inked => simp [List.splitOnP_cons_eq_if_modifyHead, inked]
  | case4 c inked d rest blank ih =>
      simp [List.splitOnP_cons_eq_if_modifyHead, inked, blank] at ih ⊢
      exact ih
  | case5 c inked d rest alsoInked none ih =>
      obtain ⟨part, parts, cut⟩ :=
        List.exists_cons_of_ne_nil (List.splitOnP_ne_nil isBlank rest)
      simp [List.splitOnP_cons_eq_if_modifyHead, alsoInked, cut, none] at ih
  | case6 c inked d rest alsoInked w ws found ih =>
      obtain ⟨part, parts, cut⟩ :=
        List.exists_cons_of_ne_nil (List.splitOnP_ne_nil isBlank rest)
      simp [List.splitOnP_cons_eq_if_modifyHead, inked, alsoInked, cut, found] at ih ⊢
      exact ih

/-- Spaces that don't break a line separate words like any other. -/
example : words ['a', '\u00a0', '\u2003', 'b'] = [['a'], ['b']] := by decide

/-- Words don't reach across a blank. -/
theorem words_append_blank {c : Char} (blank : isBlank c = true) (s t : List Char) :
    words (s ++ c :: t) = words s ++ words t := by
  simp only [words_eq_splitOnP, List.splitOnP_append_cons s t blank, List.filter_append]

/-- A word has at least one character, and no blank. -/
structure IsWord (w : List Char) : Prop where
  nonempty : w ≠ []
  inked : ∀ c ∈ w, isBlank c = false

theorem IsWord.single {c : Char} (inked : isBlank c = false) : IsWord [c] :=
  ⟨List.cons_ne_nil c [], List.forall_mem_singleton.mpr inked⟩

theorem IsWord.cons {c : Char} (inked : isBlank c = false) (word : IsWord w) : IsWord (c :: w) :=
  ⟨List.cons_ne_nil c w, List.forall_mem_cons.mpr ⟨inked, word.inked⟩⟩

theorem isWord_of_mem_words (s : List Char) : ∀ w ∈ words s, IsWord w := by
  fun_induction words s with
  | case1 => exact fun w => nofun
  | case2 c rest blank ih => exact ih
  | case3 c inked =>
      exact List.forall_mem_singleton.mpr (.single (Bool.eq_false_iff.mpr inked))
  | case4 c inked d rest blank ih =>
      exact List.forall_mem_cons.mpr ⟨.single (Bool.eq_false_iff.mpr inked), ih⟩
  | case5 c inked d rest alsoInked none ih =>
      simp only [none]
      exact List.forall_mem_singleton.mpr (.single (Bool.eq_false_iff.mpr inked))
  | case6 c inked d rest alsoInked w ws found ih =>
      rw [found, List.forall_mem_cons] at ih
      simp only [found]
      exact List.forall_mem_cons.mpr ⟨.cons (Bool.eq_false_iff.mpr inked) ih.1, ih.2⟩

theorem words_of_isWord (word : IsWord w) : words w = [w] := by
  rw [words_eq_splitOnP, List.splitOnP_eq_singleton word.inked]
  simp [word.nonempty]

theorem words_joinWords (each : ∀ w ∈ ws, IsWord w) : words (joinWords ws) = ws := by
  induction ws with
  | nil => rfl
  | cons w rest ih =>
      obtain ⟨first, later⟩ := List.forall_mem_cons.mp each
      cases rest with
      | nil => exact words_of_isWord first
      | cons next rest =>
          have space : words (w ++ ' ' :: joinWords (next :: rest)) =
              words w ++ words (joinWords (next :: rest)) := words_append_blank rfl _ _
          rw [joinWords, space, words_of_isWord first, ih later, List.singleton_append]
          exact List.cons_ne_nil next rest

/-! ## Collapsed texts -/

/-- All blanks are single spaces, each between two other characters. -/
structure Collapsed (t : List Char) : Prop where
  spaces : ∀ c ∈ t, isBlank c = true → c = ' '
  single : t.IsChain fun c d => isBlank c = true → isBlank d = false
  first : ∀ c, t.head? = some c → isBlank c = false
  last : ∀ c, t.getLast? = some c → isBlank c = false

theorem collapsed_nil : Collapsed [] :=
  ⟨fun _ => nofun, .nil, fun _ => nofun, fun _ => nofun⟩

theorem IsWord.collapsed (word : IsWord w) : Collapsed w where
  spaces c member blank := by
    rw [word.inked c member] at blank
    cases blank
  single :=
    List.isChain_iff_forall_rel_of_append_cons_cons.mpr fun _ d before after shape _ =>
      word.inked d (by simp [shape])
  first c head := word.inked c (List.mem_of_head? head)
  last c final := word.inked c (List.mem_of_getLast? final)

/-- A collapsed text stays one with a further word and a space before it. -/
theorem Collapsed.before (collapsed : Collapsed t) (more : t ≠ []) (word : IsWord w) :
    Collapsed (w ++ ' ' :: t) where
  spaces := by
    refine List.forall_mem_append.mpr ⟨word.collapsed.spaces, ?_⟩
    exact List.forall_mem_cons.mpr ⟨fun _ => rfl, collapsed.spaces⟩
  single := by
    refine List.isChain_append.mpr ⟨word.collapsed.single, ?_, ?_⟩
    · exact List.isChain_cons.mpr ⟨fun c head _ => collapsed.first c head, collapsed.single⟩
    · intro c final d _ blank
      rw [word.collapsed.last c final] at blank
      cases blank
  first c head := by
    rw [List.head?_append_of_ne_nil _ word.nonempty] at head
    exact word.collapsed.first c head
  last c final := by
    rw [List.getLast?_append_cons, List.getLast?_cons_of_ne_nil more] at final
    exact collapsed.last c final

theorem joinWords_ne_nil (word : IsWord w) (ws : List (List Char)) : joinWords (w :: ws) ≠ [] := by
  cases ws with
  | nil => exact word.nonempty
  | cons next rest => exact List.append_ne_nil_of_left_ne_nil word.nonempty _

theorem collapsed_joinWords (each : ∀ w ∈ ws, IsWord w) : Collapsed (joinWords ws) := by
  induction ws with
  | nil => exact collapsed_nil
  | cons w rest ih =>
      obtain ⟨first, later⟩ := List.forall_mem_cons.mp each
      cases rest with
      | nil => exact first.collapsed
      | cons next rest =>
          exact (ih later).before (joinWords_ne_nil (later next List.mem_cons_self) rest) first

/-- What follows on any character of a collapsed text is collapsed, unless a blank comes first. -/
theorem Collapsed.after (collapsed : Collapsed (s ++ t))
    (next : ∀ c, t.head? = some c → isBlank c = false) : Collapsed t where
  spaces := (List.forall_mem_append.mp collapsed.spaces).2
  single := (List.isChain_append.mp collapsed.single).2.1
  first := next
  last c final := collapsed.last c (by rw [List.getLast?_append, final, Option.some_or])

/-- Every collapsed text consists of words with single spaces between them. -/
theorem Collapsed.exists_words : ∀ {t : List Char}, Collapsed t →
    ∃ ws, (∀ w ∈ ws, IsWord w) ∧ t = joinWords ws
  | [], _ => ⟨[], fun _ => nofun, rfl⟩
  | [c], collapsed =>
      ⟨[[c]], List.forall_mem_singleton.mpr (.single (collapsed.first c rfl)), rfl⟩
  | c :: d :: rest, collapsed => by
      have inked : isBlank c = false := collapsed.first c rfl
      have chain := (List.isChain_cons_cons.mp collapsed.single).2
      cases blank : isBlank d with
      | false =>
          -- the first word goes on
          have inside : Collapsed (d :: rest) := by
            refine collapsed.after (s := [c]) ?_
            rintro _ ⟨⟩
            exact blank
          obtain ⟨ws, each, shape⟩ := inside.exists_words
          cases ws with
          | nil => cases shape
          | cons w ws =>
              obtain ⟨word, later⟩ := List.forall_mem_cons.mp each
              refine ⟨(c :: w) :: ws, List.forall_mem_cons.mpr ⟨.cons inked word, later⟩, ?_⟩
              rw [shape]
              cases ws <;> rfl
      | true =>
          -- the first word ends before a space, and another one begins after it
          have space : d = ' ' :=
            collapsed.spaces d (List.mem_cons_of_mem c List.mem_cons_self) blank
          have inside : Collapsed rest :=
            collapsed.after (s := [c, d]) fun e head =>
              (List.isChain_cons.mp chain).1 e head blank
          obtain ⟨ws, each, shape⟩ := inside.exists_words
          cases ws with
          | nil =>
              obtain rfl : rest = [] := shape
              rw [collapsed.last d rfl] at blank
              cases blank
          | cons w ws =>
              refine ⟨[c] :: w :: ws, List.forall_mem_cons.mpr ⟨.single inked, each⟩, ?_⟩
              rw [space, shape]
              rfl

theorem collapse_of_collapsed (collapsed : Collapsed t) : collapse t = t := by
  obtain ⟨ws, each, rfl⟩ := collapsed.exists_words
  rw [collapse, words_joinWords each]

theorem collapsed_collapse (s : List Char) : Collapsed (collapse s) :=
  collapsed_joinWords (isWord_of_mem_words s)

theorem words_collapse (s : List Char) : words (collapse s) = words s :=
  words_joinWords (isWord_of_mem_words s)

/-- A text has one collapsed form: the collapsed text with the same words. -/
theorem eq_collapse_iff : t = collapse s ↔ Collapsed t ∧ words t = words s := by
  constructor
  · rintro rfl
    exact ⟨collapsed_collapse s, words_collapse s⟩
  · rintro ⟨collapsed, same⟩
    rw [← collapse_of_collapsed collapsed, collapse, same, collapse]

end PageExtract.Text
