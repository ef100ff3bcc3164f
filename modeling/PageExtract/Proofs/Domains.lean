import PageExtract.Proofs.Punycode
import PageExtract.Proofs.Utf8
import PageExtract.Url.Domain

/-!
Domain names read back: the written form of a domain name is of ASCII characters that stand for
themselves, and it is its own written form.
-/

set_option autoImplicit false

namespace PageExtract

namespace Text

theorem composed_of_ascii {s : List Char} (ascii : ∀ c ∈ s, c.toNat < 0x80) : composed s = s := by
  have low : s.all (·.toNat < 0x300) = true := by
    simp only [List.all_eq_true, decide_eq_true_eq]
    intro c member
    have := ascii c member
    omega
  rw [composed, if_pos low]

end Text

namespace Url

/-- A character of a written domain name: of ASCII, standing for itself and allowed there. -/
structure IsDomainChar (c : Char) : Prop where
  ascii : c.toNat < 0x80
  plain : isPlain c = true
  allowed : isForbidden c = false

theorem IsDomainChar.mapped {c : Char} (domain : IsDomainChar c) : mapped? c = some [c] := by
  obtain ⟨ascii, plain, -⟩ := domain
  simp only [isPlain, ascii, ↓reduceIte, Bool.not_eq_true'] at plain
  have lower : c.toLower = c :=
    Text.ascii_induction (p := fun c => c.isUpper = false → c.toLower = c) (by decide) ascii plain
  simp only [mapped?, ascii, ↓reduceIte, lower]

theorem mappedAll?_of_domain {s : List Char} (domain : ∀ c ∈ s, IsDomainChar c) :
    mappedAll? s = some s := by
  induction s with
  | nil => rfl
  | cons c rest ih =>
      simp only [mappedAll?, (domain c List.mem_cons_self).mapped,
        ih fun d member => domain d (List.mem_cons_of_mem c member), List.singleton_append]

theorem joinersFit_of_ascii {s : List Char} (ascii : ∀ c ∈ s, c.toNat < 0x80) (before : Option Char) :
    joinersFit before s = true := by
  induction s generalizing before with
  | nil => rfl
  | cons c rest ih =>
      have low := ascii c List.mem_cons_self
      simp only [joinersFit, ih (fun d member => ascii d (List.mem_cons_of_mem c member)),
        Bool.and_true, Bool.or_eq_true, Bool.and_eq_true, bne_iff_ne]
      exact .inl ⟨by omega, by omega⟩

theorem isLabel_of_domain {s : List Char} (domain : ∀ c ∈ s, IsDomainChar c) : isLabel s = true := by
  have ascii : ∀ c ∈ s, c.toNat < 0x80 := fun c member => (domain c member).ascii
  have characters : s.all (fun c => isPlain c && !isForbidden c) = true := by
    simp only [List.all_eq_true]
    intro c member
    simp [(domain c member).plain, (domain c member).allowed]
  simp only [isLabel, characters, joinersFit_of_ascii ascii, Text.composed_of_ascii ascii,
    beq_self_eq_true, Bool.true_and, Bool.and_true]
  cases s with
  | nil => rfl
  | cons c rest =>
      have low := ascii c List.mem_cons_self
      simp only [Bool.or_eq_true, decide_eq_true_eq]
      exact .inl (by omega)

theorem isPlain_of_isLabel {s : List Char} (label : isLabel s = true) {c : Char} (member : c ∈ s) :
    isPlain c = true ∧ isForbidden c = false := by
  simp only [isLabel, Bool.and_eq_true, List.all_eq_true, Bool.not_eq_true'] at label
  exact label.1.1.1 c member

theorem isDomainChar_of_isLabel {s : List Char} (label : isLabel s = true) {c : Char} (member : c ∈ s)
    (ascii : c.toNat < 0x80) : IsDomainChar c :=
  ⟨ascii, (isPlain_of_isLabel label member).1, (isPlain_of_isLabel label member).2⟩

/-! ## Labels -/

theorem Punycode.isDomainChar_digitChar {c : Char} (digit : Punycode.IsDigitChar c) :
    IsDomainChar c ∧ c ≠ '.' := by
  obtain ⟨d, small, rfl⟩ := digit
  have all : ∀ e < 36, (Punycode.digitChar e).toNat < 0x80 ∧ isPlain (Punycode.digitChar e) = true ∧
      isForbidden (Punycode.digitChar e) = false ∧ Punycode.digitChar e ≠ '.' := by decide
  obtain ⟨ascii, plain, allowed, bare⟩ := all d small
  exact ⟨⟨ascii, plain, allowed⟩, bare⟩

/-- A label as it is written: of domain characters, without a dot, and its own written form. -/
structure WrittenLabel (w : List Char) : Prop where
  domain : ∀ c ∈ w, IsDomainChar c
  undotted : '.' ∉ w
  same : writtenLabel? w = some w

/-- The Punycode of a label is its own written form. -/
theorem writtenLabel?_punycode {label : List Char} (valid : isLabel label = true)
    (beyond : label.all (·.toNat < 0x80) = false) (undotted : '.' ∉ label) :
    WrittenLabel ('x' :: 'n' :: '-' :: '-' :: Punycode.encode label) := by
  have characters : ∀ c ∈ 'x' :: 'n' :: '-' :: '-' :: Punycode.encode label,
      IsDomainChar c ∧ c ≠ '.' := by
    have x : IsDomainChar 'x' ∧ 'x' ≠ '.' := ⟨⟨by decide, by decide, by decide⟩, by decide⟩
    have n : IsDomainChar 'n' ∧ 'n' ≠ '.' := ⟨⟨by decide, by decide, by decide⟩, by decide⟩
    have hyphen : IsDomainChar '-' ∧ '-' ≠ '.' := ⟨⟨by decide, by decide, by decide⟩, by decide⟩
    intro c member
    simp only [List.mem_cons] at member
    rcases member with rfl | rfl | rfl | rfl | member
    · exact x
    · exact n
    · exact hyphen
    · exact hyphen
    · rcases Punycode.mem_encode member with plain | rfl | digit
      · obtain ⟨inside, ascii⟩ := List.mem_filter.mp plain
        exact ⟨isDomainChar_of_isLabel valid inside (by simpa using ascii),
          fun dot => undotted (dot ▸ inside)⟩
      · exact hyphen
      · exact Punycode.isDomainChar_digitChar digit
  refine ⟨fun c member => (characters c member).1, fun dot => (characters _ dot).2 rfl, ?_⟩
  simp only [writtenLabel?, isLabel_of_domain fun c member => (characters c member).1,
    Punycode.decode?_encode, beyond, valid, Bool.not_true, Bool.or_self, Bool.false_eq_true,
    ↓reduceIte]

/-- The written form of a label is written. -/
theorem writtenLabel_of_writtenLabel? {label w : List Char} (written : writtenLabel? label = some w)
    (undotted : '.' ∉ label) : WrittenLabel w := by
  have whole := written
  simp only [writtenLabel?] at written
  split at written
  · cases written
  · rename_i valid
    rw [Bool.not_eq_true', Bool.not_eq_false] at valid
    split at written
    · rename_i code
      split at written
      · cases written
      · rename_i decoded decodes
        split at written
        · cases written
        · cases written
          refine ⟨fun c member => isDomainChar_of_isLabel valid member ?_, undotted, whole⟩
          have ascii := Punycode.ascii_of_decode? decodes
          simp only [List.mem_cons] at member
          rcases member with rfl | rfl | rfl | rfl | member
          · decide
          · decide
          · decide
          · decide
          · exact ascii c member
    · split at written
      · rename_i ascii
        cases written
        rw [List.all_eq_true] at ascii
        exact ⟨fun c member => isDomainChar_of_isLabel valid member (by simpa using ascii c member),
          undotted, whole⟩
      · rename_i beyond
        cases written
        exact writtenLabel?_punycode valid (Bool.not_eq_true _ ▸ beyond) undotted

theorem writtenLabels_of_writtenLabels? {labels ws : List (List Char)}
    (written : writtenLabels? labels = some ws) (undotted : ∀ label ∈ labels, '.' ∉ label) :
    ws.length = labels.length ∧ ∀ w ∈ ws, WrittenLabel w := by
  induction labels generalizing ws with
  | nil =>
      simp only [writtenLabels?, Option.some.injEq] at written
      subst written
      simp
  | cons label labels ih =>
      simp only [writtenLabels?] at written
      split at written
      · rename_i l ls first later
        cases written
        have label_written :=
          writtenLabel_of_writtenLabel? first (undotted label List.mem_cons_self)
        obtain ⟨count, all⟩ := ih later fun l member => undotted l (List.mem_cons_of_mem _ member)
        exact ⟨by simp [count], by simpa [label_written] using all⟩
      · cases written

theorem writtenLabels?_of_written {ws : List (List Char)} (all : ∀ w ∈ ws, WrittenLabel w) :
    writtenLabels? ws = some ws := by
  induction ws with
  | nil => rfl
  | cons w ws ih =>
      simp only [writtenLabels?, (all w List.mem_cons_self).same,
        ih fun v member => all v (List.mem_cons_of_mem w member)]

/-! ## Names -/

/-- Written labels with dots between them are their own written form. -/
theorem domain?_intercalate {ws : List (List Char)} (some_label : ws ≠ [])
    (all : ∀ w ∈ ws, WrittenLabel w) :
    (∀ c ∈ ['.'].intercalate ws, IsDomainChar c) ∧
      domain? (['.'].intercalate ws) = some (['.'].intercalate ws) := by
  have characters : ∀ c ∈ ['.'].intercalate ws, IsDomainChar c := by
    intro c member
    rcases Text.mem_intercalate member with rfl | ⟨w, among, inside⟩
    · exact ⟨by decide, by decide, by decide⟩
    · exact (all w among).domain c inside
  refine ⟨characters, ?_⟩
  simp only [domain?, mappedAll?_of_domain characters,
    Text.composed_of_ascii fun c member => (characters c member).ascii,
    Text.splitAt_intercalate some_label fun w among => (all w among).undotted,
    writtenLabels?_of_written all, Option.map_some]

/-- The written form of a domain name is of domain characters and is its own written form. -/
theorem domain?_domain? {name domain : List Char} (written : domain? name = some domain) :
    (∀ c ∈ domain, IsDomainChar c) ∧ domain? domain = some domain := by
  simp only [domain?] at written
  split at written
  · cases written
  · rename_i mapped _
    obtain ⟨ws, labels, rfl⟩ := Option.map_eq_some_iff.mp written
    obtain ⟨count, all⟩ :=
      writtenLabels_of_writtenLabels? labels fun label member => Text.not_mem_of_mem_splitAt member
    have some_label : ws ≠ [] := by
      rintro rfl
      exact Text.splitAt_ne_nil '.' _ (List.length_eq_zero_iff.mp count.symm)
    exact domain?_intercalate some_label all

end Url

end PageExtract
