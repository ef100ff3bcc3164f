import PageExtract.Accessor
import PageExtract.Proofs.Cuts

/-!
Tags read back from their markup. Escaping leaves no quotation mark and no bracket in a value, so a
start tag ends at its first closing bracket and each of its values at a quotation mark. Main result:
`tag_read_back`.
-/

set_option autoImplicit false

namespace PageExtract.Accessor

open Html (Attribute Document Element NodeId)

/-! ## Escaping -/

/-- What stands for a character in a value. -/
def escapedChar (c : Char) : List Char :=
  match c with
  | '&' => ['&', 'a', 'm', 'p', ';']
  | '"' => ['&', 'q', 'u', 'o', 't', ';']
  | '<' => ['&', 'l', 't', ';']
  | '>' => ['&', 'g', 't', ';']
  | c => [c]

theorem escapedChar_of_plain {c : Char} (plain : c ∉ ['&', '"', '<', '>']) :
    escapedChar c = [c] := by
  rw [escapedChar.eq_def]
  split <;> simp_all

theorem replaced_append (c : Char) (text s t : List Char) :
    replaced c text (s ++ t) = replaced c text s ++ replaced c text t := List.flatMap_append

theorem replaced_of_not_mem {c : Char} {s : List Char} (absent : c ∉ s) (text : List Char) :
    replaced c text s = s := by
  induction s with
  | nil => rfl
  | cons d rest ih =>
      rw [List.mem_cons, not_or] at absent
      rw [replaced, List.flatMap_cons, if_neg (Ne.symm absent.1)]
      exact congrArg (d :: ·) (ih absent.2)

theorem escaped_append (s t : List Char) : escaped (s ++ t) = escaped s ++ escaped t := by
  simp only [escaped, replaced_append]

/-- One replacement after the other leaves what an earlier one has put in. -/
theorem escaped_singleton (c : Char) : escaped [c] = escapedChar c := by
  by_cases special : c ∈ ['&', '"', '<', '>']
  · simp only [List.mem_cons, List.not_mem_nil, or_false] at special
    rcases special with rfl | rfl | rfl | rfl <;> rfl
  · have apart : ∀ d ∈ ['&', '"', '<', '>'], d ∉ [c] := by
      intro d member same
      rw [List.mem_singleton.mp same] at member
      exact special member
    rw [escapedChar_of_plain special]
    simp only [escaped]
    rw [replaced_of_not_mem (apart '&' (by decide)), replaced_of_not_mem (apart '"' (by decide)),
      replaced_of_not_mem (apart '<' (by decide)), replaced_of_not_mem (apart '>' (by decide))]

theorem escaped_cons (c : Char) (s : List Char) : escaped (c :: s) = escapedChar c ++ escaped s := by
  have split : c :: s = [c] ++ s := rfl
  rw [split, escaped_append, escaped_singleton]

theorem escaped_eq_flatMap (s : List Char) : escaped s = s.flatMap escapedChar := by
  induction s with
  | nil => rfl
  | cons c rest ih => rw [escaped_cons, ih, List.flatMap_cons]

theorem clear_of_mem_escapedChar {c d : Char} (member : d ∈ escapedChar c) :
    d ≠ '"' ∧ d ≠ '<' ∧ d ≠ '>' := by
  by_cases special : c ∈ ['&', '"', '<', '>']
  · have all : ['&', '"', '<', '>'].all fun c => (escapedChar c).all fun d =>
        d ≠ '"' ∧ d ≠ '<' ∧ d ≠ '>' := by decide
    exact of_decide_eq_true (List.all_eq_true.mp (List.all_eq_true.mp all c special) d member)
  · rw [escapedChar_of_plain special, List.mem_singleton] at member
    rw [member]
    simp only [List.mem_cons, List.not_mem_nil, or_false, not_or] at special
    exact special.2

theorem clear_of_mem_escaped {s : List Char} {d : Char} (member : d ∈ escaped s) :
    d ≠ '"' ∧ d ≠ '<' ∧ d ≠ '>' := by
  rw [escaped_eq_flatMap] at member
  obtain ⟨c, _, inside⟩ := List.mem_flatMap.mp member
  exact clear_of_mem_escapedChar inside

/-- Four entities are undone, and any other ampersand stands for itself. -/
def unescaped : List Char → List Char
  | '&' :: 'a' :: 'm' :: 'p' :: ';' :: rest => '&' :: unescaped rest
  | '&' :: 'q' :: 'u' :: 'o' :: 't' :: ';' :: rest => '"' :: unescaped rest
  | '&' :: 'l' :: 't' :: ';' :: rest => '<' :: unescaped rest
  | '&' :: 'g' :: 't' :: ';' :: rest => '>' :: unescaped rest
  | c :: rest => c :: unescaped rest
  | [] => []

theorem unescaped_cons_of_ne {c : Char} (other : c ≠ '&') (rest : List Char) :
    unescaped (c :: rest) = c :: unescaped rest := by
  rw [unescaped.eq_def]
  split <;> simp_all

theorem unescaped_escapedChar (c : Char) (rest : List Char) :
    unescaped (escapedChar c ++ rest) = c :: unescaped rest := by
  by_cases special : c ∈ ['&', '"', '<', '>']
  · simp only [List.mem_cons, List.not_mem_nil, or_false] at special
    rcases special with rfl | rfl | rfl | rfl <;> rfl
  · have other : c ≠ '&' := by
      rintro rfl
      exact special List.mem_cons_self
    rw [escapedChar_of_plain special]
    exact unescaped_cons_of_ne other rest

theorem unescaped_escaped (s : List Char) : unescaped (escaped s) = s := by
  induction s with
  | nil => rfl
  | cons c rest ih => rw [escaped_cons, unescaped_escapedChar, ih]

theorem escaped_injective : Function.Injective escaped :=
  Function.LeftInverse.injective unescaped_escaped

/-! ## Start tags -/

/-- The name in what stands before the quotation mark of a value: a space, the name and an equals
sign. -/
def readName? : List Char → Option (List Char)
  | ' ' :: rest =>
    let name := rest.takeWhile (· ≠ '=')
    if rest = name ++ ['='] then some name else none
  | _ => none

/-- The attributes of a start tag that was cut at its quotation marks: names alternate with
values. -/
def readPairs? : List (List Char) → Option (List (String × String))
  | opening :: value :: rest =>
    (readName? opening).bind fun name =>
      (readPairs? rest).map ((String.ofList name, String.ofList (unescaped value)) :: ·)
  | [last] => if last = [] then some [] else none
  | [] => none

/-- The name and the attributes of the start tag with which a markup begins. The tag ends at the
first closing bracket, its name at the first space. -/
def readTag? : List Char → Option (String × List (String × String))
  | '<' :: rest =>
    let tag := rest.takeWhile (· ≠ '>')
    let name := tag.takeWhile (· ≠ ' ')
    let attributes := tag.dropWhile (· ≠ ' ')
    (readPairs? (Text.splitAt '"' attributes)).map fun pairs => (String.ofList name, pairs)
  | _ => none

theorem readName?_written {name : List Char} (bare : '=' ∉ name) :
    readName? (' ' :: name ++ ['=']) = some name := by
  have cut : (name ++ ['=']).takeWhile (· ≠ '=') = name := by
    apply Text.takeWhile_append
    · intro c member
      exact decide_eq_true fun same => bare (same ▸ member)
    · intro c first
      cases first
      rfl
  simp only [List.cons_append, readName?, cut, ↓reduceIte]

/-- The attributes of an element are read back from between the quotation marks. -/
theorem readPairs?_attributes {attributes : List Attribute}
    (named : ∀ a ∈ attributes, '=' ∉ a.name.toList ∧ '"' ∉ a.name.toList) :
    readPairs? (Text.splitAt '"' (attributes.flatMap attributeText)) =
      some (attributes.map fun a => (a.name, a.value)) := by
  induction attributes with
  | nil => rfl
  | cons a rest ih =>
      obtain ⟨plain, bare⟩ := named a List.mem_cons_self
      have others := ih fun b member => named b (List.mem_cons_of_mem _ member)
      have value : '"' ∉ escaped a.value.toList := fun inside =>
        (clear_of_mem_escaped inside).1 rfl
      have opening : '"' ∉ ' ' :: a.name.toList ++ ['='] := by simp [bare]
      have text : (a :: rest).flatMap attributeText = (' ' :: a.name.toList ++ ['=']) ++
          '"' :: (escaped a.value.toList ++ '"' :: rest.flatMap attributeText) := by
        simp [attributeText]
      rw [text, Text.splitAt_append opening, Text.splitAt_append value, readPairs?,
        readName?_written plain, others]
      simp [unescaped_escaped]

theorem not_mem_attributeText {a : Attribute} (named : '>' ∉ a.name.toList) :
    '>' ∉ attributeText a := by
  have value : '>' ∉ escaped a.value.toList := fun inside => (clear_of_mem_escaped inside).2.2 rfl
  simp [attributeText, named, value]

/-- Attributes are set off from what stands before them by a space. -/
theorem head?_attributes {attributes : List Attribute} {c : Char}
    (first : (attributes.flatMap attributeText).head? = some c) : c = ' ' := by
  cases attributes with
  | nil => cases first
  | cons a rest => exact (Option.some.inj first).symm

theorem readTag?_tagText {e : Element} (named : ∀ c ∈ e.name.toList, c ≠ ' ' ∧ c ≠ '>')
    (attributes : ∀ a ∈ e.attributes, ∀ c ∈ a.name.toList, c ≠ '=' ∧ c ≠ '"' ∧ c ≠ '>') :
    readTag? (tagText e) = some (e.name, e.attributes.map fun a => (a.name, a.value)) := by
  let written := e.attributes.flatMap attributeText
  let ending := if hasNoEnd e.name then [] else ['<', '/'] ++ e.name.toList ++ ['>']
  have text : tagText e = '<' :: ((e.name.toList ++ written) ++ '>' :: ending) := by
    simp only [tagText, written, ending, List.cons_append, List.append_assoc, List.nil_append]
  have inside : ∀ c ∈ e.name.toList ++ written, c ≠ '>' := by
    intro c member
    rcases List.mem_append.mp member with name | later
    · exact (named c name).2
    · rintro rfl
      obtain ⟨a, among, here⟩ := List.mem_flatMap.mp later
      exact not_mem_attributeText (fun bracket => (attributes a among _ bracket).2.2 rfl) here
  have tag : ((e.name.toList ++ written) ++ '>' :: ending).takeWhile (· ≠ '>') =
      e.name.toList ++ written := by
    apply Text.takeWhile_append
    · exact fun c member => decide_eq_true (inside c member)
    · intro c first
      cases first
      rfl
  have plain : ∀ c ∈ e.name.toList, decide (c ≠ ' ') = true := fun c member =>
    decide_eq_true (named c member).1
  have stops : ∀ c, written.head? = some c → decide (c ≠ ' ') = false := by
    intro c first
    rw [head?_attributes first]
    rfl
  have pairs := readPairs?_attributes fun a member =>
    ⟨fun equals => (attributes a member _ equals).1 rfl,
      fun mark => (attributes a member _ mark).2.1 rfl⟩
  rw [text, readTag?, tag]
  simp only [Text.takeWhile_append plain stops, Text.dropWhile_append plain stops, written, pairs,
    Option.map_some, String.ofList_toList]

/-- The tag of an element is read back as its name and its attributes in order, whatever their
values are, if its name has no space and no closing bracket and those of the attributes have no
equals sign, quotation mark or closing bracket. Replacing one character after the other escapes
each character by itself, and no two values alike. -/
theorem tag_read_back (page : Page) (d : Document) (n : NodeId) (e : Element)
    (named : ∀ c ∈ e.name.toList, c ≠ ' ' ∧ c ≠ '>')
    (attributes : ∀ a ∈ e.attributes, ∀ c ∈ a.name.toList, c ≠ '=' ∧ c ≠ '"' ∧ c ≠ '>') :
    (∃ markup, value page d n e (ofName "tag") = .string markup ∧
      readTag? markup.toList = some (e.name, e.attributes.map fun a => (a.name, a.value))) ∧
    (∀ s, escaped s = s.flatMap escapedChar) ∧ Function.Injective escaped := by
  refine ⟨⟨String.ofList (tagText e), rfl, ?_⟩, escaped_eq_flatMap, escaped_injective⟩
  rw [String.toList_ofList]
  exact readTag?_tagText named attributes

/-- A name of any other characters, and values that look like entities and markup. -/
theorem tag_read_back_lookalikes :
    let page : Page := .ofUrl ⟨"a", none, .unstructured [], none, none⟩
    let e : Element :=
      ⟨.html, "a\"=", [⟨.none, "title", "&amp;\"><b x=\"&lt;"⟩, ⟨.none, "x", ""⟩]⟩
    (∀ a ∈ e.attributes, ∀ c ∈ a.name.toList, c ≠ '=' ∧ c ≠ '"' ∧ c ≠ '>') ∧
    ∃ markup, value page .blank 0 e (ofName "tag") = .string markup ∧
      readTag? markup.toList =
        some ("a\"=", [("title", "&amp;\"><b x=\"&lt;"), ("x", "")]) := by
  intro page e
  have named : ∀ c ∈ e.name.toList, c ≠ ' ' ∧ c ≠ '>' := by simp [e]
  have attributes : ∀ a ∈ e.attributes, ∀ c ∈ a.name.toList, c ≠ '=' ∧ c ≠ '"' ∧ c ≠ '>' := by
    simp [e]
  exact ⟨attributes, (tag_read_back page .blank 0 e named attributes).1⟩

end PageExtract.Accessor
