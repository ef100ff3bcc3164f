import Mathlib.Data.List.Basic
import PageExtract.Accessor
import PageExtract.Proofs.Words

/-!
The text of an element. It is made of the text nodes below the element in the order of the tree, so
what counts is what they hold together and not how it is divided among neighbours. Main definition:
`Html.Document.Redivided`; main result: `Accessor.text_value_collapsed`.
-/

set_option autoImplicit false

namespace PageExtract

namespace Html.Document

variable {d other : Document} {n m : NodeId} {ns ms : List NodeId}

/-! ## Finite trees -/

/-- There are only finitely many nodes below the node, as it is never below itself. -/
def Grounded (d : Document) : NodeId → Prop :=
  Acc fun child parent => child ∈ d.children parent

theorem not_transGen_self {r : NodeId → NodeId → Prop} (accessible : Acc r n) :
    ¬ Relation.TransGen r n n := by
  have reachable := accessible.transGen
  induction reachable with
  | intro x _ ih => exact fun self => ih x self (accessible.inv_of_transGen self) self

theorem lt_size_of_children (inner : d.children n ≠ []) : n < d.nodes.size := by
  by_contra outside
  have absent : d.node? n = none := Array.getElem?_eq_none (Nat.le_of_not_lt outside)
  exact inner (by rw [children, absent])

/-- As many steps down as there are nodes reach everything below a node. The nodes on the way down
to `n` are all different, so there are enough steps left for what is below `n`. -/
theorem below_succ_of_grounded (grounded : d.Grounded n) : ∀ {above : List NodeId} {depth : Nat},
    above.Nodup →
    (∀ a ∈ above, a < d.nodes.size ∧
      Relation.TransGen (fun child parent => child ∈ d.children parent) n a) →
    d.nodes.size ≤ depth + above.length → d.below (depth + 1) n = d.below depth n := by
  induction grounded with
  | intro n under ih =>
      intro above depth distinct ancestors enough
      by_cases childless : d.children n = []
      · cases depth with
        | zero => simp [below, childless]
        | succ depth => simp [below, childless]
      · have fresh : n ∉ above := fun known =>
          not_transGen_self (.intro n under) (ancestors n known).2
        have inside : n < d.nodes.size := lt_size_of_children childless
        have within : n :: above ⊆ List.range d.nodes.size := by
          refine List.cons_subset.mpr ⟨List.mem_range.mpr inside, fun a known => ?_⟩
          exact List.mem_range.mpr (ancestors a known).1
        have longer : (n :: above).Nodup := List.nodup_cons.mpr ⟨fresh, distinct⟩
        have fits := longer.length_le_of_subset within
        rw [List.length_range, List.length_cons] at fits
        obtain ⟨rest, rfl⟩ : ∃ rest, depth = rest + 1 := ⟨depth - 1, by omega⟩
        rw [below, below]
        refine List.flatMap_congr fun child member => ?_
        rw [ih child member longer ?_ (by rw [List.length_cons]; omega)]
        refine List.forall_mem_cons.mpr ⟨⟨inside, .single member⟩, fun a known => ?_⟩
        exact ⟨(ancestors a known).1, .head member (ancestors a known).2⟩

theorem descendants_of_grounded (grounded : d.Grounded n) :
    d.descendants n = (d.children n).flatMap fun child => child :: d.descendants child := by
  have enough : d.nodes.size ≤ d.nodes.size + ([] : List NodeId).length := Nat.le_refl _
  rw [descendants, ← below_succ_of_grounded grounded List.nodup_nil (fun _ => nofun) enough]
  rfl

/-! ## Text -/

/-- The text that a node holds itself. -/
def ownText (d : Document) (n : NodeId) : List Char :=
  match d.node? n with
  | some ⟨.text s, _, _⟩ => s.toList
  | _ => []

/-- The text in and below siblings. -/
def textIn (d : Document) (ns : List NodeId) : List Char :=
  ns.flatMap fun n => d.ownText n ++ d.textBelow n

theorem textBelow_of_grounded (grounded : d.Grounded n) :
    d.textBelow n = d.textIn (d.children n) := by
  change (d.descendants n).flatMap d.ownText = _
  rw [descendants_of_grounded grounded, List.flatMap_assoc]
  rfl

/-- The text of a node that is nothing but text. -/
def leafText? (d : Document) (n : NodeId) : Option (List Char) :=
  match d.node? n with
  | some ⟨.text s, _, []⟩ => some s.toList
  | _ => none

/-- Siblings in two documents that are the same with all below them, except that neighbouring text
nodes may hold their text in other pieces. -/
inductive Redivided (d other : Document) : List NodeId → List NodeId → Prop where
  | nil : Redivided d other [] []
  | node {n m : NodeId} {content : Content} {p q : Option NodeId} {ns ms later after : List NodeId}
      (left : d.node? n = some ⟨content, p, ns⟩) (right : other.node? m = some ⟨content, q, ms⟩)
      (inside : Redivided d other ns ms) (rest : Redivided d other later after) :
      Redivided d other (n :: later) (m :: after)
  | texts {ns ms later after : List NodeId} {ss ts : List (List Char)}
      (left : ns.map d.leafText? = ss.map some) (right : ms.map other.leafText? = ts.map some)
      (same : ss.flatten = ts.flatten) (rest : Redivided d other later after) :
      Redivided d other (ns ++ later) (ms ++ after)

theorem Redivided.symm (redivided : Redivided d other ns ms) : Redivided other d ms ns := by
  induction redivided with
  | nil => exact .nil
  | node left right _ _ inside rest => exact .node right left inside rest
  | texts left right same _ rest => exact .texts right left same.symm rest

theorem grounded_of_children (inside : ∀ child ∈ d.children n, d.Grounded child) : d.Grounded n :=
  .intro n inside

theorem grounded_of_childless (childless : d.children n = []) : d.Grounded n :=
  grounded_of_children fun child member => by
    rw [childless] at member
    cases member

theorem of_leafText? {s : List Char} (leaf : d.leafText? n = some s) :
    d.ownText n = s ∧ d.children n = [] := by
  unfold leafText? at leaf
  split at leaf
  · rename_i text parent found
    cases leaf
    simp [ownText, children, found]
  · cases leaf

theorem exists_leafText? {ss : List (List Char)} (leaves : ns.map d.leafText? = ss.map some) :
    ∀ n ∈ ns, ∃ s, d.leafText? n = some s := by
  intro n member
  have mapped : d.leafText? n ∈ ss.map some := leaves ▸ List.mem_map_of_mem member
  obtain ⟨s, _, leaf⟩ := List.mem_map.mp mapped
  exact ⟨s, leaf.symm⟩

/-- Siblings that can be compared with others are the roots of finite trees. -/
theorem Redivided.grounded (redivided : Redivided d other ns ms) : ∀ n ∈ ns, d.Grounded n := by
  induction redivided with
  | nil => exact fun n => nofun
  | node left right _ _ inside rest =>
      refine List.forall_mem_cons.mpr ⟨grounded_of_children fun child member => ?_, rest⟩
      rw [children, left] at member
      exact inside child member
  | texts left right same _ rest =>
      refine List.forall_mem_append.mpr ⟨fun n member => ?_, rest⟩
      obtain ⟨s, leaf⟩ := exists_leafText? left n member
      exact grounded_of_childless (of_leafText? leaf).2

theorem textIn_cons (n : NodeId) (ns : List NodeId) :
    d.textIn (n :: ns) = d.ownText n ++ d.textBelow n ++ d.textIn ns := rfl

theorem textIn_append (ns ms : List NodeId) : d.textIn (ns ++ ms) = d.textIn ns ++ d.textIn ms :=
  List.flatMap_append

theorem textIn_of_leaves {ss : List (List Char)} (leaves : ns.map d.leafText? = ss.map some) :
    d.textIn ns = ss.flatten := by
  induction ns generalizing ss with
  | nil =>
      obtain rfl : ss = [] := List.map_eq_nil_iff.mp leaves.symm
      rfl
  | cons n rest ih =>
      cases ss with
      | nil => cases leaves
      | cons s ss =>
          obtain ⟨leaf, more⟩ := List.cons.inj leaves
          obtain ⟨own, childless⟩ := of_leafText? leaf
          have nothing : d.textBelow n = [] := by
            rw [textBelow_of_grounded (grounded_of_childless childless), childless]
            rfl
          rw [textIn_cons, own, nothing, List.append_nil, ih more, List.flatten_cons]

/-- Where text is divided in another way, it is still the same text. -/
theorem Redivided.textIn (redivided : Redivided d other ns ms) :
    d.textIn ns = other.textIn ms := by
  induction redivided with
  | nil => rfl
  | @node n m content p q ns ms later after left right inside _ deeper rest =>
      have own : d.ownText n = other.ownText m := by
        rw [ownText, ownText, left, right]
        cases content <;> rfl
      have kept : d.children n = ns := by rw [children, left]
      have alsoKept : other.children m = ms := by rw [children, right]
      have below : d.textBelow n = d.textIn ns := by
        rw [textBelow_of_grounded (grounded_of_children (kept ▸ inside.grounded)), kept]
      have alsoBelow : other.textBelow m = other.textIn ms := by
        rw [textBelow_of_grounded (grounded_of_children (alsoKept ▸ inside.symm.grounded)),
          alsoKept]
      rw [textIn_cons, textIn_cons, own, below, alsoBelow, deeper, rest]
  | texts left right same _ rest =>
      rw [textIn_append, textIn_append, textIn_of_leaves left, textIn_of_leaves right, same, rest]

theorem textBelow_of_redivided (redivided : Redivided d other (d.children n) (other.children m)) :
    d.textBelow n = other.textBelow m := by
  rw [textBelow_of_grounded (grounded_of_children redivided.grounded),
    textBelow_of_grounded (grounded_of_children redivided.symm.grounded), redivided.textIn]

end Html.Document

namespace Accessor

open Html (Document Element NodeId)

/-- The text value of an element has no blanks but single spaces between other characters, and the
words of all text below the element, which are the parts of it between blanks. It is the only such
text, so collapsing it once more leaves it as it is, and it is the same however neighbouring text
nodes divide their text. -/
theorem text_value_collapsed (page : Page) (d : Document) (n : NodeId) (e : Element) :
    let wordsOf : List Char → List (List Char) := fun s =>
      (s.splitOnP Text.isBlank).filter fun w => !w.isEmpty
    ∃ t : List Char,
      value page d n e (ofName "text") = .string (String.ofList t) ∧
      Text.Collapsed t ∧
      wordsOf t = wordsOf (d.textBelow n) ∧
      (∀ u, Text.Collapsed u → wordsOf u = wordsOf (d.textBelow n) → u = t) ∧
      Text.collapse t = t ∧
      ∀ (away : Page) (other : Document) (m : NodeId) (f : Element),
        Document.Redivided d other (d.children n) (other.children m) →
        value away other m f (ofName "text") = .string (String.ofList t) := by
  intro wordsOf
  have parts : ∀ s, wordsOf s = Text.words s := fun s => (Text.words_eq_splitOnP s).symm
  have collapsed := Text.collapsed_collapse (d.textBelow n)
  refine ⟨Text.collapse (d.textBelow n), rfl, collapsed, ?_, ?_, ?_, ?_⟩
  · rw [parts, parts, Text.words_collapse]
  · intro u also same
    rw [parts, parts] at same
    exact Text.eq_collapse_iff.mpr ⟨also, same⟩
  · exact Text.collapse_of_collapsed collapsed
  · intro away other m f redivided
    change Json.Value.string (textOf other m) = _
    rw [textOf, Document.textBelow_of_redivided redivided]

/-- A paragraph with ` x`, a space that breaks no line and a bold `y`, and the same paragraph with
the text before the bold one in three nodes, one of them empty. -/
theorem text_value_collapsed_divided :
    let page : Page := .ofUrl ⟨"data", none, .unstructured [], none, none⟩
    let paragraph : Element := ⟨.html, "p", []⟩
    let bold : Element := ⟨.html, "b", []⟩
    let whole : Document := ⟨#[⟨.document, none, [1]⟩, ⟨.element paragraph, some 0, [2, 3]⟩,
      ⟨.text " x\u00a0", some 1, []⟩, ⟨.element bold, some 1, [4]⟩, ⟨.text "y", some 3, []⟩]⟩
    let divided : Document := ⟨#[⟨.document, none, [1]⟩,
      ⟨.element paragraph, some 0, [2, 3, 4, 5]⟩, ⟨.text " ", some 1, []⟩, ⟨.text "", some 1, []⟩,
      ⟨.text "x\u00a0", some 1, []⟩, ⟨.element bold, some 1, [6]⟩, ⟨.text "y", some 5, []⟩]⟩
    Document.Redivided whole divided (whole.children 1) (divided.children 1) ∧
    value page whole 1 paragraph (ofName "text") = .string "x y" ∧
    value page divided 1 paragraph (ofName "text") = .string "x y" := by
  intro page paragraph bold whole divided
  have redivided : Document.Redivided whole divided (whole.children 1) (divided.children 1) := by
    have letter : Document.Redivided whole divided [4] [6] := .node rfl rfl .nil .nil
    have last : Document.Redivided whole divided [3] [5] := .node rfl rfl letter .nil
    have one : [2].map whole.leafText? = [" x\u00a0".toList].map some := rfl
    have three : [2, 3, 4].map divided.leafText? =
        [" ".toList, "".toList, "x\u00a0".toList].map some := rfl
    exact .texts one three (by decide) last
  obtain ⟨t, shown, _, _, _, _, same⟩ := text_value_collapsed page whole 1 paragraph
  have collapsed : Text.collapse (whole.textBelow 1) = ['x', ' ', 'y'] := by decide
  have plain : value page whole 1 paragraph (ofName "text") = .string "x y" := by
    change Json.Value.string (String.ofList (Text.collapse (whole.textBelow 1))) = _
    rw [collapsed]
  refine ⟨redivided, plain, ?_⟩
  rw [same page divided 1 paragraph redivided, ← shown, plain]

end Accessor

end PageExtract
