import PageExtract.Html.Builder

/-!
End tags of formatting elements that are closed out of order. The part of the tree that such an
element leaves open is moved out of it, and copies of the element take its place inside.
-/

set_option autoImplicit false

namespace PageExtract.Html

open Builder

/-- Where the new copy goes among the formatting elements. -/
inductive Bookmark where
  | inPlaceOf (n : NodeId)
  | after (n : NodeId)

def replaceIn (old new : NodeId) (ns : List NodeId) : List NodeId :=
  ns.map fun n => if n = old then new else n

def replaceEntry (old : NodeId) (entry : Formatting) (fs : List Formatting) : List Formatting :=
  fs.map fun f => if isElementEntry old f then entry else f

/-- Puts an entry right after that of a node, in a list with the last one first. -/
def insertEntryAfter (n : NodeId) (entry : Formatting) (fs : List Formatting) : List Formatting :=
  fs.flatMap fun f => if isElementEntry n f then [entry, f] else [f]

def entryTag? (n : NodeId) : List Formatting → Option Tag
  | [] => none
  | .element m tag :: rest => if m = n then some tag else entryTag? n rest
  | .marker :: rest => entryTag? n rest

/-- Walks from the furthest block down to the formatting element. Elements in between that aren't
formatting, or come after the third, are closed; the others are copied and wrapped around what was
gathered so far. -/
def wrapBetween (block : NodeId) :
    Nat → List NodeId → NodeId → Bookmark → Build (NodeId × Bookmark)
  | _, [], last, mark => pure (last, mark)
  | count, n :: rest, last, mark => do
    let b ← get
    if 3 ≤ count then
      removeFormatting n
      removeFromStack n
      wrapBetween block (count + 1) rest last mark
    else match entryTag? n b.formatting with
      | none =>
        removeFromStack n
        wrapBetween block (count + 1) rest last mark
      | some tag =>
        let (copy, b) := b.makeElement .html tag.name (plainAttributes tag)
        set { b with
          stack := replaceIn n copy b.stack
          formatting := replaceEntry n (.element copy tag) b.formatting
          doc := b.doc.append copy last }
        wrapBetween block (count + 1) rest copy (if last = block then .after copy else mark)

/-- One round for the formatting element with the given entry; true if there may be another. -/
def adoptOnce (node : NodeId) (tag : Tag) : Build Bool := do
  let b ← get
  if !b.stack.contains node then
    removeFormatting node
    return false
  else if !b.inScopeOf .default (· == node) b.stack then return false
  else
    let above := b.stack.takeWhile (· != node)
    let below := (b.stack.dropWhile (· != node)).tail
    match above.reverse.find? (b.isHtmlIn specialNames) with
    | none =>
      modify fun b => { b with stack := below }
      removeFormatting node
      return false
    | some block =>
      let ancestor := below.headD 0
      let between := (above.dropWhile (· != block)).tail
      let (last, mark) ← wrapBetween block 0 between block (.inPlaceOf node)
      modify fun b =>
        let b := { b with doc := b.doc.detach last }
        b.putNode (b.spot ancestor) last
      let b ← get
      let (copy, b) := b.makeElement .html tag.name (plainAttributes tag)
      let entry := Formatting.element copy tag
      let formatting := match mark with
        | .inPlaceOf n => replaceEntry n entry b.formatting
        | .after n =>
          (insertEntryAfter n entry b.formatting).filter fun f => !isElementEntry node f
      set { b with
        doc := (b.doc.moveChildren block copy).append block copy
        formatting := formatting
        stack := (b.stack.filter (· != node)).flatMap fun n =>
          if n = block then [copy, n] else [n] }
      return true

def adoptRounds (name : String) : Nat → Build Unit
  | 0 => pure ()
  | n + 1 => do
    let b ← get
    let found := (sinceMarker b).findSome? fun
      | .element m tag => if tag.name == name then some (m, tag) else none
      | .marker => none
    match found with
    | none => closeAnyOther name
    | some (m, tag) =>
      if ← adoptOnce m tag then adoptRounds name n

/-- The end tag of a formatting element. -/
def adopt (name : String) : Build Unit := do
  let b ← get
  if b.currentIs name && !isFormatting b b.current then pop
  else adoptRounds name 8

end PageExtract.Html
