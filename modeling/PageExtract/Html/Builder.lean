import PageExtract.Html.Document
import PageExtract.Html.Token

/-!
The state of building a document: the elements that are open, the formatting elements to be opened
again, and where the next node goes.
-/

set_option autoImplicit false

namespace PageExtract.Html

/-- What the next piece of input means. -/
inductive Mode where
  | initial | beforeHtml | beforeHead | inHead | afterHead | inBody | text
  | inTable | inTableText | inCaption | inColumnGroup | inTableBody | inRow | inCell
  | inSelect | inSelectInTable | inTemplate | afterBody | inFrameset | afterFrameset
  | afterAfterBody | afterAfterFrameset
  deriving DecidableEq, Repr, Inhabited

inductive Formatting where
  | marker
  | element (n : NodeId) (tag : Tag)
  deriving DecidableEq, Repr, Inhabited

structure Builder where
  doc : Document
  mode : Mode
  /-- The mode to go back to after raw text or text in a table. -/
  returnMode : Mode
  templateModes : List Mode
  tableText : List (Bool × List Char)
  /-- Whether the document is shown by older rules. -/
  outdated : Bool
  /-- The elements that are open, the current one first. -/
  stack : List NodeId
  /-- The formatting elements, the last one first. -/
  formatting : List Formatting
  head : Option NodeId
  form : Option NodeId
  framesetAllowed : Bool
  dropLineFeed : Bool
  /-- Content of a table that doesn't belong there goes in front of it. -/
  fostering : Bool
  textMode : TextMode
  deriving Inhabited

/-- A piece of input: a token, or a run of text of one sort. -/
inductive Piece where
  | start (t : Tag)
  | finish (t : Tag)
  | comment (s : String)
  | blank (cs : List Char)
  | chars (cs : List Char)
  | null
  | eof
  deriving DecidableEq, Repr, Inhabited

/-- What is to be done after a piece: go on, or look at a piece again. -/
inductive Next where
  | done
  | again (p : Piece)
  deriving DecidableEq, Repr, Inhabited

abbrev Build := StateM Builder

namespace Builder

def empty : Builder where
  doc := .blank
  mode := .initial
  returnMode := .initial
  templateModes := []
  tableText := []
  outdated := false
  stack := []
  formatting := []
  head := none
  form := none
  framesetAllowed := true
  dropLineFeed := false
  fostering := false
  textMode := .markup

def element (b : Builder) (n : NodeId) : Element :=
  (b.doc.element? n).getD default

def current (b : Builder) : NodeId := b.stack.headD 0

def isHtml (b : Builder) (name : String) (n : NodeId) : Bool :=
  let e := b.element n
  e.space == .html && e.name == name

def isHtmlIn (b : Builder) (names : List String) (n : NodeId) : Bool :=
  let e := b.element n
  e.space == .html && names.contains e.name

def currentIs (b : Builder) (name : String) : Bool :=
  match b.stack with
  | [] => false
  | n :: _ => b.isHtml name n

def currentIn (b : Builder) (names : List String) : Bool :=
  match b.stack with
  | [] => false
  | n :: _ => b.isHtmlIn names n

def isOpen (b : Builder) (name : String) : Bool :=
  b.stack.any (b.isHtml name)

end Builder

def specialNames : List String :=
  ["address", "applet", "area", "article", "aside", "base", "basefont", "bgsound", "blockquote",
   "body", "br", "button", "caption", "center", "col", "colgroup", "dd", "details", "dir", "div",
   "dl", "dt", "embed", "fieldset", "figcaption", "figure", "footer", "form", "frame", "frameset",
   "h1", "h2", "h3", "h4", "h5", "h6", "head", "header", "hgroup", "hr", "html", "iframe", "img",
   "input", "isindex", "li", "link", "listing", "main", "marquee", "menu", "meta", "nav",
   "noembed", "noframes", "noscript", "object", "ol", "p", "param", "plaintext", "pre", "script",
   "section", "select", "source", "style", "summary", "table", "tbody", "td", "template",
   "textarea", "tfoot", "th", "thead", "title", "tr", "track", "ul", "wbr", "xmp"]

def headingNames : List String := ["h1", "h2", "h3", "h4", "h5", "h6"]

def impliedEndNames : List String :=
  ["dd", "dt", "li", "option", "optgroup", "p", "rb", "rp", "rt", "rtc"]

def allImpliedEndNames : List String :=
  impliedEndNames ++ ["caption", "colgroup", "tbody", "td", "tfoot", "th", "thead", "tr"]

def isMathTextPoint (e : Element) : Bool :=
  e.space == .mathml && ["mi", "mo", "mn", "ms", "mtext"].contains e.name

def isSvgHtmlPoint (e : Element) : Bool :=
  e.space == .svg && ["foreignObject", "desc", "title"].contains e.name

/-- Element sets that bound the search for an open element. -/
inductive Bound where
  | default | list | button | table | select
  deriving DecidableEq, Repr

def Bound.stops (s : Bound) (e : Element) : Bool :=
  let named (names : List String) : Bool := e.space == .html && names.contains e.name
  let default :=
    named ["applet", "caption", "html", "table", "td", "th", "marquee", "object", "template"] ||
    isMathTextPoint e || isSvgHtmlPoint e
  match s with
  | .default => default
  | .list => default || named ["ol", "ul"]
  | .button => default || named ["button"]
  | .table => named ["html", "table", "template"]
  | .select => !named ["optgroup", "option"]

namespace Builder

/-- An element with the property is open, and no bound above it. -/
def inScopeOf (b : Builder) (s : Bound) (p : NodeId → Bool) : List NodeId → Bool
  | [] => false
  | n :: rest => if p n then true else if s.stops (b.element n) then false else inScopeOf b s p rest

def inScope (b : Builder) (s : Bound) (name : String) : Bool :=
  b.inScopeOf s (b.isHtml name) b.stack

/-- Where a new node goes: to the end of a node, or in front of a table that has a parent. -/
inductive Spot where
  | lastOf (n : NodeId)
  | aroundTable (table above : NodeId)

/-- The place for content of a table that doesn't belong there. -/
def fosterSpot (b : Builder) : List NodeId → Spot
  | [] => .lastOf (b.stack.getLastD 0)
  | n :: rest =>
    if b.isHtml "template" n then .lastOf n
    else if b.isHtml "table" n then .aroundTable n (rest.headD 0)
    else fosterSpot b rest

def spot (b : Builder) (target : NodeId) : Spot :=
  if b.fostering && b.isHtmlIn ["table", "tbody", "tfoot", "thead", "tr"] target then
    b.fosterSpot b.stack
  else .lastOf target

def putNode (b : Builder) (s : Spot) (n : NodeId) : Builder :=
  match s with
  | .lastOf target => { b with doc := b.doc.append target n }
  | .aroundTable table above =>
    if (b.doc.parent? table).isSome then { b with doc := b.doc.insertBefore table n }
    else { b with doc := b.doc.append above n }

def putText (b : Builder) (s : Spot) (t : String) : Builder :=
  match s with
  | .lastOf target => { b with doc := b.doc.appendText target t }
  | .aroundTable table above =>
    if (b.doc.parent? table).isSome then { b with doc := b.doc.insertTextBefore table t }
    else { b with doc := b.doc.appendText above t }

/-- A new element outside of the tree. -/
def makeElement (b : Builder) (space : Namespace) (name : String) (attributes : List Attribute) :
    NodeId × Builder :=
  let (n, doc) := b.doc.make (.element ⟨space, name, attributes⟩)
  (n, { b with doc := doc })

def plainAttributes (t : Tag) : List Attribute :=
  t.attributes.map fun a => ⟨.none, a.1, a.2⟩

end Builder

open Builder

/-- Makes an element at the current place and opens it. -/
def insertElement (space : Namespace) (name : String) (attributes : List Attribute) :
    Build NodeId := fun b =>
  let (n, b) := b.makeElement space name attributes
  let b := b.putNode (b.spot b.current) n
  (n, { b with stack := n :: b.stack })

def insertTag (t : Tag) : Build NodeId :=
  insertElement .html t.name (plainAttributes t)

def insertNamed (name : String) : Build NodeId :=
  insertElement .html name []

def pop : Build Unit :=
  modify fun b => { b with stack := b.stack.tail }

/-- An element that is closed at once. -/
def insertClosed (t : Tag) : Build Unit := do
  discard (insertTag t)
  pop

def insertText (cs : List Char) : Build Next := do
  modify fun b => b.putText (b.spot b.current) (String.ofList cs)
  return .done

def insertCommentAt (target : Builder → Spot) (s : String) : Build Next := do
  modify fun b =>
    let (n, doc) := b.doc.make (.comment s)
    let b := { b with doc := doc }
    b.putNode (target b) n
  return .done

def insertComment (s : String) : Build Next :=
  insertCommentAt (fun b => b.spot b.current) s

def setMode (m : Mode) : Build Unit :=
  modify fun b => { b with mode := m }

def againIn (m : Mode) (p : Piece) : Build Next := do
  setMode m
  return .again p

def forbidFrameset : Build Unit :=
  modify fun b => { b with framesetAllowed := false }

/-- Closes elements up to and with the first one that has the property. -/
def popUntil (p : Builder → NodeId → Bool) : Build Unit :=
  modify fun b => { b with stack := (b.stack.dropWhile fun n => !p b n).tail }

def popUntilNamed (name : String) : Build Unit :=
  popUntil fun b n => b.isHtml name n

/-- Closes elements until the current one has one of the names. -/
def popDownTo (names : List String) : Build Unit :=
  modify fun b => { b with stack := b.stack.dropWhile fun n => !b.isHtmlIn names n }

def closeImplied (names : List String) : Build Unit :=
  modify fun b => { b with stack := b.stack.dropWhile (b.isHtmlIn names) }

def closeImpliedExcept (name : String) : Build Unit :=
  closeImplied (impliedEndNames.filter (· != name))

def closeParagraph : Build Unit := do
  closeImpliedExcept "p"
  popUntilNamed "p"

def closeParagraphInScope : Build Unit := do
  if (← get).inScope .button "p" then closeParagraph

def removeFromStack (n : NodeId) : Build Unit :=
  modify fun b => { b with stack := b.stack.filter (· != n) }

def addMarker : Build Unit :=
  modify fun b => { b with formatting := .marker :: b.formatting }

/-- Forgets formatting elements up to and with the last marker. -/
def clearToMarker : Build Unit :=
  modify fun b =>
    { b with formatting := (b.formatting.dropWhile fun f => f != .marker).tail }

def isElementEntry (n : NodeId) : Formatting → Bool
  | .element m _ => m == n
  | .marker => false

def isFormatting (b : Builder) (n : NodeId) : Bool :=
  b.formatting.any (isElementEntry n)

def removeFormatting (n : NodeId) : Build Unit :=
  modify fun b => { b with formatting := b.formatting.filter fun f => !isElementEntry n f }

/-- Opens the formatting elements again that were closed with their surroundings, given in the order
in which they stood. -/
def reopen : List Formatting → List Formatting → Build (List Formatting)
  | [], done => pure done
  | .marker :: rest, done => reopen rest (.marker :: done)
  | .element _ tag :: rest, done => do
    let n ← insertTag tag
    reopen rest (.element n tag :: done)

def reconstructFormatting : Build Unit := do
  let b ← get
  let closed : Formatting → Bool
    | .marker => false
    | .element n _ => !b.stack.contains n
  let lost := b.formatting.takeWhile closed
  let kept := b.formatting.dropWhile closed
  let reopened ← reopen lost.reverse []
  modify fun b => { b with formatting := reopened ++ kept }

def sinceMarker (b : Builder) : List Formatting :=
  b.formatting.takeWhile fun f => f != .marker

/-- Tags with the same name and attributes, in any order. -/
def sameTag (s t : Tag) : Bool :=
  s.name == t.name && s.attributes.length == t.attributes.length &&
    s.attributes.all t.attributes.contains

/-- Opens a formatting element; of four equal ones since the last marker the first is forgotten. -/
def insertFormatting (t : Tag) : Build Unit := do
  let b ← get
  let same := (sinceMarker b).filterMap fun
    | .element n tag => if sameTag tag t then some n else none
    | .marker => none
  if 3 ≤ same.length then
    match same.getLast? with
    | some n => removeFormatting n
    | none => pure ()
  let n ← insertTag t
  modify fun b => { b with formatting := .element n t :: b.formatting }

/-- An end tag without rules of its own closes the nearest element of its name, if no special
element is in between. -/
def closeAnyOther (name : String) : Build Unit :=
  modify fun b =>
    let rec go : List NodeId → Option (List NodeId)
      | [] => none
      | n :: rest =>
        if b.isHtml name n then some rest
        else if b.isHtmlIn specialNames n then none
        else go rest
    match go b.stack with
    | some rest => { b with stack := rest }
    | none => b

/-- The mode that fits the elements that are open. -/
def resetMode (b : Builder) : Mode :=
  let rec go : List NodeId → Mode
    | [] => .inBody
    | n :: rest =>
      let e := b.element n
      if e.space != .html then go rest
      else match e.name with
        | "select" =>
          match rest.find? (b.isHtmlIn ["template", "table"]) with
          | some m => if b.isHtml "table" m then .inSelectInTable else .inSelect
          | none => .inSelect
        | "td" | "th" => if rest.isEmpty then go rest else .inCell
        | "tr" => .inRow
        | "tbody" | "thead" | "tfoot" => .inTableBody
        | "caption" => .inCaption
        | "colgroup" => .inColumnGroup
        | "table" => .inTable
        | "template" => b.templateModes.headD .inBody
        | "head" => if rest.isEmpty then go rest else .inHead
        | "body" => .inBody
        | "frameset" => .inFrameset
        | "html" => if b.head.isSome then .afterHead else .beforeHead
        | _ => go rest
  go b.stack

def setFittingMode : Build Unit :=
  modify fun b => { b with mode := resetMode b }

/-- Opens an element whose text is read raw. -/
def insertRaw (t : Tag) (m : TextMode) : Build Next := do
  discard (insertTag t)
  modify fun b => { b with returnMode := b.mode, mode := .text, textMode := m }
  return .done

end PageExtract.Html
