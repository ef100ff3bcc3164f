import PageExtract.Css.Selector
import PageExtract.Text.Blank
import PageExtract.Text.Search

/-!
Which elements of a document a selector describes.
-/

set_option autoImplicit false

namespace PageExtract.Html.Document

/-- The nodes above a node, the nearest first, up to a height. -/
def above (d : Document) : Nat → NodeId → List NodeId
  | 0, _ => []
  | height + 1, n =>
    match d.parent? n with
    | none => []
    | some p => p :: above d height p

/-- The elements above a node, up to the first node that is none. -/
def ancestors (d : Document) (n : NodeId) : List NodeId :=
  (d.above d.nodes.size n).takeWhile d.isElement

def siblings (d : Document) (n : NodeId) : List NodeId :=
  match d.parent? n with
  | none => [n]
  | some p => (d.children p).filter d.isElement

/-- The elements before a node with the same parent, the nearest first. -/
def before (d : Document) (n : NodeId) : List NodeId :=
  ((d.siblings n).takeWhile (· != n)).reverse

/-- The elements after a node with the same parent, the nearest first. -/
def after (d : Document) (n : NodeId) : List NodeId :=
  ((d.siblings n).dropWhile (· != n)).tail

/-- An element whose parent is the document itself. -/
def isRoot (d : Document) (n : NodeId) : Bool :=
  match d.parent? n with
  | none => false
  | some p =>
    match d.node? p with
    | some ⟨.document, _, _⟩ => true
    | _ => false

def sameType (d : Document) (m n : NodeId) : Bool :=
  match d.element? m, d.element? n with
  | some e, some f => e.space == f.space && e.name == f.name
  | _, _ => false

/-- Neither elements nor text inside. -/
def isHollow (d : Document) (n : NodeId) : Bool :=
  (d.children n).all fun c =>
    match d.node? c with
    | some ⟨.element _, _, _⟩ => false
    | some ⟨.text _, _, _⟩ => false
    | _ => true

end PageExtract.Html.Document

namespace PageExtract.Css

open Html (Document Element NodeId)

def lowerChars (cs : List Char) : List Char := cs.map Char.toLower

/-- The words of an attribute that holds several. -/
def attributeWords : List Char → List (List Char)
  | [] => [[]]
  | c :: rest =>
    if c == ' ' || c == '\t' || c == '\n' || c == '\r' || c == '\x0c' then [] :: attributeWords rest
    else match attributeWords rest with
      | [] => [[c]]
      | w :: ws => (c :: w) :: ws

def AttributeTest.holdsFor (t : AttributeTest) (actual wanted : List Char) : Bool :=
  match t with
  | .equal => actual == wanted
  | .oneWord => !wanted.isEmpty && (attributeWords actual).contains wanted
  | .dashPrefix => actual == wanted || (wanted ++ ['-']).isPrefixOf actual
  | .starts => !wanted.isEmpty && wanted.isPrefixOf actual
  | .ends => !wanted.isEmpty && wanted.isSuffixOf actual
  | .holds => !wanted.isEmpty && Text.infixOf wanted actual

/-- Names of the page's own elements and of their attributes are compared in lower case. -/
def wantedName (e : Element) (name : String) : String :=
  if e.space == .html then String.ofList (lowerChars name.toList) else name

def AttributeSelector.holdsFor (s : AttributeSelector) (e : Element) : Bool :=
  let name := wantedName e s.name
  e.attributes.any fun a =>
    a.name == name && (s.anySpace || a.space == .none) &&
    match s.test with
    | none => true
    | some (test, wanted, rule) =>
      let ignoreCase : Bool := match rule with
        | .exact => false
        | .ignored => true
        | .ignoredInHtml => e.space == .html
      if ignoreCase then test.holdsFor (lowerChars a.value.toList) (lowerChars wanted.toList)
      else test.holdsFor a.value.toList wanted.toList

def hasClass (e : Element) (name : String) : Bool :=
  (e.attributes.find? fun a => a.name == "class").any fun a =>
    (Text.words a.value.toList).contains name.toList

def hasId (e : Element) (name : String) : Bool :=
  (e.attributes.find? fun a => a.name == "id").any fun a => a.value == name

namespace Position

/-- Some `n` from zero on gives `a * n + b = index`. -/
def admits (p : Position) (index : Int) : Bool :=
  let d := index - p.b
  if p.a = 0 then d == 0 else d % p.a == 0 && 0 ≤ d / p.a

/-- The place of an element among its siblings, from one on. -/
def index (d : Document) (p : Position) (n : NodeId) : Nat :=
  let others := if p.fromEnd then d.after n else d.before n
  (if p.sameType then (others.filter (d.sameType n)).length else others.length) + 1

end Position

/-- What a selector may refer to besides the document: the element in scope and the element that a
relative selector starts from. -/
structure Context where
  doc : Document
  scope : Option NodeId
  anchor : Option NodeId

/-- The elements that a combinator leads to. -/
def Combinator.leftOf (how : Combinator) (d : Document) (n : NodeId) : List NodeId :=
  match how with
  | .descendant => d.ancestors n
  | .child => (d.ancestors n).take 1
  | .nextSibling => (d.before n).take 1
  | .laterSibling => d.before n

/-- The elements that a relative selector may find: everything below and after. -/
def reachable (d : Document) (n : NodeId) : List NodeId :=
  (d.descendants n ++ (d.after n).flatMap fun m => m :: d.descendants m).filter d.isElement

mutual

def Simple.holdsFor (c : Context) : Simple → NodeId → Bool
  | .type name, n => (c.doc.element? n).any fun e => e.name == wantedName e name
  | .anyType, _ => true
  | .noSpace, n => (c.doc.element? n).any fun e => e.space == .none
  | .id name, n => (c.doc.element? n).any fun e => hasId e name
  | .ofClass name, n => (c.doc.element? n).any fun e => hasClass e name
  | .withAttribute a, n => (c.doc.element? n).any a.holdsFor
  | .position p, n => p.admits (p.index c.doc n)
  | .onlyChild same, n =>
    (c.doc.siblings n).all fun m => m == n || (same && !c.doc.sameType n m)
  | .root, n => c.doc.isRoot n
  | .empty, n => c.doc.isHollow n
  | .scope, n => match c.scope with
    | some s => s == n
    | none => c.doc.isRoot n
  | .anchor, n => c.anchor == some n
  | .isAny chains, n => anyHolds c chains n
  | .isNone chains, n => !anyHolds c chains n
  | .hasAny chains, n =>
    (reachable c.doc n).any fun m => anyHolds { c with anchor := some n } chains m
  termination_by structural s => s

def allHold (c : Context) : List Simple → NodeId → Bool
  | [], _ => true
  | s :: rest, n => s.holdsFor c n && allHold c rest n
  termination_by structural ss => ss

def Chain.holdsFor (c : Context) : Chain → NodeId → Bool
  | .single compound, n => allHold c compound n
  | .joined left how compound, n =>
    allHold c compound n && (how.leftOf c.doc n).any fun m => left.holdsFor c m
  | .invalid, _ => false
  termination_by structural s => s

def anyHolds (c : Context) : List Chain → NodeId → Bool
  | [], _ => false
  | s :: rest, n => s.holdsFor c n || anyHolds c rest n
  termination_by structural ss => ss

end

namespace Selector

def matchesIn (s : Selector) (d : Document) (scope : Option NodeId) (n : NodeId) : Bool :=
  anyHolds ⟨d, scope, none⟩ s.chains n

/-- The elements a selector is tried on: those below the element in scope in the order of the tree,
or all of the document in the order in which they were made, those without a parent left out. -/
def candidates (d : Document) (scope : Option NodeId) : List NodeId :=
  match scope with
  | some e => (d.descendants e).filter d.isElement
  | none => (List.range d.nodes.size).filter fun n => d.isElement n && (d.parent? n).isSome

/-- All elements that match. -/
def select (s : Selector) (d : Document) (scope : Option NodeId) : List NodeId :=
  (candidates d scope).filter (s.matchesIn d scope)

/-- The first element that matches. -/
def first? (s : Selector) (d : Document) (scope : Option NodeId) : Option NodeId :=
  (candidates d scope).find? (s.matchesIn d scope)

end Selector

end PageExtract.Css
