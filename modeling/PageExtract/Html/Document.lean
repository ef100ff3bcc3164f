/-!
Documents as arenas of nodes. A node is known by its place in the arena, which is the order in
which nodes were made; parents and children refer to each other by these places. A node that was
taken out of the tree stays in the arena without a parent.
-/

set_option autoImplicit false

namespace PageExtract.Html

inductive Namespace where
  | none | html | svg | mathml | xlink | xml | xmlns
  deriving DecidableEq, Repr, Inhabited

structure Attribute where
  space : Namespace
  name : String
  value : String
  deriving DecidableEq, Repr, Inhabited

structure Element where
  space : Namespace
  name : String
  attributes : List Attribute
  deriving DecidableEq, Repr, Inhabited

/-- The value of the attribute with a name outside of all namespaces. -/
def Element.attribute? (e : Element) (name : String) : Option String :=
  (e.attributes.find? fun a => a.space == .none && a.name == name).map Attribute.value

inductive Content where
  | document
  | doctype (name : String)
  | comment (text : String)
  | text (s : String)
  | element (e : Element)
  deriving DecidableEq, Repr, Inhabited

abbrev NodeId := Nat

structure Node where
  content : Content
  parent : Option NodeId
  children : List NodeId
  deriving DecidableEq, Repr, Inhabited

/-- Node 0 is the root of the tree. -/
structure Document where
  nodes : Array Node
  deriving DecidableEq, Repr, Inhabited

namespace Document

def blank : Document := ⟨#[⟨.document, none, []⟩]⟩

def node? (d : Document) (n : NodeId) : Option Node := d.nodes[n]?

def element? (d : Document) (n : NodeId) : Option Element :=
  match d.node? n with
  | some ⟨.element e, _, _⟩ => some e
  | _ => none

def parent? (d : Document) (n : NodeId) : Option NodeId :=
  (d.node? n).bind Node.parent

def children (d : Document) (n : NodeId) : List NodeId :=
  match d.node? n with
  | some node => node.children
  | none => []

def isElement (d : Document) (n : NodeId) : Bool := (d.element? n).isSome

/-- Nodes below a node in the order of the tree, down to a depth. -/
def below (d : Document) : Nat → NodeId → List NodeId
  | 0, _ => []
  | depth + 1, n => (d.children n).flatMap fun c => c :: below d depth c

/-- All nodes below a node in the order of the tree. -/
def descendants (d : Document) (n : NodeId) : List NodeId :=
  d.below d.nodes.size n

/-- The text of all text nodes below a node. -/
def textBelow (d : Document) (n : NodeId) : List Char :=
  (d.descendants n).flatMap fun c =>
    match d.node? c with
    | some ⟨.text s, _, _⟩ => s.toList
    | _ => []

/-- Adds a node outside of the tree. -/
def make (d : Document) (c : Content) : NodeId × Document :=
  (d.nodes.size, ⟨d.nodes.push ⟨c, none, []⟩⟩)

def update (d : Document) (n : NodeId) (f : Node → Node) : Document :=
  ⟨d.nodes.modify n f⟩

/-- Takes a node out of its parent. -/
def detach (d : Document) (n : NodeId) : Document :=
  match d.parent? n with
  | none => d
  | some p =>
    (d.update p fun node => { node with children := node.children.filter (· != n) }).update n
      fun node => { node with parent := none }

/-- Makes a node the last child of another. -/
def append (d : Document) (parent child : NodeId) : Document :=
  let d := d.detach child
  (d.update parent fun node => { node with children := node.children ++ [child] }).update child
    fun node => { node with parent := some parent }

/-- Puts a node in front of a sibling that has a parent. -/
def insertBefore (d : Document) (sibling child : NodeId) : Document :=
  let d := d.detach child
  match d.parent? sibling with
  | none => d
  | some p =>
    (d.update p fun node =>
      { node with children :=
        node.children.flatMap fun c => if c = sibling then [child, c] else [c] }).update child
      fun node => { node with parent := some p }

/-- The sibling just before a node. -/
def previous? (d : Document) (n : NodeId) : Option NodeId :=
  match d.parent? n with
  | none => none
  | some p => (((d.children p).takeWhile (· != n)).getLast?)

/-- Adds text to a text node, if the node is one. -/
def extendText? (d : Document) (n : Option NodeId) (s : String) : Option Document :=
  match n with
  | none => none
  | some n =>
    match d.node? n with
    | some ⟨.text t, _, _⟩ => some (d.update n fun node => { node with content := .text (t ++ s) })
    | _ => none

/-- Text at the end of a node, joined to text that is there. -/
def appendText (d : Document) (parent : NodeId) (s : String) : Document :=
  match d.extendText? (d.children parent).getLast? s with
  | some d => d
  | none =>
    let (n, d) := d.make (.text s)
    d.append parent n

/-- Text in front of a sibling, joined to text that is there. -/
def insertTextBefore (d : Document) (sibling : NodeId) (s : String) : Document :=
  match d.extendText? (d.previous? sibling) s with
  | some d => d
  | none =>
    let (n, d) := d.make (.text s)
    d.insertBefore sibling n

/-- Moves all children of a node to the end of another. -/
def moveChildren (d : Document) (source target : NodeId) : Document :=
  (d.children source).foldl (fun d c => d.append target c) d

/-- Adds the attributes that an element doesn't have yet. -/
def addAttributes (d : Document) (n : NodeId) (attributes : List Attribute) : Document :=
  d.update n fun node =>
    match node.content with
    | .element e =>
      let fresh := attributes.filter fun a =>
        !e.attributes.any fun b => b.space == a.space && b.name == a.name
      { node with content := .element { e with attributes := e.attributes ++ fresh } }
    | _ => node

end Document

end PageExtract.Html
