import PageExtract.Html.Document

/-!
Writing parts of a document as markup.
-/

set_option autoImplicit false

namespace PageExtract.Html

def escapedText (c : Char) : List Char :=
  match c with
  | '&' => "&amp;".toList
  | '\xa0' => "&nbsp;".toList
  | '<' => "&lt;".toList
  | '>' => "&gt;".toList
  | c => [c]

def escapedValue (c : Char) : List Char :=
  match c with
  | '&' => "&amp;".toList
  | '\xa0' => "&nbsp;".toList
  | '"' => "&quot;".toList
  | c => [c]

/-- Elements of the page that are written without content and end tag. -/
def Element.isEmptyInMarkup (e : Element) : Bool :=
  e.space == .html &&
  ["area", "base", "basefont", "bgsound", "br", "col", "embed", "frame", "hr", "img", "input",
   "keygen", "link", "meta", "param", "source", "track", "wbr"].contains e.name

/-- Elements of the page whose text is written as it is. -/
def Element.hasRawText (e : Element) : Bool :=
  e.space == .html &&
  ["style", "script", "xmp", "iframe", "noembed", "noframes", "plaintext"].contains e.name

def attributePrefix (a : Attribute) : String :=
  match a.space with
  | .none | .html | .svg | .mathml => ""
  | .xml => "xml:"
  | .xlink => "xlink:"
  | .xmlns => if a.name == "xmlns" then "" else "xmlns:"

def attributeMarkup (a : Attribute) : List Char :=
  ' ' :: (attributePrefix a).toList ++ a.name.toList ++ ['=', '"'] ++
    a.value.toList.flatMap escapedValue ++ ['"']

namespace Document

/-- The markup of a node, down to a depth. `raw` holds text as it is, `hidden` leaves out tags. -/
def nodeMarkup (d : Document) : Nat → Bool → Bool → NodeId → List Char
  | 0, _, _, _ => []
  | depth + 1, raw, hidden, n =>
    match d.node? n with
    | none => []
    | some node =>
      match node.content with
      | .document => []
      | .doctype name => "<!DOCTYPE ".toList ++ name.toList ++ ['>']
      | .comment s => "<!--".toList ++ s.toList ++ "-->".toList
      | .text s => if raw then s.toList else s.toList.flatMap escapedText
      | .element e =>
        let empty := hidden || e.isEmptyInMarkup
        let inner := node.children.flatMap (nodeMarkup d depth e.hasRawText empty)
        let opening := if hidden then []
          else '<' :: e.name.toList ++ e.attributes.flatMap attributeMarkup ++ ['>']
        let closing := if empty then [] else ['<', '/'] ++ e.name.toList ++ ['>']
        opening ++ inner ++ closing

/-- The markup of everything inside of a node. -/
def innerMarkup (d : Document) (n : NodeId) : String :=
  String.ofList ((d.children n).flatMap (d.nodeMarkup d.nodes.size false false))

end Document

end PageExtract.Html
