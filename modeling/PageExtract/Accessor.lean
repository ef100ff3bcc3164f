import PageExtract.Html.Markup
import PageExtract.Page

/-!
What is taken from an element: its text, its link, the markup inside of it, its own tag, or one of
its attributes.
-/

set_option autoImplicit false

namespace PageExtract

open Html (Attribute Document Element NodeId)
open Json (Value)

inductive Accessor where
  | text
  | href
  | html
  | tag
  | attr (name : String)
  deriving DecidableEq, Repr

namespace Accessor

def ofName (name : String) : Accessor :=
  if name = "text" then .text
  else if name = "href" then .href
  else if name = "html" then .html
  else if name = "tag" then .tag
  else .attr name

/-- What is taken from an element unless something else is asked for. -/
def standard (e : Element) : Accessor :=
  if e.name = "a" ∨ e.name = "link" then .href
  else if e.name = "img" then .attr "src"
  else .text

/-- Elements without an end tag. -/
def hasNoEnd (name : String) : Bool :=
  ["area", "base", "br", "col", "embed", "hr", "img", "input", "link", "meta", "param", "source",
   "track", "wbr"].contains name

/-- A text with another one in place of each occurrence of a character. -/
def replaced (c : Char) (text : List Char) (s : List Char) : List Char :=
  s.flatMap fun d => if d = c then text else [d]

/-- Ampersands come first, so that those of the entities stay. -/
def escaped (s : List Char) : List Char :=
  let s := replaced '&' ['&', 'a', 'm', 'p', ';'] s
  let s := replaced '"' ['&', 'q', 'u', 'o', 't', ';'] s
  let s := replaced '<' ['&', 'l', 't', ';'] s
  replaced '>' ['&', 'g', 't', ';'] s

def attributeText (a : Attribute) : List Char :=
  ' ' :: a.name.toList ++ ['=', '"'] ++ escaped a.value.toList ++ ['"']

/-- The start tag of an element, and its end tag if it has one. -/
def tagText (e : Element) : List Char :=
  '<' :: e.name.toList ++ e.attributes.flatMap attributeText ++ ['>'] ++
    (if hasNoEnd e.name then [] else ['<', '/'] ++ e.name.toList ++ ['>'])

/-- The text inside of an element, its words separated by single spaces. -/
def textOf (d : Document) (n : NodeId) : String :=
  String.ofList (Text.collapse (d.textBelow n))

def ofOption : Option String → Value
  | some s => .string s
  | none => .null

def value (page : Page) (d : Document) (n : NodeId) (e : Element) : Accessor → Value
  | .text => .string (textOf d n)
  | .href => ofOption ((e.attribute? "href").map page.resolve)
  | .html => .string (d.innerMarkup n)
  | .tag => .string (String.ofList (tagText e))
  | .attr name => ofOption (e.attribute? name)

/-- The target of an element's link; a blank link has none. -/
def linkTarget? (page : Page) (e : Element) : Option String :=
  match e.attribute? "href" with
  | some link => if Text.isAllBlank link then none else some (page.resolve link)
  | none => none

end Accessor

end PageExtract
