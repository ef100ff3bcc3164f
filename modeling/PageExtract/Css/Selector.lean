import PageExtract.Html.Document

/-!
Selectors as trees. A chain is a compound of simple selectors, joined by combinators to what must
be found to the left of it.
-/

set_option autoImplicit false

namespace PageExtract.Css

inductive Combinator where
  | descendant | child | nextSibling | laterSibling
  deriving DecidableEq, Repr

/-- How an attribute's value is compared. -/
inductive AttributeTest where
  | equal | oneWord | dashPrefix | starts | ends | holds
  deriving DecidableEq, Repr

/-- Whether case counts; by default some attributes of the page's own elements ignore it. -/
inductive CaseRule where
  | exact | ignored | ignoredInHtml
  deriving DecidableEq, Repr

structure AttributeSelector where
  name : String
  anySpace : Bool
  test : Option (AttributeTest × String × CaseRule)
  deriving DecidableEq, Repr

/-- Every `a`-th element from the `b`-th on, counted among siblings. -/
structure Position where
  a : Int
  b : Int
  fromEnd : Bool
  sameType : Bool
  deriving DecidableEq, Repr

mutual

inductive Simple where
  | type (name : String)
  | anyType
  | noSpace
  | id (name : String)
  | ofClass (name : String)
  | withAttribute (a : AttributeSelector)
  | position (p : Position)
  | onlyChild (sameType : Bool)
  | root
  | empty
  | scope
  /-- The element that a relative selector starts from. -/
  | anchor
  | isAny (chains : List Chain)
  | isNone (chains : List Chain)
  | hasAny (chains : List Chain)

inductive Chain where
  | single (compound : List Simple)
  | joined (left : Chain) (how : Combinator) (compound : List Simple)
  /-- A part that couldn't be read where that is forgiven; it matches nothing. -/
  | invalid

end

/-- A selector: an element matches if one of the chains does. -/
structure Selector where
  chains : List Chain

end PageExtract.Css
