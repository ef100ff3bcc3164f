import PageExtract.Pattern.Property

/-!
Regular expressions and the places in a text that they reach. Main definitions: `reach` moves a
set of places over an expression, `Expression.occursIn` asks whether any place is reached at all.
-/

set_option autoImplicit false

namespace PageExtract.Pattern

open PageExtract.Text (Ranges)

/-- Conditions on a place that consume nothing. -/
inductive Look where
  | textStart | textEnd
  | lineStart | lineEnd
  | breakStart | breakEnd
  | wordBoundary (ascii : Bool) | notWordBoundary (ascii : Bool)
  | wordStart (ascii : Bool) | wordEnd (ascii : Bool)
  | wordStartHalf (ascii : Bool) | wordEndHalf (ascii : Bool)
  deriving DecidableEq, Repr

inductive Expression where
  | empty
  | set (members : Ranges)
  | look (l : Look)
  | seq (first second : Expression)
  | either (left right : Expression)
  | repeated (body : Expression) (low : Nat) (high : Option Nat)
  deriving Repr

def isWord (ascii : Bool) (c : Char) : Bool :=
  c.isAlphanum || c == '_' || (!ascii && 0x7F < c.toNat && wordRanges.contains c.toNat)

namespace Look

def holds (l : Look) (text : Array Char) (p : Nat) : Bool :=
  let before := if p = 0 then none else text[p - 1]?
  let here := text[p]?
  let word (ascii : Bool) (c : Option Char) : Bool := c.any (isWord ascii)
  match l with
  | .textStart => p == 0
  | .textEnd => p == text.size
  | .lineStart => p == 0 || before == some '\n'
  | .lineEnd => p == text.size || here == some '\n'
  | .breakStart => p == 0 || before == some '\n' || (before == some '\r' && here != some '\n')
  | .breakEnd => p == text.size || here == some '\r' || (here == some '\n' && before != some '\r')
  | .wordBoundary a => word a before != word a here
  | .notWordBoundary a => word a before == word a here
  | .wordStart a => !word a before && word a here
  | .wordEnd a => word a before && !word a here
  | .wordStartHalf a => !word a before
  | .wordEndHalf a => !word a here

end Look

/-- Union of two increasing lists. -/
def merge (as bs : List Nat) : List Nat :=
  let rec go : Nat → List Nat → List Nat → List Nat
    | 0, _, _ => []
    | _, [], bs => bs
    | _, as, [] => as
    | fuel + 1, a :: as, b :: bs =>
      if a < b then a :: go fuel as (b :: bs)
      else if b < a then b :: go fuel (a :: as) bs
      else a :: go fuel as bs
  go (as.length + bs.length + 1) as bs

/-- Applies a step a number of times, or until nothing is left. -/
def iterate (step : List Nat → List Nat) : Nat → List Nat → List Nat
  | 0, ps => ps
  | n + 1, ps => if ps.isEmpty then [] else iterate step n (step ps)

/-- Adds what at most the given number of steps reach from the frontier. -/
def saturate (step : List Nat → List Nat) : Nat → List Nat → List Nat → List Nat
  | 0, reached, _ => reached
  | n + 1, reached, frontier =>
    let fresh := (step frontier).filter fun p => !reached.contains p
    if fresh.isEmpty then reached else saturate step n (merge reached fresh) fresh

/-- The places reached over an expression from a set of places, in increasing order. -/
def reach (text : Array Char) : Expression → List Nat → List Nat
  | .empty, ps => ps
  | .set rs, ps => ps.filterMap fun p =>
      match text[p]? with
      | some c => if rs.contains c.toNat then some (p + 1) else none
      | none => none
  | .look l, ps => ps.filter fun p => l.holds text p
  | .seq a b, ps => reach text b (reach text a ps)
  | .either a b, ps => merge (reach text a ps) (reach text b ps)
  | .repeated e low high, ps =>
    let start := iterate (reach text e) low ps
    let limit := match high with
      | none => text.size + 1
      | some h => min (h - low) (text.size + 1)
    saturate (reach text e) limit start start

namespace Expression

/-- Some part of the text, possibly empty, is described by the expression. -/
def occursIn (e : Expression) (s : String) : Bool :=
  let text := s.toList.toArray
  !(reach text e (List.range (text.size + 1))).isEmpty

/-- Bytes that the states of the expression take, roughly. -/
def cost : Expression → Nat
  | .empty => 24
  | .set rs => 24 + 8 * rs.length + 48 * (rs.filter fun r => 0x7F < r.2).length
  | .look _ => 24
  | .seq a b => a.cost + b.cost
  | .either a b => a.cost + b.cost + 24
  | .repeated e low high =>
    match high with
    | none => e.cost * (low + 1) + 24
    | some h => e.cost * max h 1 + 24 * (h - low)

end Expression

end PageExtract.Pattern
