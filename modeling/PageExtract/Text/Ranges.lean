import PageExtract.Text.Blank
import PageExtract.Text.Split

/-!
Sets of code points as lists of closed ranges, and their written form: hexadecimal bounds
`41-5a`, a range of one point as `5f`, ranges separated by blanks.
-/

set_option autoImplicit false

namespace PageExtract.Text

/-- Closed ranges of code points. -/
abbrev Ranges := List (Nat × Nat)

namespace Ranges

def contains (rs : Ranges) (n : Nat) : Bool :=
  rs.any fun r => r.1 ≤ n && n ≤ r.2

def hexDigit? (c : Char) : Option Nat :=
  if '0' ≤ c ∧ c ≤ '9' then some (c.toNat - '0'.toNat)
  else if 'a' ≤ c ∧ c ≤ 'f' then some (c.toNat - 'a'.toNat + 10)
  else if 'A' ≤ c ∧ c ≤ 'F' then some (c.toNat - 'A'.toNat + 10)
  else none

def number (digits : List Char) : Nat :=
  digits.foldl (fun n c => n * 16 + (hexDigit? c).getD 0) 0

/-- One range, from its bounds around a dash. -/
def ofWord (word : List Char) : Nat × Nat :=
  match splitAt '-' word with
  | low :: high :: _ => (number low, number high)
  | _ => (number word, number word)

def read (s : String) : Ranges :=
  (words s.toList).map ofWord

/-- Puts ranges in order and merges those that touch. -/
def normalize (rs : Ranges) : Ranges :=
  let sorted := rs.mergeSort fun a b => a.1 ≤ b.1
  (sorted.foldl step []).reverse
where
  step (acc : Ranges) (r : Nat × Nat) : Ranges :=
    match acc with
    | [] => [r]
    | p :: rest => if r.1 ≤ p.2 + 1 then (p.1, max p.2 r.2) :: rest else r :: acc

/-- Ranges between and around the ranges of a sorted list, from `start` on. -/
def gaps (start : Nat) : Ranges → Ranges
  | [] => if start ≤ 0x10FFFF then [(start, 0x10FFFF)] else []
  | r :: rest =>
    if start < r.1 then (start, r.1 - 1) :: gaps (r.2 + 1) rest else gaps (r.2 + 1) rest

def complement (rs : Ranges) : Ranges :=
  gaps 0 rs.normalize

def inter (as bs : Ranges) : Ranges :=
  as.flatMap fun a => bs.filterMap fun b =>
    let low := max a.1 b.1
    let high := min a.2 b.2
    if low ≤ high then some (low, high) else none

def diff (as bs : Ranges) : Ranges :=
  inter as bs.complement

end Ranges

end PageExtract.Text
