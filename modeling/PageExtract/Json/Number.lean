import PageExtract.Json.Shortest

/-!
Numbers of a JSON text. Whole numbers of 64 bits stay whole, all others are doubles. A whole number
is never equal to a double.
-/

set_option autoImplicit false

namespace PageExtract.Json

inductive Number where
  | whole (n : Int)
  | real (x : Binary64)
  deriving DecidableEq, Repr

namespace Number

def equal : Number → Number → Bool
  | .whole a, .whole b => a == b
  | .real a, .real b => a.equal b
  | _, _ => false

/-- Digits with a point after the first `point` of them, zeros filled in on either side. -/
def positional (digits : List Char) (point : Int) : List Char :=
  if point ≤ 0 then
    '0' :: '.' :: List.replicate (-point).toNat '0' ++ digits
  else
    let k := point.toNat
    if digits.length ≤ k then digits ++ List.replicate (k - digits.length) '0' ++ ['.', '0']
    else digits.take k ++ '.' :: digits.drop k

def scientific (digits : List Char) (exponent : Int) : List Char :=
  let mantissa := match digits with
    | d :: e :: rest => d :: '.' :: e :: rest
    | ds => ds
  let sign := if exponent < 0 then '-' else '+'
  mantissa ++ 'e' :: sign :: Nat.toDigits 10 exponent.natAbs

/-- The shortest digits of a double: positional where the first digit counts `10 ^ -5` to `10 ^ 15`. -/
def realText (x : Binary64) : List Char :=
  let magnitude :=
    if x.isZero then ['0', '.', '0']
    else
      let (digits, exponent) := x.shortest
      let ds := Nat.toDigits 10 digits
      let leading : Int := exponent + ds.length - 1
      if -5 ≤ leading ∧ leading ≤ 15 then positional ds (leading + 1)
      else scientific ds leading
  if x.negative then '-' :: magnitude else magnitude

def chars : Number → List Char
  | .whole n => if n < 0 then '-' :: Nat.toDigits 10 n.natAbs else Nat.toDigits 10 n.toNat
  | .real x => realText x

def text (n : Number) : String :=
  String.ofList n.chars

end Number

end PageExtract.Json
