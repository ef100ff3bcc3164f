/-!
Finite binary floating point numbers with 53 digits, exactly: a sign and `mantissa * 2 ^ exponent`.
Main definitions: `nearest` rounds a ratio to the closest such number, a half to the even
neighbour; products and quotients are rounded ratios.
-/

set_option autoImplicit false

namespace PageExtract.Json

/-- A finite double: the value is `mantissa * 2 ^ exponent`, negated if `negative`. -/
structure Binary64 where
  negative : Bool
  mantissa : Nat
  exponent : Int
  deriving DecidableEq, Repr

namespace Binary64

def zero : Binary64 := ⟨false, 0, -1074⟩

def isZero (x : Binary64) : Bool := x.mantissa == 0

def neg (x : Binary64) : Binary64 := { x with negative := !x.negative }

/-- Equality of values, for which both zeros are one. -/
def equal (x y : Binary64) : Bool :=
  (x.isZero && y.isZero) || x == y

/-- The quotient rounded to a whole number, a half to the even neighbour. -/
def divideToEven (num den : Nat) : Nat :=
  let q := num / den
  let r := num % den
  if 2 * r < den then q
  else if den < 2 * r then q + 1
  else if q % 2 = 0 then q else q + 1

/-- The numerator and denominator of a ratio after multiplication by `2 ^ shift`. -/
def scale (num den : Nat) (shift : Int) : Nat × Nat :=
  match shift with
  | .ofNat s => (num * Nat.pow 2 s, den)
  | .negSucc s => (num, den * Nat.pow 2 (s + 1))

/-- The largest power of two that isn't above the ratio, as its exponent. -/
def floorLog2 (num den : Nat) : Int :=
  let guess : Int := (Nat.log2 num : Int) - (Nat.log2 den : Int)
  let (n, d) := scale num den (-guess)
  if n < d then guess - 1 else guess

/-- The number of `digits` binary digits closest to `num / den`, with no exponent below `lowest`. -/
def nearestIn (digits : Nat) (lowest : Int) (num den : Nat) : Binary64 :=
  if num = 0 then ⟨false, 0, lowest⟩
  else
    let exponent := max (floorLog2 num den - (digits - 1)) lowest
    let (n, d) := scale num den (-exponent)
    let m := divideToEven n d
    if m = Nat.pow 2 digits then ⟨false, Nat.pow 2 (digits - 1), exponent + 1⟩ else ⟨false, m, exponent⟩

/-- The double closest to `num / den`, or `none` where that would be infinite. -/
def nearest (num den : Nat) : Option Binary64 :=
  let x := nearestIn 53 (-1074) num den
  if 971 < x.exponent then none else some x

/-- The magnitude as a ratio of whole numbers. -/
def ratio (x : Binary64) : Nat × Nat :=
  scale x.mantissa 1 x.exponent

def ofNat? (n : Nat) : Option Binary64 := nearest n 1

/-- Multiplies a nonnegative number by `10 ^ k`, the power rounded first. -/
def timesPow10 (x : Binary64) (k : Nat) : Option Binary64 :=
  match nearest (Nat.pow 10 k) 1 with
  | none => none
  | some p =>
    let (a, b) := x.ratio
    let (c, d) := p.ratio
    nearest (a * c) (b * d)

/-- Divides a nonnegative number by `10 ^ k`, the power rounded first. -/
def overPow10 (x : Binary64) (k : Nat) : Option Binary64 :=
  match nearest (Nat.pow 10 k) 1 with
  | none => none
  | some p =>
    let (a, b) := x.ratio
    let (c, d) := p.ratio
    nearest (a * d) (b * c)

end Binary64

end PageExtract.Json
