import PageExtract.Json.Binary64

/-!
The fewest decimal digits that read back as the same double, and among those the nearest.
-/

set_option autoImplicit false

namespace PageExtract.Json.Binary64

/-- The decimals that round to `mantissa * 2 ^ exponent` lie between `(low, high)` over `den`. -/
structure Interval where
  low : Nat
  value : Nat
  high : Nat
  den : Nat
  closed : Bool

/-- The decimals that round to a number whose mantissas end at twice `top` and whose exponents
start at `lowest`. -/
def intervalOf (top : Nat) (lowest : Int) (x : Binary64) : Interval :=
  let m := x.mantissa
  -- The gap below a power of two is half the gap above it.
  let atPower := m = top ∧ lowest < x.exponent
  let (unit, den) := scale 1 4 x.exponent
  { low := (4 * m - (if atPower then 1 else 2)) * unit
    value := 4 * m * unit
    high := (4 * m + 2) * unit
    den := den
    closed := m % 2 = 0 }

def interval (x : Binary64) : Interval := intervalOf (Nat.pow 2 52) (-1074) x

def Interval.holds (i : Interval) (num den : Nat) : Bool :=
  -- Compares `num / den` with the bounds over `i.den`.
  let n := num * i.den
  if i.closed then i.low * den ≤ n && n ≤ i.high * den
  else i.low * den < n && n < i.high * den

/-- A whole number of `10 ^ exponent` as a ratio. -/
def decimalRatio (digits : Nat) (exponent : Int) : Nat × Nat :=
  match exponent with
  | .ofNat e => (digits * Nat.pow 10 e, 1)
  | .negSucc e => (digits, Nat.pow 10 (e + 1))

/-- The grid neighbours of the value on the multiples of `10 ^ exponent`, the nearer first. -/
def neighbours (i : Interval) (exponent : Int) : List Nat :=
  let (unitNum, unitDen) := decimalRatio 1 exponent
  let num := i.value * unitDen
  let den := i.den * unitNum
  let below := num / den
  let rest := num % den
  if 2 * rest < den then [below, below + 1]
  else if den < 2 * rest then [below + 1, below]
  else if below % 2 = 0 then [below, below + 1] else [below + 1, below]

/-- Tries grids from `exponent` downwards; a grid with `17` digits always has a hit. -/
def searchFrom (i : Interval) : Nat → Int → Nat × Int
  | 0, exponent => ((neighbours i exponent).headD 0, exponent)
  | tries + 1, exponent =>
    match (neighbours i exponent).find? fun d =>
        let (n, e) := decimalRatio d exponent
        0 < d && i.holds n e with
    | some d => (d, exponent)
    | none => searchFrom i tries (exponent - 1)

/-- The exponent of the first digit, as far as the powers of two tell it. -/
def leadingExponent (x : Binary64) : Int :=
  let (num, den) := x.ratio
  let rec climb : Nat → Int → Int
    | 0, e => e
    | n + 1, e =>
      let (a, b) := decimalRatio 1 (e + 1)
      if a * den ≤ num * b then climb n (e + 1) else e
  let bits := floorLog2 num den
  climb 3 (bits * 30103 / 100000 - 1)

def stripZeros : Nat → Nat → Int → Nat × Int
  | 0, digits, exponent => (digits, exponent)
  | n + 1, digits, exponent =>
    if digits % 10 = 0 && digits ≠ 0 then stripZeros n (digits / 10) (exponent + 1)
    else (digits, exponent)

/-- Digits and exponent of the shortest decimal `digits * 10 ^ exponent` in an interval around a
nonzero number. -/
def shortestIn (i : Interval) (x : Binary64) : Nat × Int :=
  let (digits, exponent) := searchFrom i 17 (x.leadingExponent + 1)
  stripZeros 400 digits exponent

def shortest (x : Binary64) : Nat × Int :=
  shortestIn x.interval x

end PageExtract.Json.Binary64
