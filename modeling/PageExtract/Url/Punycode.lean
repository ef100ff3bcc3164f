/-!
Punycode: labels of any characters as labels of letters, digits and hyphens. The plain characters
come first, then for each other character, from the lowest on, how far it lies from the one before,
counted over the places where it could stand, as a number with digits of varying weight.
-/

set_option autoImplicit false

namespace PageExtract.Url.Punycode

def digitChar (d : Nat) : Char :=
  if d < 26 then Char.ofNat (0x61 + d) else Char.ofNat (0x30 + (d - 26))

def digit? (c : Char) : Option Nat :=
  if 'a' ≤ c ∧ c ≤ 'z' then some (c.toNat - 'a'.toNat)
  else if 'A' ≤ c ∧ c ≤ 'Z' then some (c.toNat - 'A'.toNat)
  else if '0' ≤ c ∧ c ≤ '9' then some (c.toNat - '0'.toNat + 26)
  else none

/-- The largest last digit at place `k`. -/
def threshold (k bias : Nat) : Nat :=
  if k ≤ bias then 1 else if bias + 26 ≤ k then 26 else k - bias

def adaptFrom : Nat → Nat → Nat → Nat
  | 0, k, delta => k + 36 * delta / (delta + 38)
  | fuel + 1, k, delta =>
    if 455 < delta then adaptFrom fuel (k + 36) (delta / 35) else k + 36 * delta / (delta + 38)

/-- The bias after a distance, with `count` characters placed. -/
def adapt (delta count : Nat) (first : Bool) : Nat :=
  let damped := if first then delta / 700 else delta / 2
  let delta := damped + damped / count
  adaptFrom delta 0 delta

def digitsFrom : Nat → Nat → Nat → Nat → List Char
  | 0, _, _, _ => []
  | fuel + 1, bias, k, q =>
    let t := threshold k bias
    if q < t then [digitChar q]
    else digitChar (t + (q - t) % (36 - t)) :: digitsFrom fuel bias (k + 36) ((q - t) / (36 - t))

def digits (bias q : Nat) : List Char :=
  digitsFrom (q + 1) bias 36 q

structure Encoder where
  written : List Char
  delta : Nat
  bias : Nat
  placed : Nat

/-- Passes one character of the label while the characters numbered `m` are placed. -/
def Encoder.pass (plain m : Nat) (e : Encoder) (c : Char) : Encoder :=
  if c.toNat < m then { e with delta := e.delta + 1 }
  else if c.toNat = m then
    ⟨e.written ++ digits e.bias e.delta, 0, adapt e.delta (e.placed + 1) (e.placed == plain),
      e.placed + 1⟩
  else e

def encodeFrom (label : List Char) (plain : Nat) : List Nat → Nat → Encoder → Encoder
  | [], _, e => e
  | m :: ms, n, e =>
    let e := { e with delta := e.delta + (m - n) * (e.placed + 1) }
    let e := label.foldl (Encoder.pass plain m) e
    encodeFrom label plain ms (m + 1) { e with delta := e.delta + 1 }

def insertDistinct (n : Nat) : List Nat → List Nat
  | [] => [n]
  | m :: ms => if n < m then n :: m :: ms else if n = m then m :: ms else m :: insertDistinct n ms

def encode (label : List Char) : List Char :=
  let plain := label.filter (·.toNat < 0x80)
  let others := (label.filter (0x80 ≤ ·.toNat)).foldr (fun c ns => insertDistinct c.toNat ns) []
  let e := encodeFrom label plain.length others 0x80 ⟨[], 0, 72, plain.length⟩
  (if plain.isEmpty then [] else plain ++ ['-']) ++ e.written

/-- A number of digits of varying weight, added to `i`, and what comes after it. -/
def distance? (bias : Nat) : List Char → Nat → Nat → Nat → Option (Nat × List Char)
  | [], _, _, _ => none
  | c :: rest, k, weight, i =>
    match digit? c with
    | none => none
    | some d =>
      let t := threshold k bias
      if d < t then some (i + d * weight, rest)
      else distance? bias rest (k + 36) (weight * (36 - t)) (i + d * weight)

def decodeFrom : Nat → List Char → Nat → Nat → Nat → List Char → Option (List Char)
  | 0, _, _, _, _, _ => none
  | _ + 1, [], _, _, _, placed => some placed
  | fuel + 1, input, n, i, bias, placed =>
    match distance? bias input 36 1 i with
    | none => none
    | some (next, rest) =>
      let count := placed.length + 1
      let m := n + next / count
      if m.isValidChar then
        let place := next % count
        decodeFrom fuel rest m (place + 1) (adapt (next - i) count (i == 0))
          (placed.take place ++ Char.ofNat m :: placed.drop place)
      else none

/-- Cuts at the last hyphen. -/
def cutPlain (s : List Char) : List Char × List Char :=
  let tail := (s.reverse.takeWhile (· ≠ '-')).reverse
  if tail.length = s.length then ([], s) else (s.take (s.length - tail.length - 1), tail)

def decode? (s : List Char) : Option (List Char) :=
  let (plain, input) := cutPlain s
  if plain.all (·.toNat < 0x80) then decodeFrom (input.length + 1) input 0x80 0 72 plain else none

end PageExtract.Url.Punycode
