import PageExtract.Text.Ranges
import PageExtract.Text.Split

/-!
Numeric hosts: addresses of 32 bits, up to four numbers in base 8, 10 or 16 of which the last fills
the remaining bytes, and addresses of 128 bits, eight groups of which one run of zeros may be left
out.
-/

set_option autoImplicit false

namespace PageExtract.Url

def digitsValue (base : Nat) (s : List Char) : Nat :=
  s.foldl (fun n c => n * base + (Text.Ranges.hexDigit? c).getD 0) 0

def isBaseDigit (base : Nat) (c : Char) : Bool :=
  match Text.Ranges.hexDigit? c with
  | some d => d < base
  | none => false

/-- One number of an address: base 16 after `0x`, base 8 after `0`, else base 10. -/
def addressNumber? (part : List Char) : Option Nat :=
  match part with
  | [] => none
  | '0' :: 'x' :: digits => numeral 16 digits
  | '0' :: 'X' :: digits => numeral 16 digits
  | '0' :: d :: digits => numeral 8 (d :: digits)
  | digits => numeral 10 digits
where
  numeral (base : Nat) (digits : List Char) : Option Nat :=
    if digits.all (isBaseDigit base) then some (digitsValue base digits) else none

/-- The parts of a host, without an empty last one. -/
def addressParts (host : List Char) : List (List Char) :=
  let parts := Text.splitAt '.' host
  if 1 < parts.length ∧ parts.getLast? = some [] then parts.dropLast else parts

/-- A host is read as an address if its last part is a number. -/
def endsInNumber (host : List Char) : Bool :=
  match (addressParts host).getLast? with
  | none => false
  | some [] => false
  | some part => part.all Char.isDigit || (addressNumber? part).isSome

def addressNumbers? : List (List Char) → Option (List Nat)
  | [] => some []
  | part :: parts =>
    match addressNumber? part, addressNumbers? parts with
    | some n, some ns => some (n :: ns)
    | _, _ => none

/-- The address of 32 bits that a host ending in a number stands for. -/
def address32? (host : List Char) : Option Nat :=
  let parts := addressParts host
  if 4 < parts.length then none
  else match addressNumbers? parts with
    | none => none
    | some numbers =>
      match numbers.getLast? with
      | none => none
      | some last =>
        let leading := numbers.dropLast
        if Nat.pow 256 (4 - leading.length) ≤ last ∨ leading.any (255 < ·) then none
        else some (leading.foldr (fun n (acc : Nat × Nat) => (acc.1 * 256, acc.2 + n * acc.1))
          (Nat.pow 256 (4 - leading.length), last)).2

def address32Text (n : Nat) : List Char :=
  List.intercalate ['.'] ([n / Nat.pow 2 24, n / Nat.pow 2 16 % 256, n / Nat.pow 2 8 % 256, n % 256].map
    (Nat.toDigits 10))

/-- One to three digits without a leading zero, below 256. -/
def byte? (digits : List Char) : Option Nat :=
  match digits with
  | [] => none
  | '0' :: _ :: _ => none
  | _ =>
    if digits.all Char.isDigit ∧ digitsValue 10 digits < 256 then some (digitsValue 10 digits) else none

/-- The two groups that four numbers at the end of an address of 128 bits stand for. -/
def embeddedGroups? (s : List Char) : Option (List Nat) :=
  match (Text.splitAt '.' s).map byte? with
  | [some a, some b, some c, some d] => some [a * 256 + b, c * 256 + d]
  | _ => none

/-- Groups read so far, and how many of them came before the gap, if there was one. -/
structure Groups where
  read : List Nat
  gap : Option Nat

/-- Reads groups at the start of a group; at most eight are read. -/
def groups? : Nat → List Char → Groups → Option Groups
  | _, [], g => some g
  | 0, _, _ => none
  | fuel + 1, ':' :: rest, g =>
    if g.gap.isSome ∨ g.read.length ≥ 8 then none
    else groups? fuel rest { g with gap := some g.read.length }
  | fuel + 1, s, g =>
    if g.read.length + (if g.gap.isSome then 1 else 0) ≥ 8 then none
    else
      let digits := (s.take 4).takeWhile (isBaseDigit 16)
      match s.drop digits.length with
      | [] => some { g with read := g.read ++ [digitsValue 16 digits] }
      | '.' :: _ =>
        if digits.isEmpty ∨ g.read.length + (if g.gap.isSome then 1 else 0) > 6 then none
        else (embeddedGroups? s).map fun pair => { g with read := g.read ++ pair }
      | ':' :: rest =>
        if rest.isEmpty then none
        else groups? fuel rest { g with read := g.read ++ [digitsValue 16 digits] }
      | _ => none

/-- The eight groups of an address of 128 bits. -/
def address128? (s : List Char) : Option (List Nat) :=
  let start := match s with
    | ':' :: ':' :: rest => groups? (s.length + 1) rest ⟨[], some 0⟩
    | ':' :: _ => none
    | [] | [_] => none
    | _ => groups? (s.length + 1) s ⟨[], none⟩
  match start with
  | none => none
  | some ⟨groups, none⟩ => if groups.length = 8 then some groups else none
  | some ⟨groups, some gap⟩ =>
    some (groups.take gap ++ List.replicate (8 - groups.length) 0 ++ groups.drop gap)

/-- The first longest run of zero groups, where it starts and how long it is. -/
def longestZeros (groups : List Nat) : Nat × Nat :=
  (List.range groups.length).foldl (fun best start =>
    let length := ((groups.drop start).takeWhile (· == 0)).length
    if best.2 < length then (start, length) else best) (0, 0)

/-- Groups in lower case with the first longest run of two or more zero groups left out. -/
def address128Text (groups : List Nat) : List Char :=
  let shown := fun gs : List Nat => List.intercalate [':'] (gs.map (Nat.toDigits 16))
  let (start, length) := longestZeros groups
  if length < 2 then shown groups
  else shown (groups.take start) ++ [':', ':'] ++ shown (groups.drop (start + length))

end PageExtract.Url
