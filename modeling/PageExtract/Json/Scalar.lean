import PageExtract.Json.Cursor

/-!
Readers of words, numbers and strings.
-/

set_option autoImplicit false

namespace PageExtract.Json.Cursor

/-- The characters of a word, one after the other. -/
def word (c : Cursor) : List Char → Except Fault Cursor
  | [] => .ok c
  | w :: ws =>
    match c.rest with
    | [] => .error (c.fault .endInValue)
    | x :: rest =>
      if x = w then word ⟨rest, after c.position x⟩ ws
      else .error ⟨.expectedWord, some (afterByte c.position x)⟩

def isDigit (c : Char) : Bool := '0' ≤ c && c ≤ '9'

def digitValue (c : Char) : Nat := c.toNat - '0'.toNat

/-- Digits that are read into `acc` as long as it keeps within 64 bits, with their count. -/
def digitsWithin (acc count : Nat) (p : Position) : List Char → Nat × Nat × Cursor
  | [] => (acc, count, ⟨[], p⟩)
  | x :: rest =>
    if isDigit x ∧ acc * 10 + digitValue x < Nat.pow 2 64 then
      digitsWithin (acc * 10 + digitValue x) (count + 1) (after p x) rest
    else (acc, count, ⟨x :: rest, p⟩)

/-- Passes all digits, with their count. -/
def skipDigits (count : Nat) (p : Position) : List Char → Nat × Cursor
  | [] => (count, ⟨[], p⟩)
  | x :: rest => if isDigit x then skipDigits (count + 1) (after p x) rest else (count, ⟨x :: rest, p⟩)

/-- `significand * 10 ^ exponent`, rounded in steps: the significand first, then each product. -/
def scaled : Nat → Binary64 → Int → Option Binary64
  | 0, x, _ => some x
  | steps + 1, x, exponent =>
    if exponent.natAbs ≤ 308 then
      if 0 ≤ exponent then x.timesPow10 exponent.natAbs else x.overPow10 exponent.natAbs
    else if x.isZero then some x
    else if 0 ≤ exponent then none
    else match x.overPow10 308 with
      | none => none
      | some y => scaled steps y (exponent + 308)

def realOf (c : Cursor) (positive : Bool) (significand : Nat) (exponent : Int) :
    Except Fault (Number × Cursor) :=
  match (Binary64.ofNat? significand).bind fun x => scaled 5 x exponent with
  | none => .error (c.fault .numberOutOfRange)
  | some x => .ok (.real (if positive then x else x.neg), c)

/-- Exponent digits read while they keep within 31 bits. -/
def exponentDigits (acc : Nat) (p : Position) : List Char → Option Nat × Cursor
  | [] => (some acc, ⟨[], p⟩)
  | x :: rest =>
    if isDigit x then
      if acc * 10 + digitValue x < Nat.pow 2 31 then
        exponentDigits (acc * 10 + digitValue x) (after p x) rest
      else (none, ⟨rest, after p x⟩)
    else (some acc, ⟨x :: rest, p⟩)

/-- The exponent part, at its letter. -/
def exponentPart (c : Cursor) (positive : Bool) (significand : Nat) (start : Int) :
    Except Fault (Number × Cursor) :=
  let c := c.advance
  let (up, c) := match c.peek? with
    | some '+' => (true, c.advance)
    | some '-' => (false, c.advance)
    | _ => (true, c)
  match c.rest with
  | [] => .error (c.fault .endInValue)
  | x :: rest =>
    if isDigit x then
      match exponentDigits (digitValue x) (after c.position x) rest with
      | (some e, c) => realOf c positive significand (if up then start + e else start - e)
      | (none, c) =>
        if significand ≠ 0 ∧ up then .error (c.fault .numberOutOfRange)
        else
          let (_, c) := skipDigits 0 c.position c.rest
          .ok (.real (if positive then .zero else Binary64.zero.neg), c)
    else .error ⟨.invalidNumber, some (afterByte c.position x)⟩

/-- After the digits of a number: an exponent part, or the end. -/
def realEnd (c : Cursor) (positive : Bool) (significand : Nat) (exponent : Int) :
    Except Fault (Number × Cursor) :=
  match c.peek? with
  | some 'e' | some 'E' => exponentPart c positive significand exponent
  | _ => realOf c positive significand exponent

/-- The part after the point, at the point. -/
def fractionPart (c : Cursor) (positive : Bool) (significand : Nat) (start : Int) :
    Except Fault (Number × Cursor) :=
  let c := c.advance
  let (significand, count, c) := digitsWithin significand 0 c.position c.rest
  match c.rest with
  | x :: _ =>
    if isDigit x then
      let (_, c) := skipDigits 0 c.position c.rest
      realEnd c positive significand (start - count)
    else if count = 0 then .error (c.faultAhead .invalidNumber)
    else realEnd c positive significand (start - count)
  | [] =>
    if count = 0 then .error (c.fault .endInValue) else realEnd c positive significand (start - count)

/-- After the whole part of a number that has kept within 64 bits. -/
def numberEnd (c : Cursor) (positive : Bool) (significand : Nat) :
    Except Fault (Number × Cursor) :=
  match c.peek? with
  | some '.' => fractionPart c positive significand 0
  | some 'e' | some 'E' => exponentPart c positive significand 0
  | _ =>
    if positive then .ok (.whole significand, c)
    else if significand = 0 ∨ Nat.pow 2 63 < significand then realOf c false significand 0
    else .ok (.whole (-significand), c)

/-- A number after its sign. -/
def number (positive : Bool) : Reader Number := fun c =>
  match c.rest with
  | [] => .error (c.fault .endInValue)
  | x :: rest =>
    let next : Cursor := ⟨rest, afterByte c.position x⟩
    if x = '0' then
      match next.peek? with
      | some d =>
        if isDigit d then .error (next.faultAhead .invalidNumber) else numberEnd next positive 0
      | none => numberEnd next positive 0
    else if isDigit x then
      let (significand, _, c) := digitsWithin (digitValue x) 0 next.position next.rest
      match c.peek? with
      | some d =>
        if isDigit d then
          let (dropped, c) := skipDigits 0 c.position c.rest
          match c.peek? with
          | some '.' => fractionPart c positive significand dropped
          | _ => realEnd c positive significand dropped
        else numberEnd c positive significand
      | none => numberEnd c positive significand
    else .error (next.fault .invalidNumber)

def hexValue? (c : Char) : Option Nat :=
  if '0' ≤ c ∧ c ≤ '9' then some (c.toNat - '0'.toNat)
  else if 'a' ≤ c ∧ c ≤ 'f' then some (c.toNat - 'a'.toNat + 10)
  else if 'A' ≤ c ∧ c ≤ 'F' then some (c.toNat - 'A'.toNat + 10)
  else none

/-- Four hexadecimal digits. -/
def hexFour (c : Cursor) : Except Fault (Nat × Cursor) :=
  if (c.rest.take 4).foldl (fun n x => n + x.utf8Size) 0 < 4 then
    .error (c.finish.fault .endInString)
  else
    let bad := .error ⟨.invalidEscape, some (afterBytes c.position 4 c.rest)⟩
    match c.rest with
    | w :: x :: y :: z :: rest =>
      match hexValue? w, hexValue? x, hexValue? y, hexValue? z with
      | some a, some b, some d, some e =>
        .ok (((a * 16 + b) * 16 + d) * 16 + e,
          ⟨rest, ⟨c.position.line, c.position.column + 4⟩⟩)
      | _, _, _, _ => bad
    | _ => bad

/-- The second half of a surrogate pair, after the first. -/
def secondSurrogate (c : Cursor) (first : Nat) : Except Fault (Char × Cursor) :=
  match c.rest with
  | [] => .error (c.fault .endInString)
  | '\\' :: _ =>
    let c := c.advance
    match c.rest with
    | [] => .error (c.fault .endInString)
    | 'u' :: _ =>
      match hexFour c.advance with
      | .error f => .error f
      | .ok (second, c) =>
        if 0xDC00 ≤ second ∧ second ≤ 0xDFFF then
          .ok (Char.ofNat ((first - 0xD800) * 0x400 + (second - 0xDC00) + 0x10000), c)
        else .error (c.fault .loneSurrogate)
    | x :: _ => .error ⟨.unfinishedSurrogate, some (afterByte c.position x)⟩
  | x :: _ => .error ⟨.unfinishedSurrogate, some (afterByte c.position x)⟩

/-- An escape, after its backslash. -/
def escape (c : Cursor) : Except Fault (Char × Cursor) :=
  match c.rest with
  | [] => .error (c.fault .endInString)
  | x :: _ =>
    let next := c.advance
    match x with
    | '"' => .ok ('"', next)
    | '\\' => .ok ('\\', next)
    | '/' => .ok ('/', next)
    | 'b' => .ok ('\x08', next)
    | 'f' => .ok ('\x0c', next)
    | 'n' => .ok ('\n', next)
    | 'r' => .ok ('\r', next)
    | 't' => .ok ('\t', next)
    | 'u' =>
      match hexFour next with
      | .error f => .error f
      | .ok (n, c) =>
        if 0xDC00 ≤ n ∧ n ≤ 0xDFFF then .error (c.fault .loneSurrogate)
        else if 0xD800 ≤ n ∧ n ≤ 0xDBFF then secondSurrogate c n
        else .ok (Char.ofNat n, c)
    | x => .error ⟨.invalidEscape, some (afterByte c.position x)⟩

/-- Characters of a string up to its closing quote, `acc` holds those read in reverse. -/
def stringRest : Nat → List Char → Cursor → Except Fault (String × Cursor)
  | 0, _, c => .error (c.fault .endInString)
  | fuel + 1, acc, c =>
    match c.rest with
    | [] => .error (c.fault .endInString)
    | '"' :: _ => .ok (String.ofList acc.reverse, c.advance)
    | '\\' :: _ =>
      match escape c.advance with
      | .error f => .error f
      | .ok (x, c) => stringRest fuel (x :: acc) c
    | x :: _ =>
      if x.toNat < 0x20 then .error (c.advance.fault .controlCharacter)
      else stringRest fuel (x :: acc) c.advance

/-- A string, at its opening quote. -/
def string : Reader String := fun c =>
  stringRest (c.rest.length + 1) [] c.advance

end PageExtract.Json.Cursor
