import PageExtract.Html.Entity

/-!
Character references: an ampersand with a name or a number. What isn't a reference stays as it is.
-/

set_option autoImplicit false

namespace PageExtract.Html

/-- What numbers of the C1 controls stand for. -/
def c1Replacement (n : Nat) : Nat :=
  match n with
  | 0x80 => 0x20AC | 0x82 => 0x201A | 0x83 => 0x0192 | 0x84 => 0x201E | 0x85 => 0x2026
  | 0x86 => 0x2020 | 0x87 => 0x2021 | 0x88 => 0x02C6 | 0x89 => 0x2030 | 0x8A => 0x0160
  | 0x8B => 0x2039 | 0x8C => 0x0152 | 0x8E => 0x017D | 0x91 => 0x2018 | 0x92 => 0x2019
  | 0x93 => 0x201C | 0x94 => 0x201D | 0x95 => 0x2022 | 0x96 => 0x2013 | 0x97 => 0x2014
  | 0x98 => 0x02DC | 0x99 => 0x2122 | 0x9A => 0x0161 | 0x9B => 0x203A | 0x9C => 0x0153
  | 0x9E => 0x017E | 0x9F => 0x0178
  | n => n

def numbered (n : Nat) : Char :=
  if n = 0 ∨ (0xD800 ≤ n ∧ n ≤ 0xDFFF) ∨ 0x10FFFF < n then '\uFFFD'
  else Char.ofNat (c1Replacement n)

def isHexDigit (c : Char) : Bool :=
  c.isDigit || ('a' ≤ c && c ≤ 'f') || ('A' ≤ c && c ≤ 'F')

def digitsValue (base : Nat) (cs : List Char) : Nat :=
  cs.foldl (fun acc c =>
    let d :=
      if c.isDigit then c.toNat - '0'.toNat
      else if 'a' ≤ c then c.toNat - 'a'.toNat + 10
      else c.toNat - 'A'.toNat + 10
    -- Numbers too large to be a code point needn't grow any further.
    min (acc * base + d) 0x110000) 0

def dropSemicolon : List Char → List Char
  | ';' :: rest => rest
  | rest => rest

/-- The reference after an ampersand, with what follows it. In an attribute a name without its
semicolon is no reference in front of a letter, a digit or an equals sign. -/
def reference? (inAttribute : Bool) (s : List Char) : Option (List Char × List Char) :=
  match s with
  | '#' :: 'x' :: rest | '#' :: 'X' :: rest =>
    let (digits, rest) := rest.span isHexDigit
    if digits.isEmpty then none else some ([numbered (digitsValue 16 digits)], dropSemicolon rest)
  | '#' :: rest =>
    let (digits, rest) := rest.span Char.isDigit
    if digits.isEmpty then none else some ([numbered (digitsValue 10 digits)], dropSemicolon rest)
  | c :: _ =>
    if !c.isAlphanum then none
    else match longestEntity? s with
      | none => none
      | some (name, cs) =>
        let rest := s.drop name.length
        if inAttribute && name.getLast? != some ';' &&
            (match rest with
              | [] => false
              | d :: _ => d == '=' || d.isAlphanum) then none
        else some (cs, rest)
  | [] => none

/-- Replaces references in text, up to the first character for which `stop` holds. -/
def decodeUntil (inAttribute : Bool) (stop : Char → Bool) :
    Nat → List Char → List Char → List Char × List Char
  | 0, acc, rest => (acc.reverse, rest)
  | _, acc, [] => (acc.reverse, [])
  | fuel + 1, acc, c :: rest =>
    if stop c then (acc.reverse, c :: rest)
    else if c = '&' then
      match reference? inAttribute rest with
      | some (cs, rest) => decodeUntil inAttribute stop fuel (cs.reverse ++ acc) rest
      | none => decodeUntil inAttribute stop fuel ('&' :: acc) rest
    else decodeUntil inAttribute stop fuel (c :: acc) rest

end PageExtract.Html
