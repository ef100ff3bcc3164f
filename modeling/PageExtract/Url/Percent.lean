import PageExtract.Text.Ranges
import PageExtract.Text.Utf8

/-!
Percent encoding. Every part of a URL has its own set of characters that are written as `%` and the
two hexadecimal digits of each of their bytes; characters beyond ASCII always are.
-/

set_option autoImplicit false

namespace PageExtract.Url

/-- Controls, DEL and everything beyond ASCII. -/
def isControl (c : Char) : Bool :=
  c.toNat < 0x20 || 0x7F ≤ c.toNat

def inFragmentSet (c : Char) : Bool :=
  isControl c || c == ' ' || c == '"' || c == '<' || c == '>' || c == '\x60'

def inPathSet (c : Char) : Bool :=
  inFragmentSet c || c == '#' || c == '?' || c == '\x7b' || c == '\x7d'

def inUserinfoSet (c : Char) : Bool :=
  inPathSet c || c == '/' || c == ':' || c == ';' || c == '=' || c == '@' || c == '[' ||
  c == '\\' || c == ']' || c == '^' || c == '|'

def inQuerySet (c : Char) : Bool :=
  isControl c || c == ' ' || c == '"' || c == '#' || c == '<' || c == '>'

def inSpecialQuerySet (c : Char) : Bool :=
  inQuerySet c || c == '\''

def upperHexDigit (n : Nat) : Char :=
  if n < 10 then Char.ofNat (0x30 + n) else Char.ofNat (0x41 + (n - 10))

def encodedByte (b : UInt8) : List Char :=
  ['%', upperHexDigit (b.toNat / 16), upperHexDigit (b.toNat % 16)]

def encode (inSet : Char → Bool) (s : List Char) : List Char :=
  s.flatMap fun c => if inSet c then (Text.utf8Bytes c).flatMap encodedByte else [c]

/-- The bytes of a text in which `%` and two hexadecimal digits stand for a byte. -/
def decodedBytes : List Char → List UInt8
  | [] => []
  | '%' :: a :: b :: tail =>
    match Text.Ranges.hexDigit? a, Text.Ranges.hexDigit? b with
    | some x, some y => (x * 16 + y).toUInt8 :: decodedBytes tail
    | _, _ => 0x25 :: decodedBytes (a :: b :: tail)
  | c :: rest => Text.utf8Bytes c ++ decodedBytes rest

end PageExtract.Url
