/-!
UTF-8: the bytes of a character, and the characters that a sequence of bytes stands for. Bytes that
spell a surrogate, a number beyond the last character, or a character at more than its least length
stand for nothing.
-/

set_option autoImplicit false

namespace PageExtract.Text

def utf8Bytes (c : Char) : List UInt8 :=
  let n := c.toNat
  if n < 0x80 then [n.toUInt8]
  else if n < 0x800 then [(0xC0 + n / 0x40).toUInt8, (0x80 + n % 0x40).toUInt8]
  else if n < 0x10000 then
    [(0xE0 + n / 0x1000).toUInt8, (0x80 + n / 0x40 % 0x40).toUInt8, (0x80 + n % 0x40).toUInt8]
  else
    [(0xF0 + n / 0x40000).toUInt8, (0x80 + n / 0x1000 % 0x40).toUInt8,
      (0x80 + n / 0x40 % 0x40).toUInt8, (0x80 + n % 0x40).toUInt8]

/-- The six bits of a continuation byte. -/
def continuation? (b : UInt8) : Option Nat :=
  if 0x80 ≤ b.toNat ∧ b.toNat < 0xC0 then some (b.toNat - 0x80) else none

/-- A character that needs at least the number `least`. -/
def scalar? (least n : Nat) : Option Char :=
  if least ≤ n ∧ n.isValidChar then some (Char.ofNat n) else none

def ofUtf8? : List UInt8 → Option (List Char)
  | [] => some []
  | a :: rest =>
    let n := a.toNat
    if n < 0x80 then (ofUtf8? rest).map (Char.ofNat n :: ·)
    else if n < 0xC0 then none
    else match rest with
      | [] => none
      | b :: rest =>
        match continuation? b with
        | none => none
        | some y =>
          if n < 0xE0 then
            match scalar? 0x80 ((n - 0xC0) * 0x40 + y) with
            | none => none
            | some c => (ofUtf8? rest).map (c :: ·)
          else match rest with
            | [] => none
            | b :: rest =>
              match continuation? b with
              | none => none
              | some z =>
                if n < 0xF0 then
                  match scalar? 0x800 (((n - 0xE0) * 0x40 + y) * 0x40 + z) with
                  | none => none
                  | some c => (ofUtf8? rest).map (c :: ·)
                else match rest with
                  | [] => none
                  | b :: rest =>
                    match continuation? b with
                    | none => none
                    | some w =>
                      match scalar? 0x10000 ((((n - 0xF0) * 0x40 + y) * 0x40 + z) * 0x40 + w) with
                      | none => none
                      | some c => (ofUtf8? rest).map (c :: ·)

end PageExtract.Text
