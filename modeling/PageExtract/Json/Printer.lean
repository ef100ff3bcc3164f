import PageExtract.Json.Value

/-!
The compact text of a JSON value: no blanks, members in order, control characters escaped and all
other characters as they are.
-/

set_option autoImplicit false

namespace PageExtract.Json

def escapedChar (c : Char) : List Char :=
  match c with
  | '"' => ['\\', '"']
  | '\\' => ['\\', '\\']
  | '\n' => ['\\', 'n']
  | '\r' => ['\\', 'r']
  | '\t' => ['\\', 't']
  | '\x08' => ['\\', 'b']
  | '\x0c' => ['\\', 'f']
  | c =>
    if c.toNat < 0x20 then
      ['\\', 'u', '0', '0', Nat.digitChar (c.toNat / 16), Nat.digitChar (c.toNat % 16)]
    else [c]

def stringChars (s : String) : List Char :=
  '"' :: s.toList.flatMap escapedChar ++ ['"']

namespace Value

mutual

def chars : Value → List Char
  | .null => ['n', 'u', 'l', 'l']
  | .bool true => ['t', 'r', 'u', 'e']
  | .bool false => ['f', 'a', 'l', 's', 'e']
  | .number n => n.chars
  | .string s => stringChars s
  | .array [] => ['[', ']']
  | .array (x :: xs) => '[' :: chars x ++ itemsChars xs
  | .object [] => ['\x7b', '\x7d']
  | .object ((k, v) :: rest) => '\x7b' :: stringChars k ++ ':' :: chars v ++ membersChars rest
  termination_by structural v => v

def itemsChars : List Value → List Char
  | [] => [']']
  | x :: xs => ',' :: chars x ++ itemsChars xs
  termination_by structural xs => xs

def membersChars : List (String × Value) → List Char
  | [] => ['\x7d']
  | (k, v) :: rest => ',' :: stringChars k ++ ':' :: chars v ++ membersChars rest
  termination_by structural ms => ms

end

def text (v : Value) : String :=
  String.ofList v.chars

end Value

end PageExtract.Json
