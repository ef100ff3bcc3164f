import PageExtract.Json.Scalar

/-!
Reading a whole JSON value. Arrays and objects may be nested `depthLimit - 1` deep. Of members with
one key the last value counts, at the place of the first.
-/

set_option autoImplicit false

namespace PageExtract.Json

def depthLimit : Nat := 128

namespace Cursor

/-- At an array or after an element: true if an element follows. `first` before any element. -/
def elementAhead (c : Cursor) (first : Bool) : Except Fault (Bool × Cursor) :=
  let c := c.skipBlanks
  match c.peek? with
  | none => .error (c.faultAhead .endInList)
  | some ']' => .ok (false, c)
  | some ',' =>
    if first then .ok (true, c)
    else
      let c := c.advance.skipBlanks
      match c.peek? with
      | some ']' => .error (c.faultAhead .trailingComma)
      | some _ => .ok (true, c)
      | none => .error (c.faultAhead .endInValue)
  | some _ => if first then .ok (true, c) else .error (c.faultAhead .expectedListComma)

/-- In an object: the next key, or `none` before the closing brace. -/
def keyAhead (c : Cursor) (first : Bool) : Except Fault (Option String × Cursor) :=
  let c := c.skipBlanks
  let key (c : Cursor) : Except Fault (Option String × Cursor) :=
    match string c with
    | .ok (k, c) => .ok (some k, c)
    | .error f => .error f
  match c.peek? with
  | none => .error (c.faultAhead .endInObject)
  | some '\x7d' => .ok (none, c)
  | some ',' =>
    if first then .error (c.faultAhead .keyNotString)
    else
      let c := c.advance.skipBlanks
      match c.peek? with
      | some '"' => key c
      | some '\x7d' => .error (c.faultAhead .trailingComma)
      | some _ => .error (c.faultAhead .keyNotString)
      | none => .error (c.faultAhead .endInValue)
  | some x =>
    if first then
      if x = '"' then key c else .error (c.faultAhead .keyNotString)
    else .error (c.faultAhead .expectedObjectComma)

def colon (c : Cursor) : Except Fault Cursor :=
  let c := c.skipBlanks
  match c.peek? with
  | some ':' => .ok c.advance
  | some _ => .error (c.faultAhead .expectedColon)
  | none => .error (c.faultAhead .endInObject)

/-- The end of an array; the cursor also tells how far a failed attempt got. -/
def closeList (c : Cursor) : Option Fault × Cursor :=
  let c := c.skipBlanks
  match c.peek? with
  | some ']' => (none, c.advance)
  | some ',' =>
    let c := c.advance.skipBlanks
    if c.peek? = some ']' then (some (c.faultAhead .trailingComma), c)
    else (some (c.faultAhead .trailingCharacters), c)
  | some _ => (some (c.faultAhead .trailingCharacters), c)
  | none => (some (c.faultAhead .endInList), c)

def closeObject (c : Cursor) : Option Fault × Cursor :=
  let c := c.skipBlanks
  match c.peek? with
  | some '\x7d' => (none, c.advance)
  | some ',' => (some (c.faultAhead .trailingComma), c)
  | some _ => (some (c.faultAhead .trailingCharacters), c)
  | none => (some (c.faultAhead .endInObject), c)

/-- A null, a boolean, a number or a string, by its first character. -/
def scalar? (c : Cursor) : Option (Except Fault (Value × Cursor)) :=
  match c.peek? with
  | some 'n' => some ((word c.advance ['u', 'l', 'l']).map fun c => (.null, c))
  | some 't' => some ((word c.advance ['r', 'u', 'e']).map fun c => (.bool true, c))
  | some 'f' => some ((word c.advance ['a', 'l', 's', 'e']).map fun c => (.bool false, c))
  | some '-' => some ((number false c.advance).map fun (n, c) => (.number n, c))
  | some '"' => some ((string c).map fun (s, c) => (.string s, c))
  | some x =>
    if isDigit x then some ((number true c).map fun (n, c) => (.number n, c)) else none
  | none => none

mutual

def valueWith : Nat → Nat → Cursor → Except Fault (Value × Cursor)
  | 0, _, c => .error (c.faultAhead .expectedValue)
  | fuel + 1, depth, c =>
    let c := c.skipBlanks
    match c.peek? with
    | none => .error (c.faultAhead .endInValue)
    | some '[' =>
      if depth ≤ 1 then .error (c.faultAhead .tooDeep)
      else match itemsWith fuel (depth - 1) true [] c.advance with
        | .error f => .error f
        | .ok (items, c) =>
          match closeList c with
          | (none, c) => .ok (.array items, c)
          | (some f, _) => .error f
    | some '\x7b' =>
      if depth ≤ 1 then .error (c.faultAhead .tooDeep)
      else match membersWith fuel (depth - 1) true [] c.advance with
        | .error f => .error f
        | .ok (members, c) =>
          match closeObject c with
          | (none, c) => .ok (.object (Entries.ofList members), c)
          | (some f, _) => .error f
    | some _ =>
      match scalar? c with
      | some r => r
      | none => .error (c.faultAhead .expectedValue)

def itemsWith : Nat → Nat → Bool → List Value → Cursor → Except Fault (List Value × Cursor)
  | 0, _, _, _, c => .error (c.faultAhead .endInList)
  | fuel + 1, depth, first, acc, c =>
    match elementAhead c first with
    | .error f => .error f
    | .ok (false, c) => .ok (acc.reverse, c)
    | .ok (true, c) =>
      match valueWith fuel depth c with
      | .error f => .error f
      | .ok (v, c) => itemsWith fuel depth false (v :: acc) c

def membersWith : Nat → Nat → Bool → List (String × Value) → Cursor →
    Except Fault (List (String × Value) × Cursor)
  | 0, _, _, _, c => .error (c.faultAhead .endInObject)
  | fuel + 1, depth, first, acc, c =>
    match keyAhead c first with
    | .error f => .error f
    | .ok (none, c) => .ok (acc.reverse, c)
    | .ok (some k, c) =>
      match colon c with
      | .error f => .error f
      | .ok c =>
        match valueWith fuel depth c with
        | .error f => .error f
        | .ok (v, c) => membersWith fuel depth false ((k, v) :: acc) c

end

/-- Any value, with `depth` levels of nesting left. -/
def value (depth : Nat) : Reader Value := fun c =>
  valueWith (2 * c.rest.length + 2) depth c

/-- Only blanks are left. -/
def finished (c : Cursor) : Except Fault Unit :=
  let c := c.skipBlanks
  match c.peek? with
  | none => .ok ()
  | some _ => .error (c.faultAhead .trailingCharacters)

end Cursor

/-- The value that a text holds. -/
def Value.read (s : String) : Except Fault Value :=
  match Cursor.value depthLimit (.start s) with
  | .error f => .error f
  | .ok (v, c) =>
    match c.finished with
    | .error f => .error f
    | .ok () => .ok v

end PageExtract.Json
