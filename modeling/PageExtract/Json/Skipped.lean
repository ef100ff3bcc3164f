import PageExtract.Json.Reader

/-!
Passing over a value that nobody asked for. Its form is checked, but neither the depth of nesting
nor the code points of its strings.
-/

set_option autoImplicit false

namespace PageExtract.Json.Cursor

def skipExponent (c : Cursor) : Except Fault Cursor :=
  let c := c.advance
  let c := match c.peek? with
    | some '+' | some '-' => c.advance
    | _ => c
  match c.rest with
  | [] => .error (c.fault .invalidNumber)
  | x :: rest =>
    if isDigit x then .ok (skipDigits 0 (after c.position x) rest).2
    else .error ⟨.invalidNumber, some (afterByte c.position x)⟩

def skipFraction (c : Cursor) : Except Fault Cursor :=
  let c := c.advance
  let (count, c) := skipDigits 0 c.position c.rest
  if count = 0 then .error (c.faultAhead .invalidNumber)
  else match c.peek? with
    | some 'e' | some 'E' => skipExponent c
    | _ => .ok c

/-- A number after its sign. -/
def skipNumber (c : Cursor) : Except Fault Cursor :=
  let tail (c : Cursor) : Except Fault Cursor :=
    match c.peek? with
    | some '.' => skipFraction c
    | some 'e' | some 'E' => skipExponent c
    | _ => .ok c
  match c.rest with
  | [] => .error (c.fault .invalidNumber)
  | x :: rest =>
    if x = '0' then
      let c := c.advance
      match c.peek? with
      | some d => if isDigit d then .error (c.faultAhead .invalidNumber) else tail c
      | none => tail c
    else if isDigit x then tail (skipDigits 0 (after c.position x) rest).2
    else .error ⟨.invalidNumber, some (afterByte c.position x)⟩

/-- Characters of a string up to and with its closing quote. -/
def skipStringRest : Nat → Cursor → Except Fault Cursor
  | 0, c => .error (c.fault .endInString)
  | fuel + 1, c =>
    match c.rest with
    | [] => .error (c.fault .endInString)
    | '"' :: _ => .ok c.advance
    | '\\' :: _ =>
      let c := c.advance
      match c.rest with
      | [] => .error (c.fault .endInString)
      | 'u' :: _ =>
        match hexFour c.advance with
        | .error f => .error f
        | .ok (_, c) => skipStringRest fuel c
      | x :: _ =>
        if ['"', '\\', '/', 'b', 'f', 'n', 'r', 't'].contains x then skipStringRest fuel c.advance
        else .error ⟨.invalidEscape, some (afterByte c.position x)⟩
    | x :: _ =>
      if x.toNat < 0x20 then .error (c.fault .controlCharacter) else skipStringRest fuel c.advance

def skipString (c : Cursor) : Except Fault Cursor :=
  skipStringRest (c.rest.length + 1) c.advance

def skipKey (c : Cursor) : Except Fault Cursor :=
  let c := c.skipBlanks
  match c.peek? with
  | some '"' =>
    match skipString c with
    | .error f => .error f
    | .ok c => colon c
  | some _ => .error (c.faultAhead .keyNotString)
  | none => .error (c.faultAhead .endInObject)

mutual

def skipWith : Nat → Cursor → Except Fault Cursor
  | 0, c => .error (c.faultAhead .expectedValue)
  | fuel + 1, c =>
    let c := c.skipBlanks
    match c.peek? with
    | none => .error (c.faultAhead .endInValue)
    | some 'n' => word c.advance ['u', 'l', 'l']
    | some 't' => word c.advance ['r', 'u', 'e']
    | some 'f' => word c.advance ['a', 'l', 's', 'e']
    | some '-' => skipNumber c.advance
    | some '"' => skipString c
    | some '[' =>
      let inside := c.advance.skipBlanks
      if inside.peek? = some ']' then .ok inside.advance
      else match inside.peek? with
        | none => .error (inside.faultAhead .endInList)
        | some _ =>
          match skipWith fuel inside with
          | .error f => .error f
          | .ok c => skipItems fuel c
    | some '\x7b' =>
      let inside := c.advance.skipBlanks
      if inside.peek? = some '\x7d' then .ok inside.advance
      else match inside.peek? with
        | none => .error (inside.faultAhead .endInObject)
        | some _ =>
          match skipKey inside with
          | .error f => .error f
          | .ok c =>
            match skipWith fuel c with
            | .error f => .error f
            | .ok c => skipMembers fuel c
    | some x => if isDigit x then skipNumber c else .error (c.faultAhead .expectedValue)

/-- After an element of an array. -/
def skipItems : Nat → Cursor → Except Fault Cursor
  | 0, c => .error (c.faultAhead .endInList)
  | fuel + 1, c =>
    let c := c.skipBlanks
    match c.peek? with
    | none => .error (c.faultAhead .endInList)
    | some ']' => .ok c.advance
    | some ',' =>
      match skipWith fuel c.advance with
      | .error f => .error f
      | .ok c => skipItems fuel c
    | some _ => .error (c.faultAhead .expectedListComma)

/-- After a member of an object. -/
def skipMembers : Nat → Cursor → Except Fault Cursor
  | 0, c => .error (c.faultAhead .endInObject)
  | fuel + 1, c =>
    let c := c.skipBlanks
    match c.peek? with
    | none => .error (c.faultAhead .endInObject)
    | some '\x7d' => .ok c.advance
    | some ',' =>
      match skipKey c.advance with
      | .error f => .error f
      | .ok c =>
        match skipWith fuel c with
        | .error f => .error f
        | .ok c => skipMembers fuel c
    | some _ => .error (c.faultAhead .expectedObjectComma)

end

/-- Passes one value. -/
def skip (c : Cursor) : Except Fault Cursor :=
  skipWith (2 * c.rest.length + 2) c

end PageExtract.Json.Cursor
