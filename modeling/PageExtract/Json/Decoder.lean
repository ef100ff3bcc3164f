import PageExtract.Json.Skipped

/-!
Decoders turn JSON into typed options, either while a text is read, so that a fault has its place,
or from a value. Records are read from objects by name and from arrays by order; what is missing
keeps its default and unknown names are passed over.
-/

set_option autoImplicit false

namespace PageExtract.Json

/-- How to read an `α` from a text, with some levels of nesting left, and from a value. -/
structure Decoder (α : Type) where
  read : Nat → Reader α
  convert : Value → Except Problem α

/-- The fault of a value that isn't of the expected kind. -/
def Cursor.mismatch (c : Cursor) (expected : String) : Fault :=
  match c.peek? with
  | some '[' => c.fault (.wrongKind .sequence expected)
  | some '\x7b' => c.fault (.wrongKind .map expected)
  | _ =>
    match scalar? c with
    | some (.ok (v, c)) => c.fault (.wrongKind (.ofValue v) expected)
    | some (.error f) => f
    | none => c.faultAhead .expectedValue

namespace Decoder

variable {α β σ : Type}

def map (f : α → β) (d : Decoder α) : Decoder β where
  read depth c :=
    match d.read depth c with
    | .ok (a, c) => .ok (f a, c)
    | .error e => .error e
  convert v := (d.convert v).map f

/-- What every reader does first: pass blanks and refuse the end of the text. -/
def atValue (read : Cursor → Except Fault (α × Cursor)) : Reader α := fun c =>
  let c := c.skipBlanks
  match c.peek? with
  | none => .error (c.faultAhead .endInValue)
  | some _ => read c

def flag : Decoder Bool where
  read _ := atValue fun c =>
    match c.peek? with
    | some 't' | some 'f' =>
      match c.scalar? with
      | some (.ok (.bool b, c)) => .ok (b, c)
      | some (.error f) => .error f
      | _ => .error (c.mismatch "a boolean")
    | _ => .error (c.mismatch "a boolean")
  convert
    | .bool b => .ok b
    | v => .error (.wrongKind (.ofValue v) "a boolean")

def text : Decoder String where
  read _ := atValue fun c =>
    if c.peek? = some '"' then c.string else .error (c.mismatch "a string")
  convert
    | .string s => .ok s
    | v => .error (.wrongKind (.ofValue v) "a string")

/-- A whole number that isn't negative, or the problem with it. -/
def countOf (expected : String) : Number → Except Problem Nat
  | .whole n =>
    if n < 0 then .error (.wrongNumber (.whole n) expected) else .ok n.toNat
  | .real x => .error (.wrongKind (.number (.real x)) expected)

def count (expected : String) : Decoder Nat where
  read _ := atValue fun c =>
    let visit (r : Except Fault (Number × Cursor)) : Except Fault (Nat × Cursor) :=
      match r with
      | .error f => .error f
      | .ok (n, c) =>
        match countOf expected n with
        | .ok k => .ok (k, c)
        | .error p => .error (c.fault p)
    match c.peek? with
    | some '-' => visit (Cursor.number false c.advance)
    | some x => if Cursor.isDigit x then visit (Cursor.number true c) else .error (c.mismatch expected)
    | none => .error (c.mismatch expected)
  convert
    | .number n => countOf expected n
    | v => .error (.wrongKind (.ofValue v) expected)

def optional (d : Decoder α) : Decoder (Option α) where
  read depth c :=
    let c := c.skipBlanks
    if c.peek? = some 'n' then
      match c.advance.word ['u', 'l', 'l'] with
      | .ok c => .ok (none, c)
      | .error f => .error f
    else match d.read depth c with
      | .ok (a, c) => .ok (some a, c)
      | .error f => .error f
  convert
    | .null => .ok none
    | v => (d.convert v).map some

def any : Decoder Value where
  read := Cursor.value
  convert := .ok

/-- Reads the members of an object into `acc` with `step`, which is given each key after its colon. -/
def foldMembers (step : String → σ → Reader σ) :
    Nat → Bool → σ → Cursor → Except Fault (σ × Cursor)
  | 0, _, _, c => .error (c.faultAhead .endInObject)
  | fuel + 1, first, acc, c =>
    match c.keyAhead first with
    | .error f => .error f
    | .ok (none, c) => .ok (acc, c)
    | .ok (some k, c) =>
      match step k acc c with
      | .error f => .error f
      | .ok (acc, c) => foldMembers step fuel false acc c

/-- An object, at its opening brace, as a fold over its members. -/
def readObject (depth : Nat) (init : σ) (step : Nat → String → σ → Reader σ) : Reader σ := fun c =>
  if depth ≤ 1 then .error (c.faultAhead .tooDeep)
  else match foldMembers (step (depth - 1)) (c.rest.length + 1) true init c.advance with
    | .error f => .error f
    | .ok (acc, c) =>
      match c.closeObject with
      | (none, c) => .ok (acc, c)
      | (some f, _) => .error f

/-- The members of an object in order, keys distinct. -/
def members (d : Decoder α) : Decoder (List (String × α)) where
  read depth := atValue fun c =>
    if c.peek? = some '\x7b' then
      readObject depth [] (fun depth k acc c =>
        match c.colon with
        | .error f => .error f
        | .ok c =>
          match d.read depth c with
          | .error f => .error f
          | .ok (a, c) => .ok (Entries.insert k a acc, c)) c
    else .error (c.mismatch "a map")
  convert
    | .object ms => ms.foldr (fun m rest =>
        match d.convert m.2, rest with
        | .error p, _ => .error p
        | .ok _, .error p => .error p
        | .ok a, .ok as => .ok ((m.1, a) :: as)) (.ok [])
    | v => .error (.wrongKind (.ofValue v) "a map")

/-- Texts by name, sorted by name. -/
def texts : Decoder (List (String × String)) :=
  (members text).map Entries.sorted

/-- A field of a record: its names, the first one used in messages, and the change it makes. -/
structure Field (σ : Type) where
  names : List String
  decoder : Decoder (σ → σ)

def Field.named (name : String) (d : Decoder α) (set : α → σ → σ) : Field σ :=
  ⟨[name], d.map set⟩

def findField? (fields : List (Field σ)) (key : String) : Option (Field σ) :=
  fields.find? fun f => f.names.contains key

/-- One member of a record; `acc` holds the record so far and the fields already given. -/
def recordMember (fields : List (Field σ)) (depth : Nat) (key : String)
    (acc : σ × List String) : Reader (σ × List String) := fun c =>
  match findField? fields key with
  | none =>
    match c.colon with
    | .error f => .error f
    | .ok c =>
      match c.skip with
      | .error f => .error f
      | .ok c => .ok (acc, c)
  | some field =>
    let name := field.names.headD key
    if acc.2.contains name then .error (c.closeObject.2.fault (.duplicateField name))
    else match c.colon with
      | .error f => .error f
      | .ok c =>
        match field.decoder.read depth c with
        | .error f => .error f
        | .ok (change, c) => .ok ((change acc.1, name :: acc.2), c)

/-- The elements of an array as the fields in order. -/
def recordElements (depth : Nat) : List (Field σ) → Bool → σ → Reader σ
  | [], _, acc, c => .ok (acc, c)
  | field :: fields, first, acc, c =>
    match c.elementAhead first with
    | .error f => .error f
    | .ok (false, c) => .ok (acc, c)
    | .ok (true, c) =>
      match field.decoder.read depth c with
      | .error f => .error f
      | .ok (change, c) => recordElements depth fields false (change acc) c

def convertMembers (fields : List (Field σ)) :
    List (String × Value) → σ × List String → Except Problem σ
  | [], acc => .ok acc.1
  | (key, v) :: rest, acc =>
    match findField? fields key with
    | none => convertMembers fields rest acc
    | some field =>
      let name := field.names.headD key
      if acc.2.contains name then .error (.duplicateField name)
      else match field.decoder.convert v with
        | .error p => .error p
        | .ok change => convertMembers fields rest (change acc.1, name :: acc.2)

def convertElements : List (Field σ) → List Value → σ → Except Problem σ
  | field :: fields, v :: vs, acc =>
    match field.decoder.convert v with
    | .error p => .error p
    | .ok change => convertElements fields vs (change acc)
  | _, _, acc => .ok acc

/-- A record of the given name with a default for every field. -/
def record (name : String) (init : σ) (fields : List (Field σ)) : Decoder σ where
  read depth := atValue fun c =>
    match c.peek? with
    | some '\x7b' => (readObject depth (init, []) (recordMember fields) c).map fun r => (r.1.1, r.2)
    | some '[' =>
      if depth ≤ 1 then .error (c.faultAhead .tooDeep)
      else match recordElements (depth - 1) fields true init c.advance with
        | .error f => .error f
        | .ok (acc, c) =>
          match c.closeList with
          | (none, c) => .ok (acc, c)
          | (some f, _) => .error f
    | _ => .error (c.mismatch ("struct " ++ name))
  convert
    | .object ms => convertMembers fields ms (init, [])
    | .array vs =>
      match convertElements fields vs init with
      | .error p => .error p
      | .ok acc => if vs.length ≤ fields.length then .ok acc else .error (.tooLong vs.length)
    | v => .error (.wrongKind (.ofValue v) ("struct " ++ name))

/-- Decodes a whole text. -/
def ofText (d : Decoder α) (s : String) : Except Fault α :=
  match d.read depthLimit (.start s) with
  | .error f => .error f
  | .ok (a, c) =>
    match c.finished with
    | .error f => .error f
    | .ok () => .ok a

def ofValue (d : Decoder α) (v : Value) : Except Fault α :=
  match d.convert v with
  | .ok a => .ok a
  | .error p => .error ⟨p, none⟩

end Decoder

end PageExtract.Json
