import PageExtract.Json.Printer
import PageExtract.Text.Quoted

/-!
Why a JSON text or value can't be read, and where in the text.
-/

set_option autoImplicit false

namespace PageExtract.Json

/-- What was found where something else was expected. -/
inductive Found where
  | null
  | bool (b : Bool)
  | number (n : Number)
  | string (s : String)
  | sequence
  | map
  deriving DecidableEq, Repr

namespace Found

def text : Found → String
  | .null => "null"
  | .bool b => "boolean `" ++ (if b then "true" else "false") ++ "`"
  | .number (.whole n) => "integer `" ++ (Number.whole n).text ++ "`"
  | .number (.real x) => "floating point `" ++ (Number.real x).text ++ "`"
  | .string s => "string " ++ Text.quoted s
  | .sequence => "sequence"
  | .map => "map"

def ofValue : Value → Found
  | .null => .null
  | .bool b => .bool b
  | .number n => .number n
  | .string s => .string s
  | .array _ => .sequence
  | .object _ => .map

end Found

inductive Problem where
  | endInList | endInObject | endInString | endInValue
  | expectedColon | expectedListComma | expectedObjectComma | expectedWord | expectedValue
  | invalidEscape | invalidNumber | numberOutOfRange | controlCharacter | keyNotString
  | loneSurrogate | unfinishedSurrogate | trailingComma | trailingCharacters | tooDeep
  | wrongKind (found : Found) (expected : String)
  | wrongNumber (n : Number) (expected : String)
  | duplicateField (name : String)
  | tooLong (length : Nat)
  deriving DecidableEq, Repr

def Problem.text : Problem → String
  | .endInList => "EOF while parsing a list"
  | .endInObject => "EOF while parsing an object"
  | .endInString => "EOF while parsing a string"
  | .endInValue => "EOF while parsing a value"
  | .expectedColon => "expected `:`"
  | .expectedListComma => "expected `,` or `]`"
  | .expectedObjectComma => "expected `,` or `\x7d`"
  | .expectedWord => "expected ident"
  | .expectedValue => "expected value"
  | .invalidEscape => "invalid escape"
  | .invalidNumber => "invalid number"
  | .numberOutOfRange => "number out of range"
  | .controlCharacter => "control character (\\u0000-\\u001F) found while parsing a string"
  | .keyNotString => "key must be a string"
  | .loneSurrogate => "lone leading surrogate in hex escape"
  | .unfinishedSurrogate => "unexpected end of hex escape"
  | .trailingComma => "trailing comma"
  | .trailingCharacters => "trailing characters"
  | .tooDeep => "recursion limit exceeded"
  | .wrongKind found expected => "invalid type: " ++ found.text ++ ", expected " ++ expected
  | .wrongNumber n expected => "invalid value: integer `" ++ n.text ++ "`, expected " ++ expected
  | .duplicateField name => "duplicate field `" ++ name ++ "`"
  | .tooLong length =>
    "invalid length " ++ String.ofList (Nat.toDigits 10 length) ++ ", expected fewer elements in array"

/-- A place in a text: lines count from one, columns count bytes. -/
structure Position where
  line : Nat
  column : Nat
  deriving DecidableEq, Repr

/-- A problem, with its place if it was met in a text. -/
structure Fault where
  problem : Problem
  position : Option Position
  deriving DecidableEq, Repr

def Fault.message (f : Fault) : String :=
  match f.position with
  | none => f.problem.text
  | some p =>
    f.problem.text ++ " at line " ++ String.ofList (Nat.toDigits 10 p.line) ++ " column " ++
      String.ofList (Nat.toDigits 10 p.column)

end PageExtract.Json
