import PageExtract.Entries
import PageExtract.Json.Number

/-!
JSON values. An object keeps the order of its members, but equality does not look at it.
-/

set_option autoImplicit false

namespace PageExtract.Json

inductive Value where
  | null
  | bool (b : Bool)
  | number (n : Number)
  | string (s : String)
  | array (items : List Value)
  | object (members : List (String × Value))
  deriving Inhabited

namespace Value

mutual

/-- Equality in which the order of members does not count. -/
def equal : Value → Value → Bool
  | .null, .null => true
  | .bool a, .bool b => a == b
  | .number a, .number b => a.equal b
  | .string a, .string b => a == b
  | .array xs, .array ys => equalItems xs ys
  | .object ms, .object ns => ms.length == ns.length && equalMembers ms ns
  | _, _ => false
  termination_by structural v => v

def equalItems : List Value → List Value → Bool
  | [], [] => true
  | x :: xs, y :: ys => equal x y && equalItems xs ys
  | _, _ => false
  termination_by structural xs => xs

/-- Each member on the left is found on the right with an equal value. -/
def equalMembers : List (String × Value) → List (String × Value) → Bool
  | [], _ => true
  | (k, v) :: rest, ns =>
    (match Entries.get? k ns with
      | some w => equal v w
      | none => false) && equalMembers rest ns
  termination_by structural ms => ms

end

inductive Kind where
  | null | boolean | number | string | array | object
  deriving DecidableEq, Repr

def kind : Value → Kind
  | .null => .null
  | .bool _ => .boolean
  | .number _ => .number
  | .string _ => .string
  | .array _ => .array
  | .object _ => .object

def Kind.name : Kind → String
  | .null => "null"
  | .boolean => "boolean"
  | .number => "number"
  | .string => "string"
  | .array => "array"
  | .object => "object"

def member? (key : String) : Value → Option Value
  | .object ms => Entries.get? key ms
  | _ => none

end Value

end PageExtract.Json
