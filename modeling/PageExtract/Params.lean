import PageExtract.Spec
import PageExtract.Text.Blank
import PageExtract.Text.Split

/-!
Parameters and the dotted paths that find them. A path walks groups, JSON objects and arrays, and
mappings of specs; what it finds is given as a spec.
-/

set_option autoImplicit false

namespace PageExtract

open Json (Value)

inductive Param where
  | value (v : Value)
  | pattern (p : Pattern)
  | predicate (test : Value → Bool)
  | spec (s : Spec)
  | group (params : List (String × Param))
  deriving Inhabited

/-- Parameters by name, sorted by name. -/
abbrev Params := List (String × Param)

namespace Param

mutual

def toSpec : Param → Spec
  | .value v => Spec.ofValue v
  | .pattern p => .pattern p
  | .predicate test => .predicate test
  | .spec s => s
  | .group params => .map (toEntries params)
  termination_by structural p => p

def toEntries : List (String × Param) → List (String × Spec)
  | [] => []
  | (k, p) :: rest => (k, toSpec p) :: toEntries rest
  termination_by structural ps => ps

end

end Param

namespace Params

def ofMembers (members : List (String × Value)) : Params :=
  Entries.sorted (members.map fun m => (m.1, Param.value m.2))

/-- What a path has found so far. -/
inductive Found where
  | param (p : Param)
  | json (v : Value)
  | spec (s : Spec)

def Found.toSpec : Found → Spec
  | .param p => p.toSpec
  | .json v => Spec.ofValue v
  | .spec s => s

/-- A decimal number of 64 bits, a plus sign allowed before it. -/
def index? (s : List Char) : Option Nat :=
  let digits := match s with
    | '+' :: rest => rest
    | _ => s
  if digits.isEmpty || !digits.all Char.isDigit then none
  else
    let n := digits.foldl (fun acc c => acc * 10 + (c.toNat - '0'.toNat)) 0
    if n < Nat.pow 2 64 then some n else none

def jsonChild? (v : Value) (segment : List Char) : Option Value :=
  match v with
  | .object members => Entries.get? (String.ofList segment) members
  | .array items => (index? segment).bind fun n => items[n]?
  | _ => none

def child? (found : Found) (segment : List Char) : Option Found :=
  match found with
  | .param (.group params) => (Entries.get? (String.ofList segment) params).map .param
  | .param (.value v) => (jsonChild? v segment).map .json
  | .json v => (jsonChild? v segment).map .json
  | .param (.spec s) => (s.get? (String.ofList segment)).map .spec
  | .spec s => (s.get? (String.ofList segment)).map .spec
  | .param _ => none

def segments (path : List Char) : List (List Char) :=
  (Text.splitAt '.' path).map Text.trim

/-- Walks the segments, the first among the parameters and each other among the children. -/
def find? (params : Params) : List (List Char) → Option Found
  | [] => none
  | first :: rest =>
    match Entries.get? (String.ofList first) params with
    | none => none
    | some p => rest.foldl (fun found segment => found.bind (child? · segment)) (some (.param p))

def lookup? (params : Params) (path : List Char) : Option Spec :=
  (find? params (segments path)).map Found.toSpec

end Params

end PageExtract
