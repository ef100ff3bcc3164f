import PageExtract.Json.Value
import PageExtract.Pattern.Basic

/-!
Extraction specs: selectors, one-element lists and mappings. The keys `_elem`, `_value`, `_filter`
and `_follow` of a mapping steer its evaluation, all others name fields of the result.
-/

set_option autoImplicit false

namespace PageExtract

open Json (Value)

inductive Spec where
  | missing
  | selector (s : String)
  | list (items : List Spec)
  | map (entries : List (String × Spec))
  | literal (v : Value)
  | pattern (p : Pattern)
  | predicate (test : Value → Bool)
  deriving Inhabited

namespace Spec

def elemKey : String := "_elem"
def valueKey : String := "_value"
def filterKey : String := "_filter"
def followKey : String := "_follow"

def isDirective (key : String) : Bool :=
  key == elemKey || key == valueKey || key == filterKey || key == followKey

def isMissing : Spec → Bool
  | .missing => true
  | _ => false

/-- Sets a key of a mapping; any other spec is replaced by a mapping that holds only the key. -/
def set (s : Spec) (key : String) (value : Spec) : Spec :=
  match s with
  | .map entries => .map (Entries.insert key value entries)
  | _ => .map [(key, value)]

def get? (s : Spec) (key : String) : Option Spec :=
  match s with
  | .map entries => Entries.get? key entries
  | _ => none

mutual

/-- Null stands for nothing, a string for a selector, numbers and booleans for themselves. -/
def ofValue : Value → Spec
  | .null => .missing
  | .string s => .selector s
  | .array items => .list (ofItems items)
  | .object members => .map (ofMembers members)
  | .bool b => .literal (.bool b)
  | .number n => .literal (.number n)
  termination_by structural v => v

def ofItems : List Value → List Spec
  | [] => []
  | v :: vs => ofValue v :: ofItems vs
  termination_by structural vs => vs

def ofMembers : List (String × Value) → List (String × Spec)
  | [] => []
  | (k, v) :: ms => (k, ofValue v) :: ofMembers ms
  termination_by structural ms => ms

end

mutual

/-- The plain view of a spec; a pattern is its source, and a predicate has no view but null. -/
def toValue : Spec → Value
  | .missing => .null
  | .predicate _ => .null
  | .selector s => .string s
  | .list items => .array (toItems items)
  | .map entries => .object (Entries.ofList (toMembers entries))
  | .literal v => v
  | .pattern p => .string p.source
  termination_by structural s => s

def toItems : List Spec → List Value
  | [] => []
  | s :: ss => toValue s :: toItems ss
  termination_by structural ss => ss

def toMembers : List (String × Spec) → List (String × Value)
  | [] => []
  | (k, s) :: es => (k, toValue s) :: toMembers es
  termination_by structural es => es

end

end Spec

end PageExtract
