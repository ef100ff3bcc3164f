import PageExtract.Json.Printer
import PageExtract.Spec
import PageExtract.Text.Quoted

/-!
The form in which messages show a spec: constructors with their arguments in parentheses.
-/

set_option autoImplicit false

namespace PageExtract

open Json (Value)

/-- Items between brackets, separated by commas. -/
def bracketed (open_ close : String) (items : List String) : String :=
  open_ ++ String.intercalate ", " items ++ close

mutual

def Json.Value.shown : Value → String
  | .null => "Null"
  | .bool b => "Bool(" ++ (if b then "true" else "false") ++ ")"
  | .number n => "Number(" ++ n.text ++ ")"
  | .string s => "String(" ++ Text.quoted s ++ ")"
  | .array items => "Array " ++ bracketed "[" "]" (Json.Value.shownItems items)
  | .object members => "Object " ++ bracketed "\x7b" "\x7d" (Json.Value.shownMembers members)
  termination_by structural v => v

def Json.Value.shownItems : List Value → List String
  | [] => []
  | v :: vs => Json.Value.shown v :: Json.Value.shownItems vs
  termination_by structural vs => vs

def Json.Value.shownMembers : List (String × Value) → List String
  | [] => []
  | (k, v) :: ms => (Text.quoted k ++ ": " ++ Json.Value.shown v) :: Json.Value.shownMembers ms
  termination_by structural ms => ms

end

namespace Spec

mutual

def shown : Spec → String
  | .missing => "Missing"
  | .selector s => "Selector(" ++ Text.quoted s ++ ")"
  | .list items => "List(" ++ bracketed "[" "]" (shownItems items) ++ ")"
  | .map entries => "Map(" ++ bracketed "[" "]" (shownEntries entries) ++ ")"
  | .literal v => "Literal(" ++ v.shown ++ ")"
  | .pattern p => "Pattern(Regex(" ++ Text.quoted p.source ++ "))"
  | .predicate _ => "Predicate(Predicate(..))"
  termination_by structural s => s

def shownItems : List Spec → List String
  | [] => []
  | s :: ss => shown s :: shownItems ss
  termination_by structural ss => ss

def shownEntries : List (String × Spec) → List String
  | [] => []
  | (k, s) :: es => ("(" ++ Text.quoted k ++ ", " ++ shown s ++ ")") :: shownEntries es
  termination_by structural es => es

end

end Spec

end PageExtract
