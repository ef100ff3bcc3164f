import PageExtract.Spec.Shown
import PageExtract.Text.Search

/-!
Filters of extracted values. Main definitions: `Filter.test?`, which says nothing about values of
a kind that the filter isn't for, and `Filter.isSubset`.
-/

set_option autoImplicit false

namespace PageExtract

open Json (Value)

inductive Filter where
  | contains (needle : String)
  | pattern (p : Pattern)
  | subset (members : List (String × Value))
  | predicate (test : Value → Bool)
  | unsupported (s : Spec)

namespace Filter

def ofSpec : Spec → Filter
  | .selector s => .contains s
  | .pattern p => .pattern p
  | .predicate test => .predicate test
  | .map entries => .subset (Entries.ofList (Spec.toMembers entries))
  | s => .unsupported s

mutual

/-- Every wanted member is there. -/
def isSubset : List (String × Value) → List (String × Value) → Bool
  | [], _ => true
  | (key, want) :: rest, actual =>
    (match Entries.get? key actual with
      | some value => covers want value
      | none => false) && isSubset rest actual
  termination_by structural wanted => wanted

/-- An object covers what it holds all members of, any other value only its equals. -/
def covers : Value → Value → Bool
  | .object wanted, .object actual => isSubset wanted actual
  | want, value => want.equal value
  termination_by structural want => want

end

def matchesText (p : Pattern) : Value → Bool
  | .string s => p.isMatch s
  | _ => false

/-- Whether a value is kept, if the filter is for values of its kind. -/
def test? : Filter → Value → Option Bool
  | .predicate test, v => some (test v)
  | .subset wanted, .object actual => some (isSubset wanted actual)
  | .contains needle, .string s => some (Text.infixOf needle.toList s.toList)
  | .pattern p, .string s => some (p.isMatch s)
  | .pattern p, .object members => some (members.any fun m => matchesText p m.2)
  | _, _ => none

/-- Values of other kinds are kept. -/
def passes (f : Filter) (v : Value) : Bool :=
  (f.test? v).getD true

/-- How messages name a filter. -/
def shown : Filter → String
  | .contains needle => "'" ++ needle ++ "'"
  | .pattern p => "/" ++ p.source ++ "/"
  | .subset members => (Value.object members).text
  | .predicate _ => "predicate"
  | .unsupported s => s.shown

end Filter

end PageExtract
