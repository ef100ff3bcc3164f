import PageExtract.Filter
import PageExtract.Text.Blank

/-!
Plans: specs in the form in which they are evaluated. What a spec may not be becomes a malformed
plan in its place, so that its neighbours stay as they are. Main definitions: `Plan.ofSpec` and
`Plan.fallback`, the value a failed field takes.
-/

set_option autoImplicit false

namespace PageExtract

open Json (Value)

/-- Why a spec can't be evaluated. -/
inductive Malformation where
  | listLength (n : Nat)
  | literal (v : Value)
  | pattern (p : Pattern)
  | predicate
  | template (found : Spec)
  | directive (key : String) (found : Spec)

def Malformation.message : Malformation → String
  | .listLength n =>
    "A list spec must hold exactly one template, found " ++ String.ofList (Nat.toDigits 10 n)
  | .literal v => "Expected a selector, list or mapping, found " ++ v.text
  | .pattern p => "The pattern /" ++ p.source ++ "/ can only be used as \x60_filter\x60"
  | .predicate => "A predicate can only be used as \x60_filter\x60"
  | .template found => "A list template must be a selector or a mapping, found " ++ found.shown
  | .directive key found => "\x60" ++ key ++ "\x60 must be a string, found " ++ found.shown

/-- The directives of a mapping besides its follow. -/
structure Directives where
  elem : Option String
  value : Option String
  filter : Option Filter

/-- A selector of `none` stands for the element in scope. -/
inductive Plan where
  /-- The default value of the first match. -/
  | select (selector : Option String)
  /-- One value for each match. -/
  | each (elem : Option String) (item : Plan)
  /-- A mapping with directives. -/
  | directed (directives : Directives) (fields : List (String × Plan))
  /-- A mapping with directives whose result is merged with that of a linked page. -/
  | following (directives : Directives) (fields : List (String × Plan)) (link : Option String)
      (target : Plan)
  /-- A mapping of fields alone. -/
  | fields (fields : List (String × Plan))
  | malformed (reason : Malformation)

namespace Plan

def nonBlank? (selector : String) : Option String :=
  if Text.isAllBlank selector then none else some selector

/-- A directive that must be a string; without it, or if it is blank, there is none. -/
def stringDirective (key : String) (entries : List (String × Spec)) :
    Except Malformation (Option String) :=
  match Entries.get? key entries with
  | none => .ok none
  | some .missing => .ok none
  | some (.selector s) => .ok (nonBlank? s)
  | some found => .error (.directive key found)

/-- The entries that are left once `_elem` was taken out of a mapping. -/
def withoutElem (entries : List (String × Spec)) : List (String × Spec) :=
  Entries.erase Spec.elemKey entries

def hasDirective (entries : List (String × Spec)) : Bool :=
  entries.any fun e => Spec.isDirective e.1 && !e.2.isMissing

def filterOf (entries : List (String × Spec)) : Option Filter :=
  match Entries.get? Spec.filterKey entries with
  | none => none
  | some .missing => none
  | some s => some (.ofSpec s)

def directives (entries : List (String × Spec)) : Except Malformation Directives :=
  match stringDirective Spec.elemKey entries with
  | .error m => .error m
  | .ok elem =>
    match stringDirective Spec.valueKey entries with
    | .error m => .error m
    | .ok value => .ok ⟨elem, value, filterOf entries⟩

/-- Link and target of a follow, if there is one. -/
abbrev Follow := Except Malformation (Option (Option String × Plan))

/-- A mapping, from its entries and the plans made of its fields and its follow. -/
def ofMapping (entries : List (String × Spec)) (fields : List (String × Plan)) (follow : Follow) :
    Plan :=
  if !hasDirective entries then .fields fields
  else match follow with
    | .error m => .malformed m
    | .ok follow =>
      match directives entries with
      | .error m => .malformed m
      | .ok directives =>
        match follow with
        | none => .directed directives fields
        | some (link, target) => .following directives fields link target

/-- The template of a list. -/
def ofTemplate (template : Spec) (item : Plan) : Plan :=
  match template with
  | .missing => .each none (.select none)
  | .selector s => .each (nonBlank? s) (.select none)
  | .map entries =>
    match stringDirective Spec.elemKey entries with
    | .error m => .malformed m
    | .ok elem => .each elem item
  | found => .malformed (.template found)

/-- A follow whose `_elem` names the link. -/
def ofFollow (entries : List (String × Spec)) (target : Plan) : Follow :=
  match stringDirective Spec.elemKey entries with
  | .error m => .error m
  | .ok link => .ok (some (link, target))

mutual

def ofSpec : Spec → Plan
  | .missing => .select none
  | .selector s => .select (nonBlank? s)
  | .list [template] => ofTemplate template (itemOf template)
  | .list items => .malformed (.listLength items.length)
  | .map entries => ofMapping entries (fieldsOf entries) (followOf entries)
  | .literal v => .malformed (.literal v)
  | .pattern p => .malformed (.pattern p)
  | .predicate _ => .malformed .predicate
  termination_by structural s => s

/-- What is evaluated at each match of a list; the `_elem` of a mapping finds the matches. -/
def itemOf : Spec → Plan
  | .map entries => ofMapping (withoutElem entries) (fieldsOf entries) (followOf entries)
  | _ => .select none
  termination_by structural s => s

/-- The entries of a mapping that name fields. -/
def fieldsOf : List (String × Spec) → List (String × Plan)
  | [] => []
  | (k, s) :: rest => if Spec.isDirective k then fieldsOf rest else (k, ofSpec s) :: fieldsOf rest
  termination_by structural entries => entries

def followOf : List (String × Spec) → Follow
  | [] => .ok none
  | (k, s) :: rest =>
    if k = Spec.followKey then targetOf s else followOf rest
  termination_by structural entries => entries

def targetOf : Spec → Follow
  | .missing => .ok none
  | .map entries =>
    ofFollow entries (ofMapping (withoutElem entries) (fieldsOf entries) (followOf entries))
  | .selector s => .ok (some (none, .select (nonBlank? s)))
  | .list [template] => .ok (some (none, ofTemplate template (itemOf template)))
  | .list items => .ok (some (none, .malformed (.listLength items.length)))
  | .literal v => .ok (some (none, .malformed (.literal v)))
  | .pattern p => .ok (some (none, .malformed (.pattern p)))
  | .predicate _ => .ok (some (none, .malformed .predicate))
  termination_by structural s => s

end

/-- The value that stands for a failed field when errors are kept apart. -/
def fallback : Plan → Value
  | .select _ => .string ""
  | .each _ _ => .array []
  | .fields _ => .object []
  | .directed d _ => if d.value.isSome then .string "" else .object []
  | .following d _ _ target => if d.value.isSome then .string "" else fallback target
  | .malformed _ => .string ""

end Plan

end PageExtract
