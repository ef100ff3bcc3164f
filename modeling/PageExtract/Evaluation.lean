import PageExtract.Css.Matching
import PageExtract.Css.Parser
import PageExtract.Html.Reading
import PageExtract.Run

/-!
Evaluation of plans. Fields are evaluated in declared order and list items in the order of their
matches, each on its own, so that a failure never keeps a neighbour from being evaluated; only then
is their mapping or list put together. Main definition: `Plan.evaluate`.
-/

set_option autoImplicit false

namespace PageExtract

open Html (Document Element NodeId)
open Json (Value)

/-- The key beside the fields under which their failures are listed. -/
def errorsKey : String := "errors"

/-- The element in scope, and the selector that found it. -/
structure Focus where
  element : NodeId
  selector : Option String
  deriving DecidableEq, Repr

/-- Nothing in scope stands for the whole document. -/
abbrev Scope := Option Focus

abbrev Fetch := PageRequest → Except FetchFailure String

namespace Visit

/-- A page reached after `depth` links. -/
def start (url html : String) (depth : Nat) : Run Visit :=
  match Page.read url with
  | .ok page => .pure ⟨page, .read html, depth⟩
  | .error mistake => .fail (.configuration mistake)

/-- The element in scope itself. -/
def current (s : Scope) : Run NodeId :=
  match s with
  | some focus => .pure focus.element
  | none => .fail (.configuration .missingElement)

def parsed (selector : String) : Run Css.Selector :=
  match Css.Selector.read selector with
  | .ok s => .pure s
  | .error problem => .fail (.invalidSelector selector problem.message)

/-- All matches of a selector in scope; none at all is a failure. -/
def selectAll (v : Visit) (selector : Option String) (s : Scope) : Run (List NodeId) :=
  match selector with
  | none => (current s).map fun n => [n]
  | some selector =>
    (parsed selector).bind fun sel =>
      match sel.select v.document (s.map Focus.element) with
      | [] =>
        let context := s.bind Focus.selector
        ⟨.error (.selectorNotFound selector context), [.diagnostic (.miss selector context)]⟩
      | ns => .pure ns

/-- The first match of a selector in scope; a miss is reported as by `selectAll`. -/
def selectFirst (v : Visit) (selector : Option String) (s : Scope) : Run NodeId :=
  match selector with
  | none => current s
  | some text =>
    (parsed text).bind fun sel =>
      match sel.first? v.document (s.map Focus.element) with
      | some n => .pure n
      | none => (v.selectAll selector s).map fun ns => ns.headD 0

/-- Reads an element in the way that it asks for. -/
def readElement (v : Visit) (n : NodeId) (how : Element → Accessor) : Run Value :=
  ⟨.ok (match v.document.element? n with
    | some e => (how e).value v.page v.document n e
    | none => .null), [.read v n]⟩

/-- Narrows the scope to the first match; a mapping with directives can't stand without an element. -/
def narrow (v : Visit) (elem : Option String) (s : Scope) : Run Focus :=
  match elem with
  | some selector => (v.selectFirst elem s).map fun n => ⟨n, some selector⟩
  | none =>
    match s with
    | some focus => .pure focus
    | none => .fail (.configuration .missingElement)

end Visit

/-- Goes on with a value that the filter keeps; one that it rejects becomes null. -/
def Filter.gate (filter : Option Filter) (v : Value) (next : Value → Run Value) : Run Value :=
  match filter with
  | none => next v
  | some f =>
    match f.test? v with
    | some true => next v
    | some false => .pure .null
    | none => (Run.emit (.diagnostic (.unsupportedFilter f v.kind))).bind fun _ => next v

/-- Mappings are merged, any other result takes the place of what was there. -/
def merge : Value → Value → Value
  | .object base, .object extra => .object (Entries.extend base extra)
  | _, result => result

/-- What the evaluation of a field came to, and the value it takes if that failed. -/
structure FieldRun where
  key : String
  fallback : Value
  run : Run Value

namespace FieldRun

/-- The value of a failed field, where the policy allows one. -/
def isolated (policy : Policy) (f : FieldRun) (e : Failure) : Option Value :=
  if e.isRecoverable && policy.allowsErrors then
    some (if policy.testing then .string e.message else f.fallback)
  else none

/-- Puts fields together after `object` and `errors`; the first failure that isn't isolated ends it. -/
def collect (policy : Policy) :
    List FieldRun → List (String × Value) → List (String × Value) →
    Except Failure (List (String × Value) × List (String × Value))
  | [], object, errors => .ok (object, errors)
  | f :: rest, object, errors =>
    match f.run.result with
    | .ok v => collect policy rest (Entries.insert f.key v object) errors
    | .error e =>
      match f.isolated policy e with
      | none => .error e
      | some v =>
        collect policy rest (Entries.insert f.key v object)
          (if policy.separateErrors then Entries.insert f.key (.string e.message) errors else errors)

/-- The mapping of fields, with their errors beside them if there are any. -/
def assemble (policy : Policy) (fs : List FieldRun) : Run Value :=
  ⟨match collect policy fs [] [] with
    | .error e => .error e
    | .ok (object, []) => .ok (.object object)
    | .ok (object, errors) => .ok (.object (Entries.insert errorsKey (.object errors) object)),
   fs.flatMap fun f => f.run.events⟩

end FieldRun

/-- The items of a list without those that were dropped, or the first failure. -/
def items : List (Run Value) → Except Failure (List Value)
  | [] => .ok []
  | r :: rest =>
    match r.result with
    | .error e => .error e
    | .ok v =>
      match items rest with
      | .error e => .error e
      | .ok vs =>
        match v with
        | .null => .ok vs
        | v => .ok (v :: vs)

def listed (rs : List (Run Value)) : Run Value :=
  ⟨(items rs).map .array, rs.flatMap Run.events⟩

/-- Follows the link of an element and merges what `target` yields on the linked page into what is
there already. The request carries neither options nor a session. -/
def follow (fetch : Fetch) (policy : Policy) (v : Visit) (focus : Focus) (link : Option String)
    (before : Value) (target : Visit → Run Value) : Run Value :=
  let found : Run NodeId := match link with
    | some _ => v.selectFirst link (some focus)
    | none => .pure focus.element
  found.bind fun n =>
    (Run.emit (.read v n)).bind fun _ =>
      match (v.document.element? n).bind (Accessor.linkTarget? v.page) with
      | none => .fail (.missingLink ((link.or focus.selector).getD ""))
      | some url =>
        if policy.maxFollowDepth ≤ v.depth then .fail (.followDepth url policy.maxFollowDepth)
        else
          (Run.emit (.request (.get url) (some (v, n)))).bind fun _ =>
            match fetch (.get url) with
            | .error cause => .fail (.fetch cause)
            | .ok html =>
              (Visit.start url html (v.depth + 1)).bind fun next =>
                (target next).map (merge before)

namespace Plan

mutual

def evaluate (fetch : Fetch) (policy : Policy) : Plan → Visit → Scope → Run Value
  | .select selector, v, s =>
    (v.selectFirst selector s).bind fun n => v.readElement n Accessor.standard
  | .each elem item, v, s =>
    (v.selectAll elem s).bind fun ns =>
      listed (ns.map fun n =>
        evaluate fetch policy item v (some ⟨n, elem.or (s.bind Focus.selector)⟩))
  | .fields fs, v, s => FieldRun.assemble policy (fieldRuns fetch policy fs v s)
  | .directed d fs, v, s =>
    (v.narrow d.elem s).bind fun focus =>
      (match d.value with
        | some name => v.readElement focus.element fun _ => Accessor.ofName name
        | none => FieldRun.assemble policy (fieldRuns fetch policy fs v (some focus))).bind
        fun value => Filter.gate d.filter value .pure
  | .following d fs link target, v, s =>
    (v.narrow d.elem s).bind fun focus =>
      let next : Value → Run Value := fun before =>
        follow fetch policy v focus link before fun page => evaluate fetch policy target page none
      match d.value with
      | some name =>
        (v.readElement focus.element fun _ => Accessor.ofName name).bind
          fun value => Filter.gate d.filter value next
      | none =>
        if fs.isEmpty then next (.object [])
        else
          (FieldRun.assemble policy (fieldRuns fetch policy fs v (some focus))).bind
            fun value => Filter.gate d.filter value next
  | .malformed reason, _, _ => .fail (.configuration (.malformed reason))
  termination_by structural plan => plan

/-- The fields of a mapping, each evaluated in the same scope. -/
def fieldRuns (fetch : Fetch) (policy : Policy) :
    List (String × Plan) → Visit → Scope → List FieldRun
  | [], _, _ => []
  | (key, plan) :: rest, v, s =>
    ⟨key, plan.fallback, evaluate fetch policy plan v s⟩ :: fieldRuns fetch policy rest v s
  termination_by structural fs => fs

end

end Plan

end PageExtract
