import PageExtract.Accessor
import PageExtract.Request

/-!
Runs: what a step of a scrape came to, with what happened on the way, in order. A failure does not
undo what has happened.
-/

set_option autoImplicit false

namespace PageExtract

open Html (Document NodeId)
open Json (Value)

/-- A place where the cookies of a session are kept. -/
abbrev Jar := Nat

structure PageRequest where
  url : String
  options : Option FetchOptions
  session : Option Jar
  deriving DecidableEq, Repr

/-- A plain load of a page. -/
def PageRequest.get (url : String) : PageRequest :=
  ⟨url, none, none⟩

/-- A page under evaluation, with the number of links that were followed to reach it. -/
structure Visit where
  page : Page
  document : Document
  depth : Nat

/-- Lines for those who write specs. -/
inductive Diagnostic where
  | miss (selector : String) (context : Option String)
  | unsupportedFilter (filter : Filter) (kind : Value.Kind)

def Diagnostic.text : Diagnostic → String
  | .miss selector none => "Couldn't find '" ++ selector ++ "'"
  | .miss selector (some context) => "Couldn't find '" ++ selector ++ "' in '" ++ context ++ "'"
  | .unsupportedFilter filter kind =>
    "Unsupported filter " ++ filter.shown ++ " for " ++ kind.name ++ " value, ignoring it"

inductive Event where
  | diagnostic (d : Diagnostic)
  /-- Something of an element was looked at. -/
  | read (visit : Visit) (element : NodeId)
  /-- A page was asked for, because of the link of an element unless it is the first page. -/
  | request (r : PageRequest) (link : Option (Visit × NodeId))
  | login (l : Login) (jar : Jar)

structure Run (α : Type) where
  result : Except Failure α
  events : List Event

namespace Run

variable {α β : Type}

def pure (a : α) : Run α :=
  ⟨.ok a, []⟩

def fail (e : Failure) : Run α :=
  ⟨.error e, []⟩

def emit (e : Event) : Run Unit :=
  ⟨.ok (), [e]⟩

def ofExcept (r : Except Failure α) : Run α :=
  ⟨r, []⟩

def bind (first : Run α) (next : α → Run β) : Run β :=
  match first.result with
  | .ok a =>
    let second := next a
    ⟨second.result, first.events ++ second.events⟩
  | .error e => ⟨.error e, first.events⟩

def map (f : α → β) (r : Run α) : Run β :=
  ⟨r.result.map f, r.events⟩

def diagnostics (r : Run α) : List Diagnostic :=
  r.events.filterMap fun
    | .diagnostic d => some d
    | _ => none

def requests (r : Run α) : List PageRequest :=
  r.events.filterMap fun
    | .request q _ => some q
    | _ => none

theorem bind_of_ok (first : Run α) (next : α → Run β) (a : α) (success : first.result = .ok a) :
    first.bind next = ⟨(next a).result, first.events ++ (next a).events⟩ := by
  simp only [bind, success]

theorem bind_of_error (first : Run α) (next : α → Run β) (e : Failure)
    (failed : first.result = .error e) : first.bind next = ⟨.error e, first.events⟩ := by
  simp only [bind, failed]

end Run

end PageExtract
