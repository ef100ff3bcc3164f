import PageExtract.Run

/-!
Login sessions. A session is a jar of cookies under an id; it is stored when its login begins, and
taken out again if the login fails. An authentication waits only for its login, so it has two
steps, `Sessions.begin` and `Sessions.finish`.
-/

set_option autoImplicit false

namespace PageExtract

/-- Jars by session id, and the number of the next jar to be made. -/
structure Sessions where
  jars : List (String × Jar)
  next : Jar
  deriving DecidableEq, Repr

/-- What answers for logins. -/
abbrev LoginService := Login → Jar → Except FetchFailure Unit

namespace Sessions

def empty : Sessions :=
  ⟨[], 0⟩

def get? (s : Sessions) (id : String) : Option Jar :=
  Entries.get? id s.jars

def put (s : Sessions) (id : String) (jar : Jar) : Sessions :=
  { s with jars := Entries.insert id jar s.jars }

def remove (s : Sessions) (id : String) : Sessions :=
  { s with jars := Entries.erase id s.jars }

def size (s : Sessions) : Nat :=
  s.jars.length

/-- An empty jar that nothing else uses. -/
def fresh (s : Sessions) : Jar × Sessions :=
  (s.next, { s with next := s.next + 1 })

/-- How messages show the sessions. -/
def shown (s : Sessions) : String :=
  "SessionStore \x7b sessions: " ++ decimal s.size ++ " \x7d"

/-- How messages show what scrapes with the sessions. -/
def shownOwner (s : Sessions) : String :=
  "Scraper \x7b sessions: " ++ s.shown ++ ", .. \x7d"

/-- An authentication after its first step. -/
inductive Begun where
  | settled (result : Except AuthFailure (Option Jar))
  | pending (id : String) (jar : Jar) (login : Login)

/-- A text that isn't empty. -/
def given? : Option String → Option String
  | some s => if s.isEmpty then none else some s
  | none => none

/-- Finds the session, or makes one for which a login is pending. -/
def begin (s : Sessions) (login : Option Login) : Begun × Sessions :=
  match login with
  | none => (.settled (.ok none), s)
  | some login =>
    match given? login.session with
    | none => (.settled (.error .missingSession), s)
    | some id =>
      match s.get? id with
      | some jar => (.settled (.ok (some jar)), s)
      | none =>
        match given? login.url with
        | none => (.settled (.error .missingUrl), s)
        | some _ =>
          let (jar, s) := s.fresh
          (.pending id jar login, s.put id jar)

/-- Ends a login; a session whose login failed is forgotten. -/
def finish (s : Sessions) (id : String) (jar : Jar) (answer : Except FetchFailure Unit) :
    Except AuthFailure (Option Jar) × Sessions :=
  match answer with
  | .ok () => (.ok (some jar), s)
  | .error cause => (.error (.login cause), s.remove id)

/-- An authentication with nothing in between: its result, the logins made and the sessions after. -/
def authenticate (service : LoginService) (s : Sessions) (login : Option Login) :
    Except AuthFailure (Option Jar) × List Event × Sessions :=
  match s.begin login with
  | (.settled result, s) => (result, [], s)
  | (.pending id jar login, s) =>
    let (result, s) := s.finish id jar (service login jar)
    (result, [.login login jar], s)

end Sessions

end PageExtract
