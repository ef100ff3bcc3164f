import PageExtract.Url.Host

/-!
URLs and their text. Main definitions: `Url` with its parts in written form, `Url.text`, and
`Url.origin`, the scheme, host and port that links are resolved against.
-/

set_option autoImplicit false

namespace PageExtract

namespace Url

/-- Who serves a URL: user and password, either empty if there is none, host and port. -/
structure Authority where
  user : List Char
  password : List Char
  host : Host
  port : Option Nat
  deriving DecidableEq, Repr

/-- A path is a text without structure, or segments each with a slash before it. -/
inductive Path where
  | unstructured (s : List Char)
  | segments (ss : List (List Char))
  deriving DecidableEq, Repr

/-- The port of a scheme when none is written. -/
def defaultPort? (scheme : String) : Option Nat :=
  if scheme = "http" ∨ scheme = "ws" then some 80
  else if scheme = "https" ∨ scheme = "wss" then some 443
  else if scheme = "ftp" then some 21
  else none

/-- Schemes that name files, servers known to every reader of URLs, or anything else. -/
inductive Kind where
  | file
  | server
  | other
  deriving DecidableEq, Repr

def kindOf (scheme : String) : Kind :=
  if scheme = "file" then .file
  else if (defaultPort? scheme).isSome then .server
  else .other

end Url

structure Url where
  scheme : String
  authority : Option Url.Authority
  path : Url.Path
  query : Option (List Char)
  fragment : Option (List Char)
  deriving DecidableEq, Repr

namespace Url

def Authority.credentials (a : Authority) : List Char :=
  if a.user.isEmpty ∧ a.password.isEmpty then []
  else a.user ++ (if a.password.isEmpty then [] else ':' :: a.password) ++ ['@']

def portText : Option Nat → List Char
  | none => []
  | some n => ':' :: Nat.toDigits 10 n

/-- Host and port. -/
def Authority.place (a : Authority) : List Char :=
  a.host.text ++ portText a.port

def Path.text : Path → List Char
  | .unstructured s => s
  | .segments ss => ss.flatMap fun s => '/' :: s

/-- A path that begins with an empty segment has `/.` before it where it would be taken for a host. -/
def marked (p : Path) : List Char :=
  match p with
  | .segments ([] :: _ :: _) => '/' :: '.' :: p.text
  | _ => p.text

def optionText (mark : Char) : Option (List Char) → List Char
  | none => []
  | some s => mark :: s

def chars (u : Url) : List Char :=
  u.scheme.toList ++ ':' ::
    (match u.authority with
      | some a => '/' :: '/' :: (a.credentials ++ a.place ++ u.path.text)
      | none => marked u.path) ++
    optionText '?' u.query ++ optionText '#' u.fragment

def text (u : Url) : String :=
  String.ofList u.chars

/-- The host, unless it is empty. -/
def host? (u : Url) : Option Host :=
  match u.authority with
  | some a => if a.host = .name [] then none else some a.host
  | none => none

def port? (u : Url) : Option Nat :=
  u.authority.bind (·.port)

/-- The same place without user and password. -/
def withoutCredentials (u : Url) : Url :=
  { u with authority := u.authority.map fun a => { a with user := [], password := [] } }

end Url

end PageExtract
