import PageExtract.Failure
import PageExtract.Text.Search
import PageExtract.Url.Parser

/-!
Pages as the places that links are resolved against. A link that names the page's host anywhere is
kept as it is; any other is read relative to the origin of the page, not to its path.
-/

set_option autoImplicit false

namespace PageExtract

structure Page where
  url : Url
  /-- Host and port, empty if the URL has no host. -/
  host : List Char
  /-- The URL of the origin, or of the page itself if that has no origin. -/
  origin : Url
  deriving DecidableEq, Repr

namespace Page

def hostOf (u : Url) : List Char :=
  match u.host? with
  | some h => h.text ++ Url.portText u.port?
  | none => []

def originOf (u : Url) : Url :=
  match u.origin? with
  | none => u
  | some origin =>
    match Url.readWith none origin with
    | .ok o => o
    | .error _ => u

def ofUrl (u : Url) : Page :=
  ⟨u, hostOf u, originOf u⟩

def read (url : String) : Except Misconfiguration Page :=
  match Url.read url with
  | .ok u => .ok (ofUrl u)
  | .error problem => .error (.invalidUrl url problem)

/-- The link names the host of the page. -/
def namesHost (p : Page) (href : List Char) : Bool :=
  !p.host.isEmpty && Text.infixOf p.host href

/-- The absolute form of a link. -/
def resolve (p : Page) (href : String) : String :=
  let link := Text.trimmed href
  if p.namesHost link.toList then link
  else match p.origin.join link with
    | .ok u => u.text
    | .error _ => link

end Page

end PageExtract
