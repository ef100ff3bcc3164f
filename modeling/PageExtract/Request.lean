import PageExtract.Params
import PageExtract.Policy

/-!
What a caller asks for: the options of page loads and logins, and whole requests to scrape a page.
-/

set_option autoImplicit false

namespace PageExtract

open Json (Decoder Value)

/-- Texts by name, sorted by name. -/
abbrev Texts := List (String × String)

/-- How a page is loaded; the method is `GET` unless another is named, a form is sent as the body. -/
structure FetchOptions where
  method : Option String
  headers : Texts
  form : Option Texts
  deriving DecidableEq, Repr

namespace FetchOptions

def standard : FetchOptions :=
  ⟨none, [], none⟩

def decoder : Decoder FetchOptions :=
  .record "FetchOptions" standard
    [.named "method" (.optional .text) fun m o => { o with method := m },
     .named "headers" .texts fun h o => { o with headers := h },
     .named "form" (.optional .texts) fun f o => { o with form := f }]

end FetchOptions

/-- The login of a session; the method is `POST` unless another is named. -/
structure Login where
  session : Option String
  url : Option String
  method : Option String
  form : Option Texts
  headers : Texts
  deriving DecidableEq, Repr

namespace Login

def standard : Login :=
  ⟨none, none, none, none, []⟩

def decoder : Decoder Login :=
  .record "AuthOptions" standard
    [.named "sessionId" (.optional .text) fun s l => { l with session := s },
     .named "url" (.optional .text) fun u l => { l with url := u },
     .named "method" (.optional .text) fun m l => { l with method := m },
     .named "form" (.optional .texts) fun f l => { l with form := f },
     .named "headers" .texts fun h l => { l with headers := h }]

end Login

/-- One scrape. The page's own text spares its load, but the URL is needed for its links. -/
structure ScrapeRequest where
  url : Option String
  html : Option String
  data : Spec
  params : Params
  policy : Policy
  fetch : FetchOptions
  login : Option Login

namespace ScrapeRequest

def standard : ScrapeRequest :=
  ⟨none, none, .missing, [], .standard, .standard, none⟩

def decoder : Decoder ScrapeRequest :=
  .record "ScrapeRequest" standard
    [.named "url" (.optional .text) fun u r => { r with url := u },
     .named "html" (.optional .text) fun h r => { r with html := h },
     .named "data" .any fun v r => { r with data := .ofValue v },
     ⟨["params", "parameters"],
      (Decoder.members .any).map fun ms r => { r with params := .ofMembers ms }⟩,
     .named "config" Policy.decoder fun p r => { r with policy := p },
     .named "fetch" FetchOptions.decoder fun o r => { r with fetch := o },
     .named "auth" (.optional Login.decoder) fun l r => { r with login := l }]

end ScrapeRequest

end PageExtract
