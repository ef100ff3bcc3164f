import PageExtract.Scrape

/-!
Requests over HTTP up to the point where they are sent. Main definitions: `Client.make`, which
refuses settings that no request can carry, and `Outgoing.prepare`, which refuses requests that
can't be sent.
-/

set_option autoImplicit false

namespace PageExtract.Http

open Json (Decoder)

structure Settings where
  userAgent : String
  timeoutSeconds : Nat
  maxRedirects : Nat
  deriving DecidableEq, Repr

namespace Settings

def standard : Settings :=
  ⟨"spec-scraper/0.1.0", 30, 10⟩

def decoder : Decoder Settings :=
  .record "HttpConfig" standard
    [.named "userAgent" .text fun u s => { s with userAgent := u },
     .named "timeoutSeconds" (.count "u64") fun n s => { s with timeoutSeconds := n },
     .named "maxRedirects" (.count "usize") fun n s => { s with maxRedirects := n }]

end Settings

/-- The characters of methods and header names. -/
def isTokenChar (c : Char) : Bool :=
  c.isAlphanum || ['!', '#', '$', '%', '&', '\'', '*', '+', '-', '.', '^', '_', '\x60', '|', '~'].contains c

def isToken (s : List Char) : Bool :=
  !s.isEmpty && s.all isTokenChar

/-- Header values hold no control characters but tabs. -/
def isHeaderValue (s : String) : Bool :=
  s.toList.all fun c => c == '\t' || (0x20 ≤ c.toNat && c.toNat != 0x7F)

/-- The upper case of a character, where that is in ASCII; others stay as they are. -/
def upperChars (c : Char) : List Char :=
  match c with
  | 'ß' => ['S', 'S']
  | 'ı' => ['I']
  | 'ſ' => ['S']
  | 'ﬀ' => ['F', 'F']
  | 'ﬁ' => ['F', 'I']
  | 'ﬂ' => ['F', 'L']
  | 'ﬃ' => ['F', 'F', 'I']
  | 'ﬄ' => ['F', 'F', 'L']
  | 'ﬅ' => ['S', 'T']
  | 'ﬆ' => ['S', 'T']
  | c => [c.toUpper]

/-- The method of a request, in upper case. -/
def method (standard : String) (named : Option String) : Except FetchFailure String :=
  match named with
  | none => .ok standard
  | some m =>
    let upper := m.toList.flatMap upperChars
    if isToken upper then .ok (String.ofList upper) else .error (.invalidMethod m)

/-- A request that can be sent. -/
structure Outgoing where
  method : String
  url : Url
  headers : Texts
  form : Option Texts
  session : Option Jar
  deriving DecidableEq, Repr

/-- The URL as it is sent: user and password go into a header, where they are texts. -/
def sentUrl (u : Url) : Url :=
  match u.authority with
  | none => u
  | some a =>
    let isText (s : List Char) : Bool := (Text.ofUtf8? (Url.decodedBytes s)).isSome
    if isText a.user && (!a.user.isEmpty || (!a.password.isEmpty && isText a.password)) then
      u.withoutCredentials
    else u

def isHeader (h : String × String) : Bool :=
  isToken h.1.toList && isHeaderValue h.2

/-- Checks, in this order, that the URL can be read and has a host, that the headers are sound, and
that the scheme is one of HTTP. -/
def Outgoing.prepare (method url : String) (headers : Texts) (form : Option Texts)
    (session : Option Jar) : Except FetchFailure Outgoing :=
  match Url.read url with
  | .error _ => .error (.request url none)
  | .ok u =>
    let sent := sentUrl u
    if u.host?.isNone then .error (.request url (some u.text))
    else if !headers.all isHeader then .error (.request url none)
    else if u.scheme ≠ "http" ∧ u.scheme ≠ "https" then .error (.request url (some sent.text))
    else .ok ⟨method, sent, headers, form, session⟩

/-- What sends a request and gives the text of the page. -/
abbrev Transport := Outgoing → Except FetchFailure String

/-- A client whose settings requests can carry. -/
structure Client where
  settings : Settings
  transport : Transport

namespace Client

def make (settings : Settings) (transport : Transport) : Except FetchFailure Client :=
  if isHeaderValue settings.userAgent then .ok ⟨settings, transport⟩ else .error .client

def load (c : Client) (r : PageRequest) : Except FetchFailure String :=
  let options := r.options.getD .standard
  match method "GET" options.method with
  | .error cause => .error cause
  | .ok m =>
    match Outgoing.prepare m r.url options.headers options.form r.session with
    | .error cause => .error cause
    | .ok outgoing => c.transport outgoing

def login (c : Client) (l : Login) (jar : Jar) : Except FetchFailure Unit :=
  match method "POST" l.method with
  | .error cause => .error cause
  | .ok m =>
    match Outgoing.prepare m (l.url.getD "") l.headers l.form (some jar) with
    | .error cause => .error cause
    | .ok outgoing => (c.transport outgoing).map fun _ => ()

def fetcher (c : Client) : Fetcher :=
  ⟨c.load, c.login⟩

end Client

/-- A scrape with sessions of its own. -/
def scrapeOnce (settings : Settings) (transport : Transport) (r : ScrapeRequest) :
    Run Json.Value :=
  match Client.make settings transport with
  | .error cause => .fail (.fetch cause)
  | .ok client => (scrape client.fetcher .empty r).1

end PageExtract.Http
