import PageExtract.Scrape

/-!
Scrapes for callers that speak in bytes: a request is the JSON text before a byte of zero, and an
answer is the JSON text of the value or a message, neither of which holds a character NUL.
-/

set_option autoImplicit false

namespace PageExtract.Boundary

open Json (Decoder Value)

abbrev Bytes := List UInt8

/-- Exactly one of both is there. -/
structure Reply where
  json : Option String
  error : Option String
  deriving DecidableEq, Repr

def Reply.failed (message : String) : Reply :=
  ⟨none, some (String.ofList (message.toList.map fun c => if c = '\x00' then ' ' else c))⟩

def Reply.ofValue (v : Value) : Reply :=
  if v.text.toList.contains '\x00' then .failed "Result JSON contains null bytes"
  else ⟨some v.text, none⟩

def Reply.ofResult : Except Failure Value → Reply
  | .ok v => .ofValue v
  | .error e => .failed e.message

structure Answer where
  reply : Reply
  events : List Event
  sessions : Sessions

/-- The text before a byte of zero. -/
def requestText (request : Option Bytes) : Except String String :=
  match request with
  | none => .error "Request JSON is null"
  | some bytes =>
    match Text.ofUtf8? (bytes.takeWhile (· != 0)) with
    | some cs => .ok (String.ofList cs)
    | none => .error "Invalid UTF-8 in request JSON"

/-- The text of a page; no bytes at all are an empty page. -/
def pageText (html : Option Bytes) : Except String String :=
  match Text.ofUtf8? (html.getD []) with
  | some cs => .ok (String.ofList cs)
  | none => .error "Invalid UTF-8 in HTML content"

/-- Runs a request, with a page in place of its own if one is given. -/
def perform (fetcher : Fetcher) (sessions : Sessions) (text : String) (html : Option String) :
    Answer :=
  match ScrapeRequest.decoder.ofText text with
  | .error fault => ⟨.failed ("Failed to parse request JSON: " ++ fault.message), [], sessions⟩
  | .ok r =>
    let (run, after) := scrape fetcher sessions { r with html := html.or r.html }
    ⟨.ofResult run.result, run.events, after⟩

def scrapeText (fetcher : Fetcher) (sessions : Sessions) (request : Option Bytes) : Answer :=
  match requestText request with
  | .error message => ⟨.failed message, [], sessions⟩
  | .ok text => perform fetcher sessions text none

/-- The page is read before the request. -/
def scrapePageText (fetcher : Fetcher) (sessions : Sessions) (html request : Option Bytes) : Answer :=
  match pageText html with
  | .error message => ⟨.failed message, [], sessions⟩
  | .ok page =>
    match requestText request with
    | .error message => ⟨.failed message, [], sessions⟩
    | .ok text => perform fetcher sessions text (some page)

end PageExtract.Boundary
