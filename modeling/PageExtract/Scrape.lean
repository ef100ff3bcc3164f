import PageExtract.Evaluation
import PageExtract.Session
import PageExtract.Substitution

/-!
Whole scrapes: authentication, the first page, and the evaluation of the spec on it. Main
definition: `scrape`.
-/

set_option autoImplicit false

namespace PageExtract

open Json (Value)

/-- What loads pages and answers for logins. -/
structure Fetcher where
  load : Fetch
  login : LoginService

namespace ScrapeRequest

/-- The URL, unless it is blank. -/
def url? (r : ScrapeRequest) : Option String :=
  match r.url with
  | some url => if Text.isAllBlank url then none else some url
  | none => none

/-- What is evaluated: the spec with its placeholders filled in. -/
def plan (r : ScrapeRequest) : Plan :=
  .ofSpec (r.data.substitute r.params)

/-- The load of the first page, the only one with options and a session. -/
def firstPage (r : ScrapeRequest) (url : String) (jar : Option Jar) : PageRequest :=
  ⟨url, some r.fetch, jar⟩

/-- The text of the first page, loaded unless the request brings it. -/
def pageText (load : Fetch) (r : ScrapeRequest) (url : String) (jar : Option Jar) : Run String :=
  match r.html with
  | some html => .pure html
  | none =>
    (Run.emit (.request (r.firstPage url jar) none)).bind fun _ =>
      match load (r.firstPage url jar) with
      | .ok html => .pure html
      | .error cause => .fail (.fetch cause)

end ScrapeRequest

/-- Nothing encloses the spec as a whole, so only `testing` turns its failure into a value. -/
def absorb (policy : Policy) (r : Run Value) : Run Value :=
  match r.result with
  | .error e =>
    if policy.testing && e.isRecoverable then { r with result := .ok (.string e.message) } else r
  | .ok _ => r

/-- The evaluation of a plan on a page that no link led to. -/
def evaluatePage (load : Fetch) (policy : Policy) (plan : Plan) (url html : String) : Run Value :=
  (Visit.start url html 0).bind fun page => plan.evaluate load policy page none

/-- A scrape once its session is known. -/
def scrapePage (load : Fetch) (r : ScrapeRequest) (url : String) (jar : Option Jar) : Run Value :=
  (r.pageText load url jar).bind fun html =>
    absorb r.policy (evaluatePage load r.policy r.plan url html)

/-- One scrape, and the sessions after it. -/
def scrape (fetcher : Fetcher) (sessions : Sessions) (r : ScrapeRequest) : Run Value × Sessions :=
  match r.url? with
  | none => (.fail (.configuration .missingUrl), sessions)
  | some url =>
    match sessions.authenticate fetcher.login r.login with
    | (.error cause, events, sessions) => (⟨.error (.auth cause), events⟩, sessions)
    | (.ok jar, events, sessions) =>
      let page := scrapePage fetcher.load r url jar
      (⟨page.result, events ++ page.events⟩, sessions)

end PageExtract
