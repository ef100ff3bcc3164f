import Mathlib
import PageExtract.Proofs.Evaluations
import PageExtract.Scrape

/-!
The parts of a scrape. A scrape ends before its page if it has no URL or its login is refused; else
it is the load of its first page and the evaluation there, `ScrapeRequest.firstVisit?` being that
page.
-/

set_option autoImplicit false

namespace PageExtract

open Json (Value)

variable (fetcher : Fetcher) (sessions after : Sessions) (r : ScrapeRequest)

theorem scrape_of_no_url (absent : r.url? = none) :
    scrape fetcher sessions r = (.fail (.configuration .missingUrl), sessions) := by
  simp only [scrape, absent]

theorem scrape_of_refused (url : String) (cause : AuthFailure) (events : List Event)
    (given : r.url? = some url)
    (refused : sessions.authenticate fetcher.login r.login = (.error cause, events, after)) :
    scrape fetcher sessions r = (⟨.error (.auth cause), events⟩, after) := by
  simp only [scrape, given, refused]

theorem scrape_of_accepted (url : String) (jar : Option Jar) (events : List Event)
    (given : r.url? = some url)
    (accepted : sessions.authenticate fetcher.login r.login = (.ok jar, events, after)) :
    scrape fetcher sessions r =
      (⟨(scrapePage fetcher.load r url jar).result,
        events ++ (scrapePage fetcher.load r url jar).events⟩, after) := by
  simp only [scrape, given, accepted]

/-- The page that a scrape evaluates its spec on, unless it ends before. -/
def ScrapeRequest.firstVisit? : Option Visit :=
  match r.url?, (sessions.authenticate fetcher.login r.login).1 with
  | some url, .ok jar =>
    match ((r.pageText fetcher.load url jar).bind fun html => Visit.start url html 0).result with
    | .ok v => some v
    | .error _ => none
  | _, _ => none

theorem absorb_result_congr (policy : Policy) {first second : Run Value}
    (same : first.result = second.result) :
    (absorb policy first).result = (absorb policy second).result := by
  simp only [absorb, same]
  split
  · split
    · rfl
    · exact same
  · exact same

/-- A failure that no policy turns into a value leaves a scrape as it came out of the evaluation. -/
theorem absorb_isFatal {policy : Policy} {run : Run Value} (fatal : run.IsFatal) :
    (absorb policy run).IsFatal := by
  obtain ⟨e, failed, severe⟩ := fatal
  refine ⟨e, ?_, severe⟩
  simp [absorb, failed, severe]

/-- Once its first page is there, a scrape comes to what the evaluation on it comes to. -/
theorem scrape_result_of_firstVisit (v : Visit) (opened : r.firstVisit? fetcher sessions = some v) :
    (scrape fetcher sessions r).1.result =
      (absorb r.policy (r.plan.evaluate fetcher.load r.policy v none)).result := by
  simp only [ScrapeRequest.firstVisit?] at opened
  split at opened
  · rename_i url jar given accepted
    split at opened
    · rename_i page loaded
      cases opened
      obtain ⟨html, text, started⟩ := (Run.bind_ok_iff _ _ _).mp loaded
      rw [scrape_of_accepted fetcher sessions _ r url jar _ given (Prod.ext accepted rfl)]
      simp only [scrapePage, Run.bind_of_ok _ _ html text]
      apply absorb_result_congr
      simp only [evaluatePage, Run.bind_of_ok _ _ v started]
    · cases opened
  · cases opened

/-- Serves pages by their URL and accepts no login. -/
def Fetcher.ofPages (pages : List (String × String)) : Fetcher where
  load q :=
    match Entries.get? q.url pages with
    | some html => .ok html
    | none => .error (.notFound q.url)
  login _ _ := .error .loginUnsupported

/-- A page of two paragraphs of which the second has a link to the page itself. -/
def linkPage : String := "<p><p href=a:>"

def linkDocument : Html.Document where
  nodes := #[⟨.document, none, [1]⟩, ⟨.element ⟨.html, "html", []⟩, some 0, [2, 3]⟩,
    ⟨.element ⟨.html, "head", []⟩, some 1, []⟩, ⟨.element ⟨.html, "body", []⟩, some 1, [4, 5]⟩,
    ⟨.element ⟨.html, "p", []⟩, some 3, []⟩,
    ⟨.element ⟨.html, "p", [⟨.none, "href", "a:"⟩]⟩, some 3, []⟩]

theorem read_linkPage : Html.Document.read linkPage = linkDocument := by
  cbv

/-- A visit of the page after a number of follows. -/
def linkVisit (depth : Nat) : Visit where
  page := .ofUrl ⟨"a", none, .unstructured [], none, none⟩
  document := linkDocument
  depth := depth

theorem start_linkPage (depth : Nat) :
    (Visit.start "a:" linkPage depth).result = .ok (linkVisit depth) := by
  have address : Page.read "a:" = .ok (linkVisit depth).page := by rfl
  simp only [Visit.start, address, read_linkPage]
  rfl

/-- The link of the second paragraph leads to the page again. -/
theorem linked_linkPage (policy : Policy) (depth : Nat) (selector : Option String)
    (shallow : depth < policy.maxFollowDepth) :
    ((linkVisit depth).linked (Fetcher.ofPages [("a:", linkPage)]).load policy ⟨5, selector⟩
      none).result = .ok (linkVisit (depth + 1)) := by
  have target : ((linkVisit depth).document.element? 5).bind
      (Accessor.linkTarget? (linkVisit depth).page) = some "a:" := by rfl
  have served : (Fetcher.ofPages [("a:", linkPage)]).load (.get "a:") = .ok linkPage := by rfl
  have within : ¬ policy.maxFollowDepth ≤ (linkVisit depth).depth := Nat.not_le.mpr shallow
  simp only [Visit.linked, Visit.linkElement, Run.pure_bind, Run.bind_result, target, within,
    ↓reduceIte, served]
  exact start_linkPage (depth + 1)

/-- A request to evaluate a spec on the page. -/
def linkRequest (data : Spec) (policy : Policy) : ScrapeRequest :=
  { ScrapeRequest.standard with
    url := some "a:", html := some linkPage, data := data, policy := policy }

theorem firstVisit_linkRequest (data : Spec) (policy : Policy) :
    (linkRequest data policy).firstVisit? fetcher sessions = some (linkVisit 0) := by
  have given : (linkRequest data policy).url? = some "a:" := by rfl
  have loaded : (((linkRequest data policy).pageText fetcher.load "a:" none).bind
      fun html => Visit.start "a:" html 0).result = .ok (linkVisit 0) :=
    (Run.bind_ok_iff _ _ _).mpr ⟨linkPage, rfl, start_linkPage 0⟩
  have accepted :
      (sessions.authenticate fetcher.login (linkRequest data policy).login).1 = .ok none := rfl
  simp only [ScrapeRequest.firstVisit?, given, accepted, loaded]

end PageExtract
