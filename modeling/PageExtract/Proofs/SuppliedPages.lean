import PageExtract.Boundary
import PageExtract.Proofs.PageRequests
import PageExtract.Proofs.Utf8

/-!
Where the first page of a scrape comes from. Its text comes with the request, is loaded, or stands
beside a request that is a text itself. Links are followed by plain loads only, so whatever answers
these answers all that a scrape loads after its first page, and the scrape does the same with that
page wherever it came from.
-/

set_option autoImplicit false

namespace PageExtract

open Json (Value)

section

variable {fetch other : Fetch}

theorem Visit.linked_congr (alike : ∀ url, fetch (.get url) = other (.get url)) (policy : Policy)
    (v : Visit) (focus : Focus) (link : Option String) :
    v.linked fetch policy focus link = v.linked other policy focus link := by
  simp only [linked, alike]

/-- An evaluation loads pages by plain requests only. -/
theorem Plan.evaluate_congr (alike : ∀ url, fetch (.get url) = other (.get url)) (policy : Policy)
    (plan : Plan) (v : Visit) (s : Scope) :
    plan.evaluate fetch policy v s = plan.evaluate other policy v s := by
  have runs : ∀ (fs : List (String × Plan)) (v : Visit) (s : Scope),
      (∀ f ∈ fs, ∀ v s, f.2.evaluate fetch policy v s = f.2.evaluate other policy v s) →
      fs.map (fieldRun fetch policy v s) = fs.map (fieldRun other policy v s) := by
    intro fs v s same
    refine List.map_congr_left fun f member => ?_
    rw [fieldRun, fieldRun, same f member]
  have extracted : ∀ (d : Directives) (fs : List (String × Plan)) (v : Visit) (focus : Focus),
      (∀ f ∈ fs, ∀ v s, f.2.evaluate fetch policy v s = f.2.evaluate other policy v s) →
      d.extract fetch policy fs v focus = d.extract other policy fs v focus := by
    intro d fs v focus same
    simp only [Directives.extract, fieldRuns_eq_map, runs fs v (some focus) same]
  induction plan generalizing v s with
  | select selector => rw [evaluate_select, evaluate_select]
  | each elem item ih =>
      rw [evaluate_each, evaluate_each]
      congr 1
      funext ns
      congr 1
      exact List.map_congr_left fun n _ => ih v (itemScope elem s n)
  | directed d fs ih =>
      rw [evaluate_directed, evaluate_directed]
      congr 1
      funext focus
      rw [extracted d fs v focus ih]
  | following d fs link target ih next =>
      rw [evaluate_following, evaluate_following]
      congr 1
      funext focus
      rw [extracted d fs v focus ih]
      congr 1
      funext value
      congr 1
      funext before
      rw [Visit.linked_congr alike]
      congr 1
      funext page
      rw [next page none]
  | fields fs ih =>
      rw [evaluate_fields, evaluate_fields, runs fs v s ih]
  | malformed reason => rw [evaluate_malformed, evaluate_malformed]

theorem evaluatePage_congr (alike : ∀ url, fetch (.get url) = other (.get url)) (policy : Policy)
    (plan : Plan) (url html : String) :
    evaluatePage fetch policy plan url html = evaluatePage other policy plan url html :=
  Run.bind_congr fun page _ => Plan.evaluate_congr alike policy plan page none

end

namespace ScrapeRequest

/-- The request with the text of its first page. -/
def withPage (r : ScrapeRequest) (html : String) : ScrapeRequest :=
  { r with html := some html }

/-- The request without the text of its first page, which is loaded then. -/
def withoutPage (r : ScrapeRequest) : ScrapeRequest :=
  { r with html := none }

end ScrapeRequest

/-- Answers the load of the first page of a scrape with a text, and plain loads and logins as
another fetcher does. -/
structure Fetcher.ServesFirst (served fetcher : Fetcher) (sessions : Sessions) (r : ScrapeRequest)
    (html : String) : Prop where
  first : ∀ url jar, r.url? = some url →
    (sessions.authenticate fetcher.login r.login).1 = .ok jar →
    served.load (r.firstPage url jar) = .ok html
  plain : ∀ url, served.load (.get url) = fetcher.load (.get url)
  login : served.login = fetcher.login

section

variable {fetcher served : Fetcher} {sessions : Sessions} {r : ScrapeRequest} {html : String}

/-- A scrape whose first page is loaded differs from one that has it already by that load alone. -/
theorem scrapePage_withoutPage (plain : ∀ url, served.load (.get url) = fetcher.load (.get url))
    {url : String} {jar : Option Jar} (first : served.load (r.firstPage url jar) = .ok html) :
    scrapePage served.load r.withoutPage url jar =
      ⟨(scrapePage fetcher.load (r.withPage html) url jar).result,
        .request (r.firstPage url jar) none ::
          (scrapePage fetcher.load (r.withPage html) url jar).events⟩ := by
  have loaded : r.withoutPage.pageText served.load url jar =
      ⟨.ok html, [.request (r.firstPage url jar) none]⟩ := by
    have answered : served.load (r.withoutPage.firstPage url jar) = .ok html := first
    simp only [ScrapeRequest.pageText, ScrapeRequest.withoutPage] at answered ⊢
    rw [answered]
    rfl
  have brought : (r.withPage html).pageText fetcher.load url jar = .pure html := rfl
  rw [scrapePage, scrapePage, loaded, brought, Run.pure_bind, Run.bind_of_ok _ _ html rfl]
  have same : evaluatePage served.load r.withoutPage.policy r.withoutPage.plan url html =
      evaluatePage fetcher.load (r.withPage html).policy (r.withPage html).plan url html :=
    evaluatePage_congr plain r.policy r.plan url html
  rw [same]
  rfl

/-- Loaded or brought along, the first page makes no difference to a scrape but for its load. -/
theorem scrape_withoutPage (serves : served.ServesFirst fetcher sessions r html) :
    ∃ logins rest, (∀ e ∈ logins, ∃ l jar, e = Event.login l jar) ∧
      (scrape fetcher sessions (r.withPage html)).1.events = logins ++ rest ∧
      scrape served sessions r.withoutPage =
        (⟨(scrape fetcher sessions (r.withPage html)).1.result,
          logins ++ (r.withoutPage.opening fetcher sessions).map (fun q => Event.request q none) ++
            rest⟩,
          (scrape fetcher sessions (r.withPage html)).2) := by
  cases given : r.url? with
  | none =>
      refine ⟨[], [], fun _ member => absurd member List.not_mem_nil, ?_, ?_⟩
      · rw [scrape_of_no_url _ _ (r.withPage html) given]
        rfl
      · have unopened : r.withoutPage.opening fetcher sessions = [] := by
          have given : r.withoutPage.url? = none := given
          simp only [ScrapeRequest.opening, given]
        rw [scrape_of_no_url _ _ r.withoutPage given, scrape_of_no_url _ _ (r.withPage html) given,
          unopened]
        rfl
  | some url =>
      rcases answered : sessions.authenticate fetcher.login r.login with ⟨outcome, events, after⟩
      have answeredServed :
          sessions.authenticate served.login r.login = (outcome, events, after) := by
        rw [serves.login, answered]
      have areLogins : ∀ e ∈ events, ∃ l jar, e = Event.login l jar := fun e member =>
        Sessions.authenticate_events (by rwa [answered] : e ∈ _)
      have givenLoaded : r.withoutPage.url? = some url := given
      have answeredLoaded : sessions.authenticate fetcher.login r.withoutPage.login =
        (outcome, events, after) := answered
      cases outcome with
      | error cause =>
          refine ⟨events, [], areLogins, ?_, ?_⟩
          · rw [scrape_of_refused _ _ after (r.withPage html) url cause events given answered,
              List.append_nil]
          · have unopened : r.withoutPage.opening fetcher sessions = [] := by
              simp only [ScrapeRequest.opening, givenLoaded, answeredLoaded]
            rw [scrape_of_refused _ _ after r.withoutPage url cause events given answeredServed,
              scrape_of_refused _ _ after (r.withPage html) url cause events given answered,
              unopened, List.map_nil, List.append_nil, List.append_nil]
      | ok jar =>
          have first := serves.first url jar given (by rw [answered])
          refine ⟨events, (scrapePage fetcher.load (r.withPage html) url jar).events, areLogins,
            ?_, ?_⟩
          · rw [scrape_of_accepted _ _ after (r.withPage html) url jar events given answered]
          · have opened : r.withoutPage.opening fetcher sessions = [r.firstPage url jar] := by
              simp only [ScrapeRequest.opening, givenLoaded, answeredLoaded]
              rfl
            rw [scrape_of_accepted _ _ after r.withoutPage url jar events given answeredServed,
              scrape_of_accepted _ _ after (r.withPage html) url jar events given answered,
              scrapePage_withoutPage serves.plain first, opened, List.append_assoc]
            rfl

/-- With the text of the first page at hand, only links lead to requests. -/
theorem request_of_scrape_withPage {q : PageRequest} {link : Option (Visit × Html.NodeId)}
    (member : Event.request q link ∈ (scrape fetcher sessions (r.withPage html)).1.events) :
    link.isSome ∧ q = .get q.url := by
  obtain ⟨logins, areLogins, all⟩ := scrape_events fetcher sessions (r.withPage html)
  have unopened : (r.withPage html).opening fetcher sessions = [] := by
    simp only [ScrapeRequest.opening, ScrapeRequest.withPage]
    split
    · rename_i absent
      cases absent
    · rfl
  rw [all, unopened, List.map_nil, List.append_nil, List.mem_append] at member
  rcases member with login | evaluated
  · obtain ⟨l, jar, impossible⟩ := areLogins _ login
    cases impossible
  · cases called : (r.withPage html).rootCall? fetcher sessions with
    | none =>
        rw [called] at evaluated
        cases evaluated
    | some root =>
        rw [called] at evaluated
        obtain ⟨d, h, _, asks, rfl, rfl⟩ := Call.exists_asks_of_request evaluated
        cases asks with
        | link _ _ _ _ => exact ⟨rfl, rfl⟩

end

namespace Boundary

/-- The bytes of a text are the page that they spell; no bytes at all are the empty text. -/
theorem pageText_of_utf8 {buffer : Option Bytes} {html : String}
    (spelled : buffer.getD [] = Text.utf8 html.toList) : pageText buffer = .ok html := by
  simp only [pageText, spelled, Text.ofUtf8?_utf8, String.ofList_toList]

theorem scrapePageText_of_read (fetcher : Fetcher) (sessions : Sessions) {request buffer : Option Bytes}
    {text html : String} {r : ScrapeRequest} (there : requestText request = .ok text)
    (read : ScrapeRequest.decoder.ofText text = .ok r)
    (spelled : buffer.getD [] = Text.utf8 html.toList) :
    scrapePageText fetcher sessions buffer request =
      ⟨.ofResult (scrape fetcher sessions (r.withPage html)).1.result,
        (scrape fetcher sessions (r.withPage html)).1.events,
        (scrape fetcher sessions (r.withPage html)).2⟩ := by
  simp only [scrapePageText, pageText_of_utf8 spelled, there, perform, read]
  rfl

end Boundary

open Boundary in
/-- A scrape that loads its first page does what it does with that page as part of the request, but
for the one load, for which it needs a URL and an accepted login. A caller that speaks in bytes and
gives the page beside the request, no bytes being the empty page, has the scrape of the request with
this page in place of its own, and then only links lead to requests. -/
theorem first_page_supplied (fetcher : Fetcher) (sessions : Sessions) (r : ScrapeRequest)
    (html : String) :
    let given := scrape fetcher sessions (r.withPage html)
    (∀ served : Fetcher, served.ServesFirst fetcher sessions r html →
      let loaded := scrape served sessions r.withoutPage
      loaded.1.result = given.1.result ∧ loaded.1.diagnostics = given.1.diagnostics ∧
      loaded.2 = given.2 ∧
      ∃ (opening : List PageRequest) (logins rest : List Event),
        opening.length ≤ 1 ∧
        (∀ q, q ∈ opening ↔ ∃ url jar, r.url? = some url ∧
          (sessions.authenticate fetcher.login r.login).1 = .ok jar ∧ q = r.firstPage url jar) ∧
        loaded.1.requests = opening ++ given.1.requests ∧
        (∀ e ∈ logins, ∃ l jar, e = .login l jar) ∧
        given.1.events = logins ++ rest ∧
        loaded.1.events = logins ++ opening.map (fun q => Event.request q none) ++ rest) ∧
    ∀ (request buffer : Option Bytes) (text : String), requestText request = .ok text →
      ScrapeRequest.decoder.ofText text = .ok r → buffer.getD [] = Text.utf8 html.toList →
      let answer := scrapePageText fetcher sessions buffer request
      answer.reply = .ofResult given.1.result ∧ answer.events = given.1.events ∧
      answer.sessions = given.2 ∧
      ∀ q link, Event.request q link ∈ answer.events → link.isSome ∧ q = .get q.url := by
  intro given
  constructor
  · intro served serves loaded
    obtain ⟨logins, rest, areLogins, events, same⟩ := scrape_withoutPage serves
    have isLoaded : loaded = _ := same
    have unrequested : ∀ e ∈ logins, e.request? = none := by
      intro e member
      obtain ⟨l, jar, rfl⟩ := areLogins e member
      rfl
    have openingRequests : ((r.withoutPage.opening fetcher sessions).map fun q =>
        Event.request q none).filterMap Event.request? = r.withoutPage.opening fetcher sessions := by
      rw [List.filterMap_map]
      exact List.filterMap_some
    refine ⟨by rw [isLoaded], ?_, by rw [isLoaded], r.withoutPage.opening fetcher sessions, logins,
      rest, r.withoutPage.length_opening_le fetcher sessions, fun q => ?_, ?_, areLogins, events,
      by rw [isLoaded]⟩
    · rw [isLoaded, Run.diagnostics, Run.diagnostics, events]
      simp only [List.filterMap_append, List.filterMap_map]
      congr 1
      -- a request is no diagnostic
      exact (congrArg _ (List.filterMap_eq_nil_iff.mpr fun _ _ => rfl)).trans (List.append_nil _)
    · rw [ScrapeRequest.mem_opening_iff]
      exact and_iff_right rfl
    · rw [isLoaded, Run.requests_eq_filterMap, Run.requests_eq_filterMap, events]
      simp only [List.filterMap_append, List.filterMap_eq_nil_iff.mpr unrequested, openingRequests,
        List.nil_append]
  · intro request buffer text there read spelled answer
    have isAnswer : answer = _ := scrapePageText_of_read fetcher sessions there read spelled
    rw [isAnswer]
    exact ⟨rfl, rfl, rfl, fun q link member => request_of_scrape_withPage member⟩

open Boundary in
/-- A page that is loaded, or stands beside a request that brings another one. Its second paragraph
links to the page itself, which is loaded either way. -/
theorem first_page_supplied_linkPage :
    let fetcher := Fetcher.ofPages [("a:", linkPage)]
    let text := "\x7b\"url\":\"a:\",\"html\":\"<b>\",\"data\":" ++
      "\x7b\"_elem\":\"p + p\",\"_follow\":\"p\"\x7d\x7d"
    let r := (linkRequest (.map [("_elem", .selector "p + p"), ("_follow", .selector "p")])
      .standard).withPage "<b>"
    let buffer := some (Text.utf8 linkPage.toList)
    fetcher.ServesFirst fetcher .empty r linkPage ∧
      (scrape fetcher .empty r.withoutPage).1.result = .ok (.string "") ∧
      requestText (some (Text.utf8 text.toList)) = .ok text ∧
      ScrapeRequest.decoder.ofText text = .ok r ∧
      (scrapePageText fetcher .empty buffer (some (Text.utf8 text.toList))).reply =
        .ofResult (.ok (.string "")) := by
  intro fetcher text r buffer
  have serves : fetcher.ServesFirst fetcher .empty r linkPage := by
    refine ⟨fun url jar given _ => ?_, fun _ => rfl, rfl⟩
    obtain rfl : "a:" = url := Option.some.inj given
    rfl
  have there : requestText (some (Text.utf8 text.toList)) = .ok text := by cbv
  have read : ScrapeRequest.decoder.ofText text = .ok r := by cbv
  have narrowed : ((linkVisit 0).narrow (some "p + p") none).result = .ok ⟨5, some "p + p"⟩ := by
    rfl
  have evaluated : (r.plan.evaluate fetcher.load r.policy (linkVisit 0) none).result =
      .ok (.string "") := by
    have normal : r.plan = .following ⟨some "p + p", none, none⟩ [] none (.select (some "p")) := by
      rfl
    rw [normal, Plan.evaluate_following_of_linked narrowed rfl rfl
      (linked_linkPage r.policy 0 (some "p + p") (by decide))]
    rfl
  have given : (scrape fetcher .empty (r.withPage linkPage)).1.result = .ok (.string "") := by
    have opened := firstVisit_linkRequest fetcher .empty
      (.map [("_elem", .selector "p + p"), ("_follow", .selector "p")]) .standard
    rw [scrape_result_of_firstVisit _ _ (r.withPage linkPage) _ opened]
    have same : (absorb r.policy (r.plan.evaluate fetcher.load r.policy (linkVisit 0) none)).result =
        (absorb r.policy (.pure (.string ""))).result := absorb_result_congr _ evaluated
    exact same
  obtain ⟨loaded, beside⟩ := first_page_supplied fetcher .empty r linkPage
  obtain ⟨reply, _⟩ := beside (some (Text.utf8 text.toList)) buffer text there read rfl
  refine ⟨serves, ?_, there, read, ?_⟩
  · rw [(loaded fetcher serves).1, given]
  · rw [reply, given]

end PageExtract
