import PageExtract.Proofs.Hops

/-!
The page requests of a scrape. Only the load of its first page carries the options of the caller and
a session. All that follow were asked for because of a link, and are plain loads of its target.
-/

set_option autoImplicit false

namespace PageExtract

open Json (Value)

theorem Sessions.authenticate_events {service : LoginService} {sessions : Sessions}
    {login : Option Login} {e : Event} (member : e ∈ (sessions.authenticate service login).2.1) :
    ∃ l jar, e = .login l jar := by
  simp only [authenticate] at member
  split at member
  · cases member
  · exact ⟨_, _, List.mem_singleton.mp member⟩

theorem absorb_events (policy : Policy) (run : Run Value) :
    (absorb policy run).events = run.events := by
  simp only [absorb]
  split
  · split <;> rfl
  · rfl

namespace ScrapeRequest

variable (fetcher : Fetcher) (sessions : Sessions) (r : ScrapeRequest)

/-- The load of the first page, if the scrape comes to it and doesn't have the page already. -/
def opening : List PageRequest :=
  match r.url?, (sessions.authenticate fetcher.login r.login).1, r.html with
  | some url, .ok jar, none => [r.firstPage url jar]
  | _, _, _ => []

theorem mem_opening_iff (q : PageRequest) :
    q ∈ r.opening fetcher sessions ↔ r.html = none ∧ ∃ url jar, r.url? = some url ∧
      (sessions.authenticate fetcher.login r.login).1 = .ok jar ∧ q = ⟨url, some r.fetch, jar⟩ := by
  simp only [opening]
  split
  · rename_i url jar given accepted absent
    simp [absent, given, accepted, firstPage]
  · rename_i others
    constructor
    · intro impossible
      cases impossible
    · rintro ⟨absent, url, jar, given, accepted, _⟩
      exact absurd absent (others url jar given accepted)

theorem length_opening_le : (r.opening fetcher sessions).length ≤ 1 := by
  simp only [opening]
  split
  · exact Nat.le_refl 1
  · exact Nat.zero_le 1

theorem pageText_events (load : Fetch) (url : String) (jar : Option Jar) :
    (r.pageText load url jar).events =
      match r.html with
      | some _ => []
      | none => [.request (r.firstPage url jar) none] := by
  cases brought : r.html with
  | some html => simp only [pageText, brought, Run.pure_events]
  | none =>
      simp only [pageText, brought]
      cases load (r.firstPage url jar) <;> rfl

end ScrapeRequest

/-- What happens once the session is known: the first page is loaded, and evaluated. -/
theorem scrapePage_events (load : Fetch) (r : ScrapeRequest) (url : String) (jar : Option Jar) :
    (scrapePage load r url jar).events = (r.pageText load url jar).events ++
      match ((r.pageText load url jar).bind fun html => Visit.start url html 0).result with
      | .ok v => (r.plan.evaluate load r.policy v none).events
      | .error _ => [] := by
  simp only [scrapePage]
  cases text : (r.pageText load url jar).result with
  | error e =>
      rw [Run.bind_of_error _ _ e text, Run.bind_of_error _ _ e text, List.append_nil]
  | ok html =>
      rw [Run.bind_of_ok _ _ html text, Run.bind_of_ok _ _ html text]
      simp only [absorb_events, evaluatePage]
      cases started : (Visit.start url html 0).result with
      | error e => rw [Run.bind_of_error _ _ e started, Visit.start_events]
      | ok v => rw [Run.bind_of_ok _ _ v started, Visit.start_events, List.nil_append]

/-- All that happens in a scrape: logins, the load of its first page and the evaluation there. -/
theorem scrape_events (fetcher : Fetcher) (sessions : Sessions) (r : ScrapeRequest) :
    ∃ logins, (∀ e ∈ logins, ∃ l jar, e = .login l jar) ∧
      (scrape fetcher sessions r).1.events =
        logins ++ (r.opening fetcher sessions).map (fun q => Event.request q none) ++
          match r.rootCall? fetcher sessions with
          | some root => (root.run fetcher.load r.policy).events
          | none => [] := by
  cases given : r.url? with
  | none =>
      refine ⟨[], fun _ member => absurd member List.not_mem_nil, ?_⟩
      simp only [scrape_of_no_url _ _ r given, ScrapeRequest.opening, ScrapeRequest.rootCall?,
        ScrapeRequest.firstVisit?, given]
      rfl
  | some url =>
      rcases answered : sessions.authenticate fetcher.login r.login with ⟨outcome, events, after⟩
      refine ⟨events, fun e member => ?_, ?_⟩
      · apply Sessions.authenticate_events
        rwa [answered]
      · cases outcome with
        | error cause =>
            rw [scrape_of_refused _ _ after r url cause events given answered]
            simp [ScrapeRequest.opening, ScrapeRequest.rootCall?, ScrapeRequest.firstVisit?, given,
              answered]
        | ok jar =>
            rw [scrape_of_accepted _ _ after r url jar events given answered]
            have opened : (r.pageText fetcher.load url jar).events =
                (r.opening fetcher sessions).map fun q => Event.request q none := by
              rw [ScrapeRequest.pageText_events]
              cases brought : r.html <;> simp [ScrapeRequest.opening, brought, given, answered]
            simp only [scrapePage_events, opened, ScrapeRequest.rootCall?,
              ScrapeRequest.firstVisit?, given, answered, List.append_assoc]
            cases ((r.pageText fetcher.load url jar).bind fun html => Visit.start url html 0).result
              <;> rfl

section

variable (fetcher : Fetcher) (sessions : Sessions) (r : ScrapeRequest)

/-- What is kept of the events of a scrape, when logins don't count. -/
theorem filterMap_scrape_events {α : Type} (kept : Event → Option α)
    (noLogin : ∀ l jar, kept (.login l jar) = none) :
    (scrape fetcher sessions r).1.events.filterMap kept =
      ((r.opening fetcher sessions).filterMap fun q => kept (.request q none)) ++
        match r.rootCall? fetcher sessions with
        | some root => (root.run fetcher.load r.policy).events.filterMap kept
        | none => [] := by
  obtain ⟨logins, areLogins, all⟩ := scrape_events fetcher sessions r
  have dropped : logins.filterMap kept = [] := by
    rw [List.filterMap_eq_nil_iff]
    intro e member
    obtain ⟨l, jar, rfl⟩ := areLogins e member
    exact noLogin l jar
  rw [all, List.filterMap_append, List.filterMap_append, dropped, List.nil_append,
    List.filterMap_map]
  cases r.rootCall? fetcher sessions <;> rfl

theorem hops_scrape : (scrape fetcher sessions r).1.hops =
    match r.rootCall? fetcher sessions with
    | some root => (root.run fetcher.load r.policy).hops
    | none => [] := by
  have opening :
      ((r.opening fetcher sessions).filterMap fun q => (Event.request q none).hop?) = [] :=
    List.filterMap_eq_nil_iff.mpr fun _ _ => rfl
  rw [Run.hops, filterMap_scrape_events fetcher sessions r _ fun _ _ => rfl, opening,
    List.nil_append]
  rfl

theorem requests_scrape : (scrape fetcher sessions r).1.requests = r.opening fetcher sessions ++
    match r.rootCall? fetcher sessions with
    | some root => (root.run fetcher.load r.policy).requests
    | none => [] := by
  have opening : ((r.opening fetcher sessions).filterMap fun q => (Event.request q none).request?) =
      r.opening fetcher sessions := List.filterMap_some
  rw [Run.requests_eq_filterMap, filterMap_scrape_events fetcher sessions r _ fun _ _ => rfl,
    opening]
  rfl

theorem mem_hops_scrape_iff {h : Hop} : h ∈ (scrape fetcher sessions r).1.hops ↔
    ∃ c, r.Reaches fetcher sessions c ∧ c.Asks fetcher.load r.policy h := by
  rw [hops_scrape]
  simp only [ScrapeRequest.Reaches]
  cases r.rootCall? fetcher sessions with
  | none => simp
  | some root => simp [Call.mem_hops_iff]

theorem ScrapeRequest.Reaches.arrives {c : Call} (reached : r.Reaches fetcher sessions c) :
    ∃ first k, r.firstVisit? fetcher sessions = some first ∧
      Arrives fetcher.load (scrape fetcher sessions r).1.hops first k c.visit := by
  obtain ⟨root, called, below⟩ := reached
  obtain ⟨k, arrives⟩ := below.arrives
  rw [hops_scrape, called]
  obtain ⟨first, opened, rfl⟩ := Option.map_eq_some_iff.mp called
  exact ⟨first, k, opened, arrives⟩

end

/-- The target of a link is what the accessor of links takes from its element. -/
theorem Accessor.value_href_of_linkTarget {page : Page} {e : Html.Element} {url : String}
    (target : linkTarget? page e = some url) (d : Html.Document) (n : Html.NodeId) :
    value page d n e .href = .string url := by
  simp only [linkTarget?] at target
  split at target
  · rename_i link present
    split at target
    · cases target
    · cases target
      simp only [value, present, Option.map_some, ofOption]
  · cases target

/-- A scrape first loads its first page, with the options of the caller and the session if there is
one, unless it fails before or has the page already. All else that it asks for are plain loads of
what a link on a page leads to, without options or session, that page being the first or one that
came in the same way. -/
theorem scrape_requests (fetcher : Fetcher) (sessions : Sessions) (r : ScrapeRequest) :
    let run := (scrape fetcher sessions r).1
    ∃ opening : List PageRequest,
      run.requests = opening ++ run.hops.map Hop.request ∧
      opening.length ≤ 1 ∧
      (∀ q, q ∈ opening ↔ r.html = none ∧ ∃ url jar, r.url? = some url ∧
        (sessions.authenticate fetcher.login r.login).1 = .ok jar ∧
        q = ⟨url, some r.fetch, jar⟩) ∧
      ∀ h ∈ run.hops, ∃ url e, h.request = ⟨url, none, none⟩ ∧
        h.visit.document.element? h.element = some e ∧
        Accessor.value h.visit.page h.visit.document h.element e .href = .string url ∧
        ∃ first k, r.firstVisit? fetcher sessions = some first ∧
          Arrives fetcher.load run.hops first k h.visit := by
  intro run
  refine ⟨r.opening fetcher sessions, ?_, r.length_opening_le fetcher sessions,
    r.mem_opening_iff fetcher sessions, ?_⟩
  · simp only [run, requests_scrape, hops_scrape]
    cases r.rootCall? fetcher sessions with
    | none => rfl
    | some root => simp only [Call.requests_eq_map_hops]
  · intro h member
    obtain ⟨c, reached, asks⟩ := (mem_hops_scrape_iff fetcher sessions r).mp member
    have arrived := ScrapeRequest.Reaches.arrives fetcher sessions r reached
    cases asks with
    | @link _ _ _ _ v _ _ _ n url narrowed extracted admitted links =>
        obtain ⟨e, there, target⟩ := Option.bind_eq_some_iff.mp links.aimed
        exact ⟨url, e, rfl, there, Accessor.value_href_of_linkTarget target _ _, arrived⟩

/-- A login and a header go with the load of the page, and not with that of the page that its link
leads to, which is the same one. -/
theorem scrape_requests_linkPage :
    let data : Spec := .map [("_elem", .selector "p + p"), ("_follow", .selector "p")]
    let options : FetchOptions := { FetchOptions.standard with headers := [("X-Token", "t")] }
    let login : Login := { Login.standard with session := some "s", url := some "a:" }
    let fetcher : Fetcher := { Fetcher.ofPages [("a:", linkPage)] with login := fun _ _ => .ok () }
    let r : ScrapeRequest :=
      { linkRequest data .standard with html := none, fetch := options, login := some login }
    let run := (scrape fetcher .empty r).1
    let h : Hop := ⟨.get "a:", linkVisit 0, 5⟩
    ⟨"a:", some options, some 0⟩ ∈ run.requests ∧ h ∈ run.hops ∧
      ∃ e, (linkVisit 0).document.element? 5 = some e ∧
        Accessor.value (linkVisit 0).page (linkVisit 0).document 5 e .href = .string "a:" := by
  intro data options login fetcher r run h
  have loaded : ((r.pageText fetcher.load "a:" (some 0)).bind
      fun html => Visit.start "a:" html 0).result = .ok (linkVisit 0) :=
    (Run.bind_ok_iff _ _ _).mpr ⟨linkPage, by rfl, start_linkPage 0⟩
  have given : r.url? = some "a:" := by rfl
  have accepted : (Sessions.empty.authenticate fetcher.login r.login).1 = .ok (some 0) := by rfl
  have called : r.rootCall? fetcher .empty = some ⟨r.plan, linkVisit 0, none⟩ := by
    simp only [ScrapeRequest.rootCall?, ScrapeRequest.firstVisit?, given, accepted, loaded,
      Option.map_some]
  have narrowed : ((linkVisit 0).narrow (some "p + p") none).result = .ok ⟨5, some "p + p"⟩ := by
    rfl
  have member : h ∈ run.hops := (mem_hops_scrape_iff fetcher .empty r).mpr
    ⟨_, ⟨_, called, .refl⟩, .link narrowed rfl rfl ⟨rfl, rfl, by decide⟩⟩
  obtain ⟨opening, all, _, opens, follows⟩ := scrape_requests fetcher .empty r
  obtain ⟨url, e, same, there, value, _⟩ := follows h member
  cases same
  refine ⟨?_, member, e, there, value⟩
  rw [all]
  exact List.mem_append_left _ ((opens _).mpr ⟨rfl, "a:", some 0, given, accepted, rfl⟩)

end PageExtract
