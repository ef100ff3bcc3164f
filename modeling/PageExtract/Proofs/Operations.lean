import PageExtract.Proofs.Authentications
import PageExtract.Proofs.PageRequests

/-!
Operations on the sessions of one scraper, one after the other: scrapes, authentications, and
entries that are looked up, set and removed. An operation does what its authentication does, and
goes on with the jar that this came to. Only the opening of a session and the setting and removing
of its entry change what is stored for it. Main definitions: `Use.perform` and
`Sessions.transcript`.
-/

set_option autoImplicit false

namespace PageExtract

open Json (Value)

inductive Operation where
  | scrape (r : ScrapeRequest)
  | authenticate (login : Option Login)
  | get (id : String)
  | put (id : String) (jar : Jar)
  | remove (id : String)

namespace Operation

/-- The login, if there is one, with which an operation authenticates, if it comes to that. -/
def authentication? : Operation → Option (Option Login)
  | .scrape r => r.url?.map fun _ => r.login
  | .authenticate login => some login
  | .get _ => none
  | .put _ _ => none
  | .remove _ => none

/-- The session that an operation names. -/
def session? : Operation → Option String
  | .scrape r => r.login.bind fun l => Sessions.given? l.session
  | .authenticate login => login.bind fun l => Sessions.given? l.session
  | .get id => some id
  | .put id _ => some id
  | .remove id => some id

/-- The operation authenticates with this login. -/
def Presents (o : Operation) (l : Login) : Prop :=
  o.authentication? = some (some l)

/-- The operation sets the entry of a session. -/
def Stores (o : Operation) (id : String) : Prop :=
  ∃ jar, o = .put id jar

/-- The operation sets or removes the entry of a session. -/
def Edits (o : Operation) (id : String) : Prop :=
  o.Stores id ∨ o = .remove id

theorem Edits.session? {o : Operation} {id : String} (edits : o.Edits id) :
    o.session? = some id := by
  rcases edits with ⟨jar, rfl⟩ | rfl <;> rfl

/-- The session that an authentication is for is the one that its operation names. -/
theorem session?_of_authentication {o : Operation} {login : Option Login}
    (asks : o.authentication? = some login) :
    o.session? = login.bind fun l => Sessions.given? l.session := by
  cases o with
  | scrape r =>
      obtain ⟨_, _, rfl⟩ := Option.map_eq_some_iff.mp asks
      rfl
  | authenticate login =>
      cases asks
      rfl
  | _ => cases asks

end Operation

/-- An operation, with the fetcher as it answers while the operation lasts. -/
structure Use where
  fetcher : Fetcher
  operation : Operation

/-- What the caller of an operation gets. -/
inductive Outcome where
  | scraped (result : Except Failure Value)
  | authenticated (result : Except AuthFailure (Option Jar))
  | found (jar : Option Jar)
  | stored

/-- What an operation came to, and what happened on the way. -/
structure Performance where
  outcome : Outcome
  events : List Event

namespace Use

/-- Performs an operation, and gives the sessions after it. -/
def perform (u : Use) (s : Sessions) : Performance × Sessions :=
  match u.operation with
  | .scrape r =>
    let (run, after) := PageExtract.scrape u.fetcher s r
    (⟨.scraped run.result, run.events⟩, after)
  | .authenticate login =>
    let (result, events, after) := s.authenticate u.fetcher.login login
    (⟨.authenticated result, events⟩, after)
  | .get id => (⟨.found (s.get? id), []⟩, s)
  | .put id jar => (⟨.stored, []⟩, s.put id jar)
  | .remove id => (⟨.found (s.get? id), []⟩, s.remove id)

/-- How an operation goes on after its authentication. -/
def resume (u : Use) (result : Except AuthFailure (Option Jar)) : Performance :=
  match u.operation, result with
  | .scrape r, .ok jar =>
    let page := scrapePage u.fetcher.load r (r.url?.getD "") jar
    ⟨.scraped page.result, page.events⟩
  | .scrape _, .error cause => ⟨.scraped (.error (.auth cause)), []⟩
  | _, result => ⟨.authenticated result, []⟩

variable {u : Use} {s : Sessions}

/-- An operation that authenticates first does that. -/
theorem perform_of_authentication {login : Option Login} {result : Except AuthFailure (Option Jar)}
    {events : List Event} {after : Sessions} (asks : u.operation.authentication? = some login)
    (ended : s.authenticate u.fetcher.login login = (result, events, after)) :
    u.perform s = (⟨(u.resume result).outcome, events ++ (u.resume result).events⟩, after) := by
  obtain ⟨fetcher, operation⟩ := u
  cases operation with
  | scrape r =>
      obtain ⟨url, given, rfl⟩ := Option.map_eq_some_iff.mp asks
      cases result with
      | error cause =>
          simp only [perform, resume,
            scrape_of_refused fetcher s after r url cause events given ended, List.append_nil]
      | ok jar =>
          simp only [perform, resume, given, Option.getD_some,
            scrape_of_accepted fetcher s after r url jar events given ended]
  | authenticate login =>
      cases asks
      simp only [perform, resume, ended, List.append_nil]
  | _ => cases asks

/-- An operation that doesn't authenticate neither logs in nor asks for a page, and of the sessions
it changes at most the entry that it sets or removes. -/
theorem perform_of_no_authentication (quiet : u.operation.authentication? = none) :
    (u.perform s).1.events = [] ∧ (u.perform s).2.next = s.next ∧
      ∀ id, ¬ u.operation.Edits id → (u.perform s).2.get? id = s.get? id := by
  obtain ⟨fetcher, operation⟩ := u
  cases operation with
  | scrape r =>
      have absent : r.url? = none := Option.map_eq_none_iff.mp quiet
      rw [show (Use.mk fetcher (.scrape r)).perform s = (⟨_, []⟩, s) by
        simp only [perform, scrape_of_no_url fetcher s r absent]
        rfl]
      exact ⟨rfl, rfl, fun _ _ => rfl⟩
  | authenticate login => cases quiet
  | get id => exact ⟨rfl, rfl, fun _ _ => rfl⟩
  | put id jar =>
      refine ⟨rfl, rfl, fun other unedited => Entries.get?_insert_of_ne ?_ jar s.jars⟩
      rintro rfl
      exact unedited (.inl ⟨jar, rfl⟩)
  | remove id =>
      refine ⟨rfl, rfl, fun other unedited => Entries.get?_erase_of_ne ?_ s.jars⟩
      rintro rfl
      exact unedited (.inr rfl)

/-- Nobody logs in after the authentication. -/
theorem login_notMem_resume (u : Use) (result : Except AuthFailure (Option Jar)) (l : Login)
    (jar : Jar) : .login l jar ∉ (u.resume result).events := by
  obtain ⟨fetcher, operation⟩ := u
  cases operation with
  | scrape r =>
      cases result with
      | error cause => exact List.not_mem_nil
      | ok found =>
          intro member
          simp only [resume, scrapePage_events, List.mem_append] at member
          rcases member with opening | there
          · rw [ScrapeRequest.pageText_events] at opening
            cases brought : r.html <;> simp [brought] at opening
          · split at there
            · exact Call.login_notMem ⟨_, _, _⟩ l jar there
            · cases there
  | _ => exact List.not_mem_nil

/-- An operation logs in only for a session that isn't there yet. -/
theorem opens_of_login {l : Login} {jar : Jar} (called : .login l jar ∈ (u.perform s).1.events) :
    u.operation.Presents l ∧ jar = s.next ∧ ∃ id, s.Opens l id := by
  cases asks : u.operation.authentication? with
  | none =>
      rw [(perform_of_no_authentication asks).1] at called
      cases called
  | some login =>
      have ended := s.authenticate_cases u.fetcher.login login
      rcases answered : s.authenticate u.fetcher.login login with ⟨result, events, after⟩
      rw [answered] at ended
      rw [perform_of_authentication asks answered] at called
      rcases List.mem_append.mp called with here | later
      · cases ended with
        | settled settles => cases here
        | accepted opens accepts =>
            cases List.mem_singleton.mp here
            exact ⟨asks, rfl, _, opens⟩
        | refused opens refuses =>
            cases List.mem_singleton.mp here
            exact ⟨asks, rfl, _, opens⟩
      · exact absurd later (u.login_notMem_resume _ l jar)

/-- For a session that isn't there yet an operation logs in with a new jar. The jar is that of the
session from then on if the login is accepted, and if it is refused all is as before. -/
theorem perform_of_opens {l : Login} {id : String} (presents : u.operation.Presents l)
    (opens : s.Opens l id) :
    .login l s.next ∈ (u.perform s).1.events ∧
      (u.fetcher.login l s.next = .ok () → (u.perform s).2.get? id = some s.next) ∧
      ∀ cause, u.fetcher.login l s.next = .error cause → (u.perform s).2.get? id = none := by
  cases answer : u.fetcher.login l s.next with
  | ok =>
      rw [perform_of_authentication presents (Sessions.Authenticates.accepted opens answer).eq]
      exact ⟨List.mem_append_left _ List.mem_cons_self,
        fun _ => Sessions.get?_opened_self id, fun _ => nofun⟩
  | error cause =>
      rw [perform_of_authentication presents (Sessions.Authenticates.refused opens answer).eq]
      refine ⟨List.mem_append_left _ List.mem_cons_self, nofun, fun _ _ => ?_⟩
      exact Entries.get?_erase_self id _

/-- An authentication leaves the entry of a session as it was, or opens the session. -/
theorem get?_perform_of_authentication {login : Option Login} (id : String)
    (asks : u.operation.authentication? = some login) :
    (u.perform s).2.get? id = s.get? id ∨ ∃ l, login = some l ∧ s.Opens l id := by
  have ended := s.authenticate_cases u.fetcher.login login
  rcases answered : s.authenticate u.fetcher.login login with ⟨result, events, after⟩
  rw [answered] at ended
  rw [perform_of_authentication asks answered]
  cases ended with
  | settled settles => exact .inl rfl
  | @accepted l opened opens accepts =>
      by_cases same : id = opened
      · exact .inr ⟨l, rfl, same ▸ opens⟩
      · exact .inl (Sessions.get?_opened_of_ne same)
  | refused opens refuses =>
      exact .inl (congrArg (Entries.get? id) (Sessions.jars_remove_opened opens.absent))

/-- Only an operation that names a session changes its entry. -/
theorem get?_perform_of_unnamed {id : String} (unnamed : u.operation.session? ≠ some id) :
    (u.perform s).2.get? id = s.get? id := by
  cases asks : u.operation.authentication? with
  | none =>
      exact (perform_of_no_authentication asks).2.2 id fun edits => unnamed edits.session?
  | some login =>
      rcases get?_perform_of_authentication (s := s) id asks with same | ⟨l, rfl, opens⟩
      · exact same
      · rw [Operation.session?_of_authentication asks] at unnamed
        exact absurd opens.named unnamed

end Use

namespace Sessions

/-- The sessions after some operations. -/
def afterAll (s : Sessions) (uses : List Use) : Sessions :=
  uses.foldl (fun s u => (u.perform s).2) s

theorem afterAll_append (s : Sessions) (uses more : List Use) :
    s.afterAll (uses ++ more) = (s.afterAll uses).afterAll more := List.foldl_append

theorem afterAll_cons (s : Sessions) (u : Use) (rest : List Use) :
    s.afterAll (u :: rest) = (u.perform s).2.afterAll rest := rfl

/-- What each operation keeps holds after all of them. -/
theorem afterAll_preserves (Inv : Sessions → Prop) {uses : List Use} {s : Sessions}
    (kept : ∀ u ∈ uses, ∀ s, Inv s → Inv (u.perform s).2) (initial : Inv s) :
    Inv (s.afterAll uses) := by
  induction uses generalizing s with
  | nil => exact initial
  | cons u rest ih =>
      rw [afterAll_cons]
      refine ih (fun v member => kept v (List.mem_cons_of_mem _ member)) ?_
      exact kept u List.mem_cons_self s initial

/-- Operations one after the other, each with what it came to. -/
def transcript (s : Sessions) : List Use → List (Use × Performance)
  | [] => []
  | u :: rest => (u, (u.perform s).1) :: transcript (u.perform s).2 rest

end Sessions

end PageExtract
