import PageExtract.Proofs.Entries
import PageExtract.Proofs.Scrapes

/-!
What authentications do to the sessions. One that makes a login stores the session before it knows
how the login ends, and takes it out again if it fails, so a failure leaves the sessions as they
were and a success has changed the named one alone. Scrapes touch the sessions in no other way.
-/

set_option autoImplicit false

namespace PageExtract

namespace Sessions

variable {s after : Sessions} {login : Option Login} {result : Except AuthFailure (Option Jar)}

/-- How an authentication ends that needs no login. -/
inductive Settles (s : Sessions) : Option Login → Except AuthFailure (Option Jar) → Prop where
  | anonymous : Settles s none (.ok none)
  | unnamed {l : Login} (nameless : given? l.session = none) :
      Settles s (some l) (.error .missingSession)
  | known {l : Login} {id : String} {jar : Jar} (named : given? l.session = some id)
      (stored : s.get? id = some jar) : Settles s (some l) (.ok (some jar))
  | unaddressed {l : Login} {id : String} (named : given? l.session = some id)
      (absent : s.get? id = none) (nowhere : given? l.url = none) :
      Settles s (some l) (.error .missingUrl)

/-- An authentication for a session that isn't there yet, so that a login has to be made. -/
structure Opens (s : Sessions) (l : Login) (id : String) : Prop where
  named : given? l.session = some id
  absent : s.get? id = none
  addressed : ∃ url, given? l.url = some url

/-- The sessions with a new jar for a login that begins. -/
def opened (s : Sessions) (id : String) : Sessions :=
  s.fresh.2.put id s.next

theorem get?_opened_self (id : String) : (s.opened id).get? id = some s.next :=
  Entries.get?_insert_self id s.next s.jars

theorem get?_opened_of_ne {id other : String} (differs : other ≠ id) :
    (s.opened id).get? other = s.get? other :=
  Entries.get?_insert_of_ne differs s.next s.jars

/-- A login that fails takes out what was stored for it. -/
theorem jars_remove_opened {id : String} (absent : s.get? id = none) :
    ((s.opened id).remove id).jars = s.jars :=
  Entries.erase_insert_of_notMem s.next (Entries.get?_eq_none_iff.mp absent)

theorem Settles.begin_eq (settles : s.Settles login result) :
    s.begin login = (.settled result, s) := by
  cases settles with
  | anonymous => rfl
  | unnamed nameless => simp only [begin, nameless]
  | known named stored => simp only [begin, named, stored]
  | unaddressed named absent nowhere => simp only [begin, named, absent, nowhere]

theorem Opens.begin_eq {l : Login} {id : String} (opens : s.Opens l id) :
    s.begin (some l) = (.pending id s.next l, s.opened id) := by
  obtain ⟨url, addressed⟩ := opens.addressed
  simp only [begin, opens.named, opens.absent, addressed]
  rfl

/-- The first step of an authentication settles it and leaves the sessions as they are, or opens a
session for which a login is to be made. -/
theorem begin_cases (s : Sessions) (login : Option Login) :
    (∃ result, s.Settles login result ∧ s.begin login = (.settled result, s)) ∨
    ∃ l id, login = some l ∧ s.Opens l id ∧
      s.begin login = (.pending id s.next l, s.opened id) := by
  cases login with
  | none => exact .inl ⟨_, .anonymous, rfl⟩
  | some l =>
      cases named : given? l.session with
      | none =>
          have settles : s.Settles (some l) (.error .missingSession) := .unnamed named
          exact .inl ⟨_, settles, settles.begin_eq⟩
      | some id =>
          cases stored : s.get? id with
          | some jar =>
              have settles : s.Settles (some l) (.ok (some jar)) := .known named stored
              exact .inl ⟨_, settles, settles.begin_eq⟩
          | none =>
              cases addressed : given? l.url with
              | none =>
                  have settles : s.Settles (some l) (.error .missingUrl) :=
                    .unaddressed named stored addressed
                  exact .inl ⟨_, settles, settles.begin_eq⟩
              | some url =>
                  have opens : s.Opens l id := ⟨named, stored, url, addressed⟩
                  exact .inr ⟨l, id, rfl, opens, opens.begin_eq⟩

theorem of_begin_settled (begun : s.begin login = (.settled result, after)) :
    s.Settles login result ∧ after = s := by
  rcases s.begin_cases login with ⟨_, settles, settled⟩ | ⟨_, _, _, _, opened⟩
  · rw [settled] at begun
    cases begun
    exact ⟨settles, rfl⟩
  · rw [opened] at begun
    cases begun

theorem of_begin_pending {id : String} {jar : Jar} {l : Login}
    (begun : s.begin login = (.pending id jar l, after)) :
    login = some l ∧ s.Opens l id ∧ jar = s.next ∧ after = s.opened id := by
  rcases s.begin_cases login with ⟨_, _, settled⟩ | ⟨_, _, named, opens, opened⟩
  · rw [settled] at begun
    cases begun
  · rw [opened] at begun
    cases begun
    exact ⟨named, opens, rfl, rfl⟩

/-- What a whole authentication comes to, the logins that it made and the sessions after it. -/
inductive Authenticates (service : LoginService) (s : Sessions) :
    Option Login → Except AuthFailure (Option Jar) → List Event → Sessions → Prop where
  | settled {login : Option Login} {result : Except AuthFailure (Option Jar)}
      (settles : s.Settles login result) : Authenticates service s login result [] s
  | accepted {l : Login} {id : String} (opens : s.Opens l id)
      (accepts : service l s.next = .ok ()) :
      Authenticates service s (some l) (.ok (some s.next)) [.login l s.next] (s.opened id)
  | refused {l : Login} {id : String} {cause : FetchFailure} (opens : s.Opens l id)
      (refuses : service l s.next = .error cause) :
      Authenticates service s (some l) (.error (.login cause)) [.login l s.next]
        ((s.opened id).remove id)

theorem authenticate_cases (service : LoginService) (s : Sessions) (login : Option Login) :
    Authenticates service s login (s.authenticate service login).1
      (s.authenticate service login).2.1 (s.authenticate service login).2.2 := by
  rcases s.begin_cases login with ⟨result, settles, begun⟩ | ⟨l, id, rfl, opens, begun⟩
  · simp only [authenticate, begun]
    exact .settled settles
  · cases answer : service l s.next with
    | ok =>
        simp only [authenticate, begun, finish, answer]
        exact .accepted opens answer
    | error cause =>
        simp only [authenticate, begun, finish, answer]
        exact .refused opens answer

namespace Authenticates

variable {service : LoginService} {events : List Event}

/-- How an authentication ends is settled by its login, the sessions and the answer. -/
theorem eq (ended : Authenticates service s login result events after) :
    s.authenticate service login = (result, events, after) := by
  cases ended with
  | settled settles => simp only [authenticate, settles.begin_eq]
  | accepted opens accepts => simp only [authenticate, opens.begin_eq, finish, accepts]
  | refused opens refuses => simp only [authenticate, opens.begin_eq, finish, refuses]

/-- A failed authentication leaves all sessions as they were. -/
theorem jars_of_error {cause : AuthFailure}
    (ended : Authenticates service s login (.error cause) events after) :
    after.jars = s.jars := by
  cases ended with
  | settled settles => rfl
  | refused opens refuses => exact jars_remove_opened opens.absent

/-- A jar that an authentication comes to is that of the named session from then on, and no other
session is touched. -/
theorem of_ok {l : Login} {found : Option Jar}
    (ended : Authenticates service s (some l) (.ok found) events after) :
    ∃ id jar, given? l.session = some id ∧ found = some jar ∧ after.get? id = some jar ∧
      ∀ other, other ≠ id → after.get? other = s.get? other := by
  cases ended with
  | settled settles =>
      cases settles with
      | known named stored => exact ⟨_, _, named, rfl, stored, fun _ _ => rfl⟩
  | @accepted _ id opens accepts =>
      exact ⟨id, s.next, opens.named, rfl, get?_opened_self id,
        fun other differs => get?_opened_of_ne differs⟩

end Authenticates

end Sessions

theorem ScrapeRequest.url?_eq_some_iff {r : ScrapeRequest} {url : String} :
    r.url? = some url ↔ r.url = some url ∧ Text.isAllBlank url = false := by
  cases given : r.url with
  | none => simp [url?, given]
  | some text =>
      simp only [url?, given, Option.some.injEq]
      split
      · rename_i blank
        constructor
        · intro impossible
          cases impossible
        · rintro ⟨rfl, visible⟩
          rw [blank] at visible
          cases visible
      · rename_i visible
        constructor
        · intro same
          cases same
          exact ⟨rfl, Bool.eq_false_iff.mpr visible⟩
        · rintro ⟨rfl, _⟩
          rfl

/-- Once a scrape has a URL, the sessions after it are those that its authentication left. -/
theorem scrape_sessions (fetcher : Fetcher) (sessions : Sessions) {r : ScrapeRequest} {url : String}
    (given : r.url? = some url) : (scrape fetcher sessions r).2 =
      (sessions.authenticate fetcher.login r.login).2.2 := by
  rcases answered : sessions.authenticate fetcher.login r.login with ⟨outcome, events, after⟩
  cases outcome with
  | error cause => rw [scrape_of_refused fetcher sessions after r url cause events given answered]
  | ok jar => rw [scrape_of_accepted fetcher sessions after r url jar events given answered]

/-- An authentication that fails leaves the sessions as they were. One that succeeds has changed at
most the session that it names, which is that of the returned jar, and one without a login changes
nothing and finds no jar. After a scrape the sessions are those that its authentication left,
however it ended; a scrape without a URL touches neither them nor the fetcher. Only the number of a
jar that was given up isn't used again. -/
theorem authenticate_framed (fetcher : Fetcher) (s : Sessions) :
    (∀ login cause, (s.authenticate fetcher.login login).1 = .error cause →
      (s.authenticate fetcher.login login).2.2.jars = s.jars) ∧
    (∀ l found, (s.authenticate fetcher.login (some l)).1 = .ok found →
      ∃ id jar, Sessions.given? l.session = some id ∧ found = some jar ∧
        (s.authenticate fetcher.login (some l)).2.2.get? id = some jar ∧
        ∀ other, other ≠ id →
          (s.authenticate fetcher.login (some l)).2.2.get? other = s.get? other) ∧
    s.authenticate fetcher.login none = (.ok none, [], s) ∧
    (∀ r : ScrapeRequest, (∃ url, r.url = some url ∧ Text.isAllBlank url = false) →
      (scrape fetcher s r).2 = (s.authenticate fetcher.login r.login).2.2) ∧
    ∀ r : ScrapeRequest, (∀ url, r.url = some url → Text.isAllBlank url = true) →
      scrape fetcher s r = (⟨.error (.configuration .missingUrl), []⟩, s) := by
  refine ⟨fun login cause failed => ?_, fun l found success => ?_, rfl, ?_, ?_⟩
  · have ended := s.authenticate_cases fetcher.login login
    rw [failed] at ended
    exact ended.jars_of_error
  · have ended := s.authenticate_cases fetcher.login (some l)
    rw [success] at ended
    exact ended.of_ok
  · rintro r ⟨url, given⟩
    exact scrape_sessions fetcher s (ScrapeRequest.url?_eq_some_iff.mpr given)
  · intro r blank
    have absent : r.url? = none := by
      rw [Option.eq_none_iff_forall_ne_some]
      intro url given
      obtain ⟨present, visible⟩ := ScrapeRequest.url?_eq_some_iff.mp given
      rw [blank url present] at visible
      cases visible
    exact scrape_of_no_url fetcher s r absent

/-- A store that knows one session: a login that is refused leaves it alone, one that is accepted
adds its own session, and a scrape of a blank URL doesn't ask for the login at all. -/
theorem authenticate_framed_beside_known :
    let s : Sessions := ⟨[("known", 0)], 1⟩
    let l : Login := { Login.standard with session := some "new", url := some "a:login" }
    let refusing : Fetcher := .ofPages []
    let accepting : Fetcher := { Fetcher.ofPages [] with login := fun _ _ => .ok () }
    let r : ScrapeRequest :=
      { linkRequest .missing .standard with url := some " ", login := some l }
    (s.authenticate refusing.login (some l)).2.2.jars = [("known", 0)] ∧
    (s.authenticate accepting.login (some l)).2.2.get? "known" = some 0 ∧
    (scrape accepting s { r with url := some "a:" }).2.get? "new" = some 1 ∧
    (scrape accepting s r).2 = s := by
  intro s l refusing accepting r
  have refused : (s.authenticate refusing.login (some l)).1 =
      .error (.login .loginUnsupported) := by rfl
  have accepted : (s.authenticate accepting.login (some l)).1 = .ok (some 1) := by rfl
  refine ⟨(authenticate_framed refusing s).1 _ _ refused, ?_, ?_, ?_⟩
  · obtain ⟨id, jar, named, _, _, others⟩ := (authenticate_framed accepting s).2.1 l _ accepted
    have same : id = "new" := (Option.some.inj named).symm
    rw [others "known" (by rw [same]; decide)]
    rfl
  · rw [(authenticate_framed accepting s).2.2.2.1 _ ⟨"a:", rfl, by rfl⟩]
    rfl
  · have blank : ∀ url, r.url = some url → Text.isAllBlank url = true := by
      intro url given
      cases given
      rfl
    rw [(authenticate_framed accepting s).2.2.2.2 r blank]

end PageExtract
