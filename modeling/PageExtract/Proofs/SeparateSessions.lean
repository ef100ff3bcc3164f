import PageExtract.Proofs.Operations

/-!
Sessions that don't interfere. Where no answer of the fetcher depends on which jar is attached, the
operations that name other sessions can be dropped from a run: the rest of it stays as it is, but
that its logins get other new jars. Main definitions: `Fetcher.Anonymous` and `Use.rename`.
-/

set_option autoImplicit false

namespace PageExtract

open Json (Value)

/-- No answer depends on which jar is attached, or handed over for a login. -/
structure Fetcher.Anonymous (f : Fetcher) : Prop where
  load : ∀ url options (first second : Jar),
    f.load ⟨url, options, some first⟩ = f.load ⟨url, options, some second⟩
  login : ∀ l first second, f.login l first = f.login l second

variable (ρ : Jar → Jar)

def Event.rename : Event → Event
  | .login l jar => .login l (ρ jar)
  | .request q link => .request { q with session := q.session.map ρ } link
  | .diagnostic d => .diagnostic d
  | .read v n => .read v n

def Run.rename {α : Type} (r : Run α) : Run α :=
  ⟨r.result, r.events.map (Event.rename ρ)⟩

def Outcome.rename : Outcome → Outcome
  | .scraped result => .scraped result
  | .authenticated result => .authenticated (result.map (Option.map ρ))
  | .found jar => .found (jar.map ρ)
  | .stored => .stored

def Performance.rename (p : Performance) : Performance :=
  ⟨p.outcome.rename ρ, p.events.map (Event.rename ρ)⟩

def Operation.rename : Operation → Operation
  | .put id jar => .put id (ρ jar)
  | .scrape r => .scrape r
  | .authenticate login => .authenticate login
  | .get id => .get id
  | .remove id => .remove id

def Use.rename (u : Use) : Use :=
  { u with operation := u.operation.rename ρ }

/-- The operation names this session, or none. -/
def Operation.concerns (id : String) (o : Operation) : Bool :=
  o.session?.all (· == id)

theorem Operation.session?_of_concerns {id : String} {o : Operation} (concerned : o.concerns id) :
    o.session? = none ∨ o.session? = some id := by
  cases named : o.session? with
  | none => exact .inl rfl
  | some other => simpa [concerns, named] using concerned

theorem Operation.session?_of_not_concerns {id : String} {o : Operation}
    (foreign : ¬ o.concerns id) : o.session? ≠ some id := by
  intro named
  simp [concerns, named] at foreign

def Event.loginJar? : Event → Option Jar
  | .login _ jar => some jar
  | _ => none

/-- The jars that logins were made with. -/
def Performance.jars (p : Performance) : List Jar :=
  p.events.filterMap Event.loginJar?

namespace Run

variable {ρ} {α β : Type}

theorem rename_bind (first : Run α) (next : α → Run β) :
    (first.bind next).rename ρ = (first.rename ρ).bind fun a => (next a).rename ρ := by
  cases ended : first.result with
  | error e =>
      rw [bind_of_error _ _ e ended, bind_of_error (first.rename ρ) _ e ended]
      rfl
  | ok a =>
      rw [bind_of_ok _ _ a ended, bind_of_ok (first.rename ρ) _ a ended]
      exact ext rfl List.map_append

theorem rename_of_fixed {r : Run α} (fixed : ∀ e ∈ r.events, e.rename ρ = e) : r.rename ρ = r :=
  ext rfl ((List.map_congr_left fixed).trans (List.map_id _))

end Run

section

variable {ρ}

/-- Evaluations neither log in nor ask for a page with a session. -/
theorem Call.rename_event {fetch : Fetch} {policy : Policy} {c : Call} {e : Event}
    (member : e ∈ (c.run fetch policy).events) : e.rename ρ = e := by
  obtain ⟨d, _, shows⟩ := exists_shows member
  cases shows with
  | ask asks same =>
      cases asks
      cases same
      rfl
  | _ => rfl

theorem ScrapeRequest.rename_pageText {fetcher : Fetcher} (anonymous : fetcher.Anonymous)
    (r : ScrapeRequest) (url : String) (jar : Option Jar) :
    (r.pageText fetcher.load url jar).rename ρ = r.pageText fetcher.load url (jar.map ρ) := by
  have answered : fetcher.load (r.firstPage url (jar.map ρ)) =
      fetcher.load (r.firstPage url jar) := by
    cases jar with
    | none => rfl
    | some jar => exact anonymous.load url (some r.fetch) (ρ jar) jar
  cases brought : r.html with
  | some html =>
      simp only [pageText, brought]
      rfl
  | none =>
      simp only [pageText, brought, Run.rename_bind, answered]
      cases fetcher.load (r.firstPage url jar) <;> rfl

/-- All that a page owes to its session is the jar that its load carries. -/
theorem rename_scrapePage {fetcher : Fetcher} (anonymous : fetcher.Anonymous) (r : ScrapeRequest)
    (url : String) (jar : Option Jar) :
    (scrapePage fetcher.load r url jar).rename ρ =
      scrapePage fetcher.load r url (jar.map ρ) := by
  simp only [scrapePage, Run.rename_bind, r.rename_pageText anonymous]
  refine Run.bind_congr fun html _ => Run.rename_of_fixed fun e member => ?_
  rw [absorb_events, evaluatePage] at member
  rcases Run.mem_events_bind.mp member with early | ⟨v, _, there⟩
  · rw [Visit.start_events] at early
    cases early
  · exact Call.rename_event (c := ⟨r.plan, v, none⟩) there

namespace Use

variable {u : Use} {s t : Sessions}

theorem rename_resume (anonymous : u.fetcher.Anonymous) {login : Option Login}
    (asks : u.operation.authentication? = some login) (result : Except AuthFailure (Option Jar)) :
    (u.resume result).rename ρ = (u.rename ρ).resume (result.map (Option.map ρ)) := by
  obtain ⟨fetcher, operation⟩ := u
  cases operation with
  | scrape r =>
      cases result with
      | error cause => rfl
      | ok jar =>
          have same := rename_scrapePage (ρ := ρ) anonymous r (r.url?.getD "") jar
          simp only [resume, rename, Operation.rename, Except.map, ← same]
          rfl
  | authenticate login => rfl
  | _ => cases asks

/-- An operation makes no login, or one with the next jar. -/
theorem jars_cases (u : Use) (s : Sessions) :
    ((u.perform s).1.jars = [] ∧ (u.perform s).2.next = s.next) ∨
      ((u.perform s).1.jars = [s.next] ∧ (u.perform s).2.next = s.next + 1) := by
  cases asks : u.operation.authentication? with
  | none =>
      obtain ⟨silent, same, _⟩ := perform_of_no_authentication (s := s) asks
      refine .inl ⟨?_, same⟩
      rw [Performance.jars, silent, List.filterMap_nil]
  | some login =>
      have ended := s.authenticate_cases u.fetcher.login login
      rcases answered : s.authenticate u.fetcher.login login with ⟨result, events, after⟩
      rw [answered] at ended
      have quiet : (u.resume result).events.filterMap Event.loginJar? = [] := by
        rw [List.filterMap_eq_nil_iff]
        intro e member
        cases e with
        | login l jar => exact absurd member (u.login_notMem_resume result l jar)
        | _ => rfl
      simp only [perform_of_authentication asks answered, Performance.jars, List.filterMap_append,
        quiet, List.append_nil]
      cases ended with
      | settled settles => exact .inl ⟨rfl, rfl⟩
      | accepted opens accepts => exact .inr ⟨rfl, rfl⟩
      | refused opens refuses => exact .inr ⟨rfl, rfl⟩

theorem next_perform (u : Use) (s : Sessions) :
    (u.perform s).2.next = s.next + (u.perform s).1.jars.length := by
  rcases u.jars_cases s with ⟨none, same⟩ | ⟨one, more⟩
  · rw [none, same, List.length_nil, Nat.add_zero]
  · rw [one, more, List.length_singleton]

theorem rename_jars (p : Performance) : (p.rename ρ).jars = p.jars.map ρ := by
  simp only [Performance.jars, Performance.rename, List.filterMap_map, List.map_filterMap]
  refine List.filterMap_congr fun e _ => ?_
  cases e <;> rfl

end Use

/-- The session has the same entry in both stores, but for the name of its jar. -/
def Sessions.Mirrors (ρ : Jar → Jar) (id : String) (s t : Sessions) : Prop :=
  t.get? id = (s.get? id).map ρ

namespace Sessions.Mirrors

variable {id : String} {s t : Sessions}

/-- An authentication for the session, or for none, ends in both stores alike. -/
theorem authenticates (mirrors : Mirrors ρ id s t) {service : LoginService} {after : Sessions}
    {login : Option Login} {result : Except AuthFailure (Option Jar)} {events : List Event}
    (anonymous : ∀ l first second, service l first = service l second)
    (own : ∀ l named, login = some l → given? l.session = some named → named = id)
    (numbered : ∀ l jar, .login l jar ∈ events → ρ jar = t.next)
    (ended : Authenticates service s login result events after) :
    ∃ last, Authenticates service t login (result.map (Option.map ρ))
      (events.map (Event.rename ρ)) last ∧ Mirrors ρ id after last := by
  have absentToo : s.get? id = none → t.get? id = none := by
    intro absent
    rw [mirrors, absent, Option.map_none]
  cases ended with
  | settled settles =>
      cases settles with
      | anonymous => exact ⟨t, .settled .anonymous, mirrors⟩
      | unnamed nameless => exact ⟨t, .settled (.unnamed nameless), mirrors⟩
      | @known l found jar named stored =>
          obtain rfl : found = id := own _ _ rfl named
          have storedToo : t.get? found = some (ρ jar) := by rw [mirrors, stored, Option.map_some]
          exact ⟨t, .settled (.known named storedToo), mirrors⟩
      | unaddressed named absent nowhere =>
          obtain rfl := own _ _ rfl named
          exact ⟨t, .settled (.unaddressed named (absentToo absent) nowhere), mirrors⟩
  | @accepted l _ opens accepts =>
      obtain rfl := own _ _ rfl opens.named
      have renamed : ρ s.next = t.next := numbered l _ List.mem_cons_self
      have opensToo : t.Opens l _ := ⟨opens.named, absentToo opens.absent, opens.addressed⟩
      have done := Authenticates.accepted opensToo ((anonymous l _ _).trans accepts)
      refine ⟨_, by simpa only [Except.map, Option.map_some, List.map_cons, List.map_nil,
        Event.rename, renamed] using done, ?_⟩
      rw [Mirrors, get?_opened_self, get?_opened_self, Option.map_some, renamed]
  | @refused l _ cause opens refuses =>
      obtain rfl := own _ _ rfl opens.named
      have renamed : ρ s.next = t.next := numbered l _ List.mem_cons_self
      have opensToo : t.Opens l _ := ⟨opens.named, absentToo opens.absent, opens.addressed⟩
      have done := Authenticates.refused opensToo ((anonymous l _ _).trans refuses)
      refine ⟨_, by simpa only [Except.map, List.map_cons, List.map_nil, Event.rename, renamed]
        using done, ?_⟩
      rw [Mirrors, get?, get?, jars_remove_opened opens.absent, jars_remove_opened opensToo.absent]
      exact mirrors

/-- An operation for the session, or for none, comes to the same in both stores, and leaves them
with the same entry. -/
theorem perform (mirrors : Mirrors ρ id s t) {u : Use} (anonymous : u.fetcher.Anonymous)
    (own : u.operation.session? = none ∨ u.operation.session? = some id)
    (numbered : ∀ jar ∈ (u.perform s).1.jars, ρ jar = t.next) :
    ((u.rename ρ).perform t).1 = (u.perform s).1.rename ρ ∧
      Mirrors ρ id (u.perform s).2 ((u.rename ρ).perform t).2 := by
  have entry : t.get? id = (s.get? id).map ρ := mirrors
  cases asks : u.operation.authentication? with
  | some login =>
      have asksToo : (u.rename ρ).operation.authentication? = some login := by
        rw [← asks]
        obtain ⟨fetcher, operation⟩ := u
        cases operation <;> rfl
      have ended := s.authenticate_cases u.fetcher.login login
      rcases answered : s.authenticate u.fetcher.login login with ⟨result, events, after⟩
      rw [answered] at ended
      rw [Use.perform_of_authentication asks answered] at numbered ⊢
      rw [Operation.session?_of_authentication asks] at own
      obtain ⟨last, done, kept⟩ := mirrors.authenticates anonymous.login
        (by
          rintro l named rfl given
          rcases own with none | same
          · exact absurd (none.symm.trans given) nofun
          · exact Option.some.inj (given.symm.trans same))
        (fun l jar member => numbered jar
          (List.mem_filterMap.mpr ⟨_, List.mem_append_left _ member, rfl⟩)) ended
      rw [Use.perform_of_authentication asksToo done.eq, ← Use.rename_resume anonymous asks]
      refine ⟨?_, kept⟩
      simp only [Performance.rename, List.map_append]
  | none =>
      obtain ⟨fetcher, operation⟩ := u
      cases operation with
      | scrape r =>
          have absent : r.url? = none := Option.map_eq_none_iff.mp asks
          simp only [Use.perform, Use.rename, Operation.rename, scrape_of_no_url _ _ r absent]
          exact ⟨rfl, mirrors⟩
      | authenticate login => cases asks
      | get named =>
          obtain rfl : named = id := by simpa [Operation.session?] using own
          refine ⟨?_, mirrors⟩
          simp only [Use.perform, Use.rename, Operation.rename, entry]
          rfl
      | put named jar =>
          obtain rfl : named = id := by simpa [Operation.session?] using own
          refine ⟨rfl, ?_⟩
          simp only [Mirrors, Use.perform, Use.rename, Operation.rename, get?, put,
            Entries.get?_insert_self, Option.map_some]
      | remove named =>
          obtain rfl : named = id := by simpa [Operation.session?] using own
          constructor
          · simp only [Use.perform, Use.rename, Operation.rename, entry]
            rfl
          · simp only [Mirrors, Use.perform, Use.rename, Operation.rename, get?, remove,
              Entries.get?_erase_self, Option.map_none]

end Sessions.Mirrors

end

namespace Sessions

/-- The part of a run that names this session, or none. -/
def transcriptFor (s : Sessions) (id : String) (uses : List Use) : List (Use × Performance) :=
  (s.transcript uses).filter fun step => step.1.operation.concerns id

/-- The jars that this part logs in with. -/
def jarsFor (s : Sessions) (id : String) (uses : List Use) : List Jar :=
  (s.transcriptFor id uses).flatMap fun step => step.2.jars

section

variable {s : Sessions} {id : String} {u : Use} {rest : List Use}

theorem transcriptFor_cons_of_concerns (concerned : u.operation.concerns id) :
    s.transcriptFor id (u :: rest) =
      (u, (u.perform s).1) :: (u.perform s).2.transcriptFor id rest :=
  List.filter_cons_of_pos concerned

theorem transcriptFor_cons_of_not_concerns (foreign : ¬ u.operation.concerns id) :
    s.transcriptFor id (u :: rest) = (u.perform s).2.transcriptFor id rest :=
  List.filter_cons_of_neg foreign

theorem jarsFor_cons_of_concerns (concerned : u.operation.concerns id) :
    s.jarsFor id (u :: rest) = (u.perform s).1.jars ++ (u.perform s).2.jarsFor id rest := by
  rw [jarsFor, transcriptFor_cons_of_concerns concerned, List.flatMap_cons]
  rfl

theorem jarsFor_cons_of_not_concerns (foreign : ¬ u.operation.concerns id) :
    s.jarsFor id (u :: rest) = (u.perform s).2.jarsFor id rest := by
  rw [jarsFor, transcriptFor_cons_of_not_concerns foreign]
  rfl

/-- Every login gets a jar that nothing before it has. -/
theorem jarsFor_increasing (s : Sessions) (id : String) (uses : List Use) :
    (s.jarsFor id uses).Pairwise (· < ·) ∧ ∀ jar ∈ s.jarsFor id uses, s.next ≤ jar := by
  induction uses generalizing s with
  | nil => exact ⟨.nil, nofun⟩
  | cons u rest ih =>
      obtain ⟨increasing, above⟩ := ih (u.perform s).2
      by_cases concerned : u.operation.concerns id
      · rw [jarsFor_cons_of_concerns concerned]
        rcases u.jars_cases s with ⟨none, same⟩ | ⟨one, more⟩
        · rw [none, List.nil_append, ← same]
          exact ⟨increasing, above⟩
        · rw [one, List.singleton_append, List.pairwise_cons, List.forall_mem_cons]
          have later : ∀ jar ∈ (u.perform s).2.jarsFor id rest, s.next < jar := fun jar member =>
            Nat.lt_of_lt_of_le (more ▸ Nat.lt_succ_self s.next) (above jar member)
          exact ⟨⟨later, increasing⟩, Nat.le_refl _, fun jar member => (later jar member).le⟩
      · rw [jarsFor_cons_of_not_concerns concerned]
        have grows : s.next ≤ (u.perform s).2.next := by
          rw [u.next_perform]
          exact Nat.le_add_right _ _
        exact ⟨increasing, fun jar member => grows.trans (above jar member)⟩

end

/-- Two runs, one of which leaves out what names other sessions only, keep the entry of a session
the same in both stores. -/
theorem transcript_renamed {ρ : Jar → Jar} {id : String} {s t : Sessions} {uses : List Use}
    (mirrors : Mirrors ρ id s t) (anonymous : ∀ u ∈ uses, u.fetcher.Anonymous)
    (numbered : (s.jarsFor id uses).map ρ = List.range' t.next (s.jarsFor id uses).length) :
    t.transcript ((uses.filter (·.operation.concerns id)).map (Use.rename ρ)) =
      (s.transcriptFor id uses).map fun step => (step.1.rename ρ, step.2.rename ρ) := by
  induction uses generalizing s t with
  | nil => rfl
  | cons u rest ih =>
      have anonymousRest : ∀ v ∈ rest, v.fetcher.Anonymous := fun v member =>
        anonymous v (List.mem_cons_of_mem u member)
      by_cases concerned : u.operation.concerns id
      · -- the jar of a login is the next one in either store, and `ρ` takes the one to the other
        rw [jarsFor_cons_of_concerns concerned, List.map_append, List.length_append,
          ← List.range'_append_1] at numbered
        obtain ⟨here, later⟩ := List.append_inj numbered (by simp)
        have renamed : ∀ jar ∈ (u.perform s).1.jars, ρ jar = t.next := by
          rcases u.jars_cases s with ⟨none, _⟩ | ⟨one, _⟩
          · rw [none]
            nofun
          · rw [one] at here ⊢
            simpa using here
        obtain ⟨same, after⟩ := mirrors.perform (anonymous u List.mem_cons_self)
          (Operation.session?_of_concerns concerned) renamed
        have next : ((u.rename ρ).perform t).2.next = t.next + (u.perform s).1.jars.length := by
          rw [Use.next_perform, same, Use.rename_jars, List.length_map]
        rw [← next] at later
        rw [List.filter_cons, if_pos concerned, transcriptFor_cons_of_concerns concerned,
          List.map_cons, List.map_cons, transcript, same, ih after anonymousRest later]
      · -- what is left out changes no more than the other entries and the number of the next jar
        rw [jarsFor_cons_of_not_concerns concerned] at numbered
        have unchanged := Use.get?_perform_of_unnamed (s := s)
          (Operation.session?_of_not_concerns concerned)
        have after : Mirrors ρ id (u.perform s).2 t := mirrors.trans (by rw [unchanged])
        rw [List.filter_cons, if_neg concerned, transcriptFor_cons_of_not_concerns concerned,
          ih after anonymousRest numbered]

end Sessions

/-- Some new jars can be numbered from the first on, without a change to the jars before them. -/
theorem exists_renaming {n : Jar} {jars : List Jar} (distinct : jars.Nodup)
    (new : ∀ jar ∈ jars, n ≤ jar) :
    ∃ ρ : Jar → Jar, ρ.Injective ∧ (∀ jar < n, ρ jar = jar) ∧
      jars.map ρ = List.range' n jars.length := by
  let ρ : Jar → Jar := fun jar =>
    if jar ∈ jars then n + jars.idxOf jar
    else if jar < n then jar
    else n + jars.length + jar
  have listed : ∀ jar ∈ jars, ρ jar = n + jars.idxOf jar := fun jar member => if_pos member
  have old : ∀ jar < n, ρ jar = jar := by
    intro jar early
    have absent : jar ∉ jars := fun member => Nat.not_le.mpr early (new jar member)
    simp only [ρ, if_neg absent, if_pos early]
  refine ⟨ρ, ?_, old, ?_⟩
  · intro first second same
    have within : ∀ jar ∈ jars, jars.idxOf jar < jars.length := fun jar member =>
      List.idxOf_lt_length_iff.mpr member
    by_cases here : first ∈ jars <;> by_cases there : second ∈ jars
    · rw [listed _ here, listed _ there, Nat.add_left_cancel_iff] at same
      exact (List.idxOf_inj here).mp same
    all_goals
      simp only [ρ, here, there, if_true, if_false] at same
      grind
  · refine List.ext_getElem (by simp) fun i here there => ?_
    rw [List.getElem_map, listed _ (List.getElem_mem _), distinct.idxOf_getElem,
      List.getElem_range', Nat.one_mul]

/-- Sessions don't interfere. Let no answer of the fetchers depend on which jar is attached. If the
operations that name other sessions only are left out of a run, then each of the others gives the
caller the same as before, and makes the same requests, logins and diagnostics, up to the names of
the jars that are new since the start. -/
theorem other_sessions_immaterial (start : Sessions) (id : String) (uses : List Use)
    (anonymous : ∀ u ∈ uses, u.fetcher.Anonymous)
    (made : ∀ jar, start.get? id = some jar → jar < start.next) :
    ∃ ρ : Jar → Jar, ρ.Injective ∧ (∀ jar < start.next, ρ jar = jar) ∧
      start.transcript ((uses.filter (·.operation.concerns id)).map (Use.rename ρ)) =
        ((start.transcript uses).filter fun step => step.1.operation.concerns id).map
          fun step => (step.1.rename ρ, step.2.rename ρ) := by
  obtain ⟨increasing, new⟩ := start.jarsFor_increasing id uses
  obtain ⟨ρ, injective, old, numbered⟩ :=
    exists_renaming (increasing.imp fun less => Nat.ne_of_lt less) new
  have mirrors : Sessions.Mirrors ρ id start start := by
    cases stored : start.get? id with
    | none => rw [Sessions.Mirrors, stored, Option.map_none]
    | some jar => rw [Sessions.Mirrors, stored, Option.map_some, old jar (made jar stored)]
  exact ⟨ρ, injective, old, Sessions.transcript_renamed mirrors anonymous numbered⟩

/-- The session `s` is opened after the session `t`, and looked up. Without `t` all is the same, but
that the jar `1` is now the jar `0`. -/
theorem other_sessions_immaterial_second_jar :
    let accepting : Fetcher := { Fetcher.ofPages [] with login := fun _ _ => .ok () }
    let login : String → Login := fun id =>
      { Login.standard with session := some id, url := some "a:login" }
    let other : Use := ⟨accepting, .authenticate (some (login "t"))⟩
    let first : Use := ⟨accepting, .authenticate (some (login "s"))⟩
    let second : Use := ⟨accepting, .get "s"⟩
    ∃ ρ : Jar → Jar, ρ.Injective ∧ ρ 1 = 0 ∧
      Sessions.empty.transcript [first.rename ρ, second.rename ρ] =
        (Sessions.empty.transcript [other, first, second]).tail.map
          fun step => (step.1.rename ρ, step.2.rename ρ) := by
  intro accepting login other first second
  have anonymous : ∀ u ∈ [other, first, second], u.fetcher.Anonymous := by
    intro u member
    rw [List.mem_cons, List.mem_cons, List.mem_singleton] at member
    rcases member with rfl | rfl | rfl <;> exact ⟨fun _ _ _ _ => rfl, fun _ _ _ => rfl⟩
  obtain ⟨ρ, injective, _, same⟩ :=
    other_sessions_immaterial .empty "s" [other, first, second] anonymous nofun
  have kept : [other, first, second].filter (·.operation.concerns "s") = [first, second] := by
    simp [other, first, second, login, Operation.concerns, Operation.session?, Sessions.given?]
  rw [kept] at same
  refine ⟨ρ, injective, ?_, same⟩
  have outcome : some (Outcome.authenticated (.ok (some 0))) =
      some (Outcome.authenticated (.ok (some (ρ 1)))) :=
    congrArg (fun steps => steps.head?.map fun step => step.2.outcome) same
  simpa using outcome.symm

end PageExtract
