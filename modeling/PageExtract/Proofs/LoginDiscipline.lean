import PageExtract.Proofs.Operations

/-!
When operations log in. An operation logs in only for a session that isn't stored, and how the login
ends decides what later operations do: one that was accepted is reused until the entry of the
session is set or removed, and one that was refused is made again by the next authentication that
can make it.
-/

set_option autoImplicit false

namespace PageExtract

open Sessions (given?)

namespace Use

variable {u : Use} {s : Sessions} {id : String} {jar : Jar}

/-- A stored session stays as it is until its entry is set or removed. -/
theorem stored_perform (stored : s.get? id = some jar) (unedited : ¬ u.operation.Edits id) :
    (u.perform s).2.get? id = some jar := by
  cases asks : u.operation.authentication? with
  | none => rw [(perform_of_no_authentication asks).2.2 id unedited, stored]
  | some login =>
      rcases get?_perform_of_authentication (s := s) id asks with same | ⟨l, _, opens⟩
      · rw [same, stored]
      · have absent := opens.absent
        rw [stored] at absent
        cases absent

/-- A session that isn't stored stays away until its entry is set, or an authentication opens it,
which takes a URL. -/
theorem absent_perform (absent : s.get? id = none) (unstored : ¬ u.operation.Stores id)
    (unopened : ∀ l, u.operation.Presents l → given? l.session = some id → given? l.url = none) :
    (u.perform s).2.get? id = none := by
  cases asks : u.operation.authentication? with
  | none =>
      by_cases removes : u.operation = .remove id
      · simp only [perform, removes]
        exact Entries.get?_erase_self id s.jars
      · have unedited : ¬ u.operation.Edits id := fun edits => edits.elim unstored removes
        rw [(perform_of_no_authentication asks).2.2 id unedited, absent]
  | some login =>
      rcases get?_perform_of_authentication (s := s) id asks with same | ⟨l, rfl, opens⟩
      · rw [same, absent]
      · obtain ⟨url, addressed⟩ := opens.addressed
        rw [unopened l asks opens.named] at addressed
        cases addressed

/-- An authentication for a stored session comes to its jar, whatever else its login says, and
leaves the sessions as they are. -/
theorem perform_of_stored {l : Login} (presents : u.operation.Presents l)
    (named : given? l.session = some id) (stored : s.get? id = some jar) :
    u.perform s = (u.resume (.ok (some jar)), s) :=
  perform_of_authentication presents (Sessions.Authenticates.settled (.known named stored)).eq

end Use

/-- In a run of operations, each with a fetcher of its own, a login is called for a session only by
an operation that finds no jar stored for it. If it is accepted, every later authentication for the
session goes on with the same jar, without a login and whether it has a URL or not, until the entry
of the session is set or removed. If it is refused, the session isn't stored, and unless it is set
in between, the next authentication for it with a URL calls the login again. -/
theorem login_discipline (start : Sessions) (earlier : List Use) {u : Use} {l : Login} {jar : Jar}
    (called : .login l jar ∈ (u.perform (start.afterAll earlier)).1.events) :
    ∃ id, given? l.session = some id ∧ (start.afterAll earlier).get? id = none ∧
      (u.fetcher.login l jar = .ok () →
        ∀ (between : List Use) (v : Use) (m : Login),
          (∀ w ∈ between, ¬ w.operation.Edits id) →
          v.operation.Presents m → given? m.session = some id →
          let here := start.afterAll (earlier ++ u :: between)
          v.perform here = (v.resume (.ok (some jar)), here) ∧
            ∀ k other, .login k other ∉ (v.perform here).1.events) ∧
      ∀ cause, u.fetcher.login l jar = .error cause →
        (start.afterAll (earlier ++ [u])).get? id = none ∧
        ∀ (between : List Use) (v : Use) (m : Login),
          (∀ w ∈ between, ¬ w.operation.Stores id) →
          (∀ w ∈ between, ∀ k, w.operation.Presents k → given? k.session = some id →
            given? k.url = none) →
          v.operation.Presents m → given? m.session = some id → given? m.url ≠ none →
          let here := start.afterAll (earlier ++ u :: between)
          .login m here.next ∈ (v.perform here).1.events := by
  obtain ⟨presents, rfl, id, opens⟩ := Use.opens_of_login called
  obtain ⟨_, accepted, refused⟩ := Use.perform_of_opens presents opens
  refine ⟨id, opens.named, opens.absent, ?_, ?_⟩
  · intro accepts between v m unedited asks named here
    have stored : here.get? id = some (start.afterAll earlier).next := by
      simp only [here, Sessions.afterAll_append, Sessions.afterAll_cons]
      exact Sessions.afterAll_preserves (fun s => s.get? id = some _)
        (fun w member _ before => Use.stored_perform before (unedited w member)) (accepted accepts)
    have reused := Use.perform_of_stored asks named stored
    rw [reused]
    exact ⟨rfl, v.login_notMem_resume _⟩
  · intro cause refuses
    refine ⟨?_, ?_⟩
    · rw [start.afterAll_append earlier [u]]
      exact refused cause refuses
    · intro between v m unstored unopened asks named addressed here
      have absent : here.get? id = none := by
        simp only [here, Sessions.afterAll_append, Sessions.afterAll_cons]
        exact Sessions.afterAll_preserves (fun s => s.get? id = none)
          (fun w member _ before =>
            Use.absent_perform before (unstored w member) (unopened w member))
          (refused cause refuses)
      have again : here.Opens m id := ⟨named, absent, Option.ne_none_iff_exists'.mp addressed⟩
      exact (Use.perform_of_opens asks again).1

/-- A session is opened, and reused without a URL while the fetcher refuses all logins. Another one
is refused, asked for without a URL in vain, and then opened with the next jar. -/
theorem login_discipline_two_sessions :
    let login : String → Login := fun id =>
      { Login.standard with session := some id, url := some "a:login" }
    let accepting : Fetcher := { Fetcher.ofPages [] with login := fun _ _ => .ok () }
    let refusing : Fetcher := .ofPages []
    let first : Use := ⟨accepting, .authenticate (some (login "s"))⟩
    let reuse : Use := ⟨refusing, .authenticate (some { login "s" with url := none })⟩
    let other : Use := ⟨refusing, .authenticate (some (login "t"))⟩
    let vain : Use := ⟨accepting, .authenticate (some { login "t" with url := none })⟩
    let again : Use := ⟨accepting, .authenticate (some (login "t"))⟩
    .login (login "s") 0 ∈ (first.perform .empty).1.events ∧
    (reuse.perform (Sessions.empty.afterAll [first, other])).1 =
      ⟨.authenticated (.ok (some 0)), []⟩ ∧
    .login (login "t") 1 ∈ (other.perform (Sessions.empty.afterAll [first])).1.events ∧
    .login (login "t") 2 ∈
      (again.perform (Sessions.empty.afterAll [first, other, vain])).1.events := by
  intro login accepting refusing first reuse other vain again
  have opened : .login (login "s") 0 ∈ (first.perform (Sessions.empty.afterAll [])).1.events :=
    List.mem_cons_self
  have failed : .login (login "t") 1 ∈ (other.perform (Sessions.empty.afterAll [first])).1.events :=
    List.mem_cons_self
  refine ⟨opened, ?_, failed, ?_⟩
  · obtain ⟨id, named, _, accepted, _⟩ := login_discipline .empty [] opened
    obtain rfl : "s" = id := Option.some.inj named
    have unedited : ∀ w ∈ [other], ¬ w.operation.Edits "s" := by
      intro w member edits
      cases List.mem_singleton.mp member
      rcases edits with ⟨_, impossible⟩ | impossible <;> cases impossible
    exact congrArg Prod.fst (accepted rfl [other] reuse _ unedited rfl rfl).1
  · obtain ⟨id, named, _, _, refused⟩ := login_discipline .empty [first] failed
    obtain rfl : "t" = id := Option.some.inj named
    have unstored : ∀ w ∈ [vain], ¬ w.operation.Stores "t" := by
      intro w member stores
      cases List.mem_singleton.mp member
      obtain ⟨_, impossible⟩ := stores
      cases impossible
    have unopened : ∀ w ∈ [vain], ∀ k, w.operation.Presents k → given? k.session = some "t" →
        given? k.url = none := by
      intro w member k presents _
      cases List.mem_singleton.mp member
      cases presents
      rfl
    exact (refused _ rfl).2 [vain] again _ unstored unopened rfl rfl (by simp [login, given?])

end PageExtract
