import PageExtract.Proofs.ConcurrentLogins

/-!
What a failed login takes out of the store: the entry of its session, whoever put it there. While
the login was under way, another operation may have stored a jar of its own under the same id, and
then that jar is lost. Main result: `refusal_keeps_stored_iff`.
-/

set_option autoImplicit false

namespace PageExtract

namespace Traffic

/-- A step, with what happened in it. -/
structure Passage where
  before : Traffic
  happenings : List Happening
  after : Traffic

/-- The step sets the entry of the id to the jar, by a `put` or because an authentication opens the
session. -/
def Passage.Stores (p : Passage) (id : String) (jar : Jar) : Prop :=
  .stored id jar ∈ p.happenings ∨ ∃ l, p.after.pending = ⟨id, jar, l⟩ :: p.before.pending

/-- A step that leaves a record of itself. -/
inductive Recorded : Traffic → List Passage → Traffic → Prop where
  | intro {t t' : Traffic} {now : List Happening} (step : t.Step now t') :
      Recorded t [⟨t, now, t'⟩] t'

/-- A step that begins no authentication stores what it says. -/
theorem Passage.stores_iff_of_length_le {p : Passage}
    (fewer : p.after.pending.length ≤ p.before.pending.length) {id : String} {jar : Jar} :
    p.Stores id jar ↔ .stored id jar ∈ p.happenings := by
  refine or_iff_left ?_
  rintro ⟨l, grown⟩
  have longer := congrArg List.length grown
  rw [List.length_cons] at longer
  omega

/-- An entry of the store is as a step has set it, or else gone or as it was. -/
theorem Step.entry_cases {t t' : Traffic} {now : List Happening} (step : t.Step now t')
    (id : String) :
    (∃ jar, Passage.Stores ⟨t, now, t'⟩ id jar ∧ t'.sessions.get? id = some jar) ∨
    (∀ jar, ¬ Passage.Stores ⟨t, now, t'⟩ id jar) ∧
      (t'.sessions.get? id = none ∨ t'.sessions.get? id = t.sessions.get? id) := by
  cases step with
  | settled begun =>
      obtain ⟨_, rfl⟩ := Sessions.of_begin_settled begun
      refine .inr ⟨fun jar => ?_, .inr rfl⟩
      rw [Passage.stores_iff_of_length_le (Nat.le_refl _)]
      simp
  | @opened _ opened jar l after begun =>
      obtain ⟨_, _, rfl, rfl⟩ := Sessions.of_begin_pending begun
      by_cases same : id = opened
      · refine .inl ⟨t.sessions.next, .inr ⟨l, by rw [same]⟩, ?_⟩
        rw [same]
        exact Sessions.get?_opened_self opened
      · refine .inr ⟨fun jar => ?_, .inr (Sessions.get?_opened_of_ne same)⟩
        rintro (impossible | ⟨m, grown⟩)
        · cases impossible
        · cases grown
          exact same rfl
  | @accepted a earlier later result after waiting finished =>
      cases finished
      refine .inr ⟨fun jar => ?_, .inr rfl⟩
      rw [Passage.stores_iff_of_length_le (by simp [waiting])]
      simp
  | @refused a earlier later cause result after waiting finished =>
      cases finished
      refine .inr ⟨fun jar => ?_, ?_⟩
      · rw [Passage.stores_iff_of_length_le (by simp [waiting])]
        simp
      · by_cases same : id = a.id
        · rw [same]
          exact .inl (Entries.get?_erase_self a.id t.sessions.jars)
        · exact .inr (Entries.get?_erase_of_ne same t.sessions.jars)
  | put stored jar =>
      by_cases same : id = stored
      · rw [same]
        exact .inl ⟨jar, .inl List.mem_cons_self, Entries.get?_insert_self stored jar _⟩
      · refine .inr ⟨fun other => ?_, .inr (Entries.get?_insert_of_ne same jar _)⟩
        rw [Passage.stores_iff_of_length_le (Nat.le_refl _)]
        simp [same]
  | remove removed =>
      refine .inr ⟨fun jar => ?_, ?_⟩
      · rw [Passage.stores_iff_of_length_le (Nat.le_refl _)]
        simp
      · by_cases same : id = removed
        · rw [same]
          exact .inl (Entries.get?_erase_self removed t.sessions.jars)
        · exact .inr (Entries.get?_erase_of_ne same t.sessions.jars)

/-- What stands under an id after a run that began with a jar of one's own there: nothing, that jar
if no step of the run has stored another, or a jar that a step of the run has stored. -/
inductive Standing (id : String) (own : Jar) (run : List Passage) (t : Traffic) : Prop where
  | absent (gone : t.sessions.get? id = none)
  | own (kept : t.sessions.get? id = some own) (alone : ∀ p ∈ run, ∀ jar, ¬ p.Stores id jar)
  | other {p : Passage} {jar : Jar} (member : p ∈ run) (stores : p.Stores id jar)
      (there : t.sessions.get? id = some jar)

theorem Standing.step {id : String} {own : Jar} {run now : List Passage} {t t' : Traffic}
    (standing : t.Standing id own run) (recorded : Recorded t now t') :
    t'.Standing id own (run ++ now) := by
  obtain ⟨step⟩ := recorded
  rcases step.entry_cases id with ⟨jar, stores, there⟩ | ⟨silent, gone | same⟩
  · exact .other (List.mem_append_right _ List.mem_cons_self) stores there
  · exact .absent gone
  · cases standing with
    | absent gone => exact .absent (same.trans gone)
    | own kept alone =>
        refine .own (same.trans kept) fun p member => ?_
        rcases List.mem_append.mp member with early | late
        · exact alone p early
        · rw [List.mem_singleton.mp late]
          exact silent
    | other member stores there =>
        exact .other (List.mem_append_left _ member) stores (same.trans there)

theorem Standing.of_history {id : String} {own : Jar} {run : List Passage} {t u : Traffic}
    (history : History Recorded t run u) (initial : t.sessions.get? id = some own) :
    u.Standing id own run := by
  have start : t.Standing id own [] := .own initial fun _ => nofun
  have whole : u.Standing id own ([] ++ run) :=
    history.preserves (fun run u => u.Standing id own run) Standing.step start
  exact whole

end Traffic

namespace Attempt

open Traffic (Passage Recorded)

/-- The step with which an attempt begins: its jar is stored and its login is made. -/
inductive Begins (a : Attempt) : Traffic → Traffic → Prop where
  | intro {t : Traffic} {login : Option Login} {after : Sessions}
      (begun : t.sessions.begin login = (.pending a.id a.jar a.login, after)) :
      Begins a t ⟨after, a :: t.pending⟩

/-- The step with which an attempt ends whose login has failed. -/
inductive Fails (a : Attempt) : Traffic → Traffic → Prop where
  | intro {t : Traffic} {earlier later : List Attempt} {cause : FetchFailure}
      {result : Except AuthFailure (Option Jar)} {after : Sessions}
      (waiting : t.pending = earlier ++ a :: later)
      (finished : t.sessions.finish a.id a.jar (.error cause) = (result, after)) :
      Fails a t ⟨after, earlier ++ later⟩

variable {a : Attempt} {t s u v : Traffic}

theorem Begins.step (begins : a.Begins t s) : t.Step [] s := by
  obtain ⟨begun⟩ := begins
  exact .opened begun

theorem Fails.step (fails : a.Fails u v) :
    ∃ result, u.Step [.replied (some a.login) result] v := by
  obtain ⟨waiting, finished⟩ := fails
  exact ⟨_, .refused waiting finished⟩

/-- An attempt begins with its own jar in the store. -/
theorem Begins.stored (begins : a.Begins t s) : s.sessions.get? a.id = some a.jar := by
  obtain ⟨begun⟩ := begins
  obtain ⟨_, _, same, rfl⟩ := Sessions.of_begin_pending begun
  rw [same]
  exact Sessions.get?_opened_self a.id

/-- A failed login takes out the entry of its session and leaves all others. -/
theorem Fails.entries (fails : a.Fails u v) : v.sessions.get? a.id = none ∧
    ∀ other, other ≠ a.id → v.sessions.get? other = u.sessions.get? other := by
  obtain ⟨_, finished⟩ := fails
  cases finished
  exact ⟨Entries.get?_erase_self a.id _, fun other differs => Entries.get?_erase_of_ne differs _⟩

end Attempt

/-- What others have stored for a session while a login for it was under way, and what is still
there, outlasts the failure of that login exactly if there is no such jar: nobody has stored one
since the call had stored its own, or none is there any more. If nobody has, the call takes out its
own jar only. Jars of other sessions always stay. -/
theorem refusal_keeps_stored_iff {a : Attempt} {t s u v : Traffic} {run : List Traffic.Passage}
    (begins : a.Begins t s) (meanwhile : History Traffic.Recorded s run u) (fails : a.Fails u v) :
    ((∀ p ∈ run, ∀ jar, p.Stores a.id jar → u.sessions.get? a.id = some jar →
        v.sessions.get? a.id = some jar) ↔
      u.sessions.get? a.id = none ∨ ∀ p ∈ run, ∀ jar, ¬ p.Stores a.id jar) ∧
    ((∀ p ∈ run, ∀ jar, ¬ p.Stores a.id jar) →
      ∀ jar, u.sessions.get? a.id = some jar → jar = a.jar) ∧
    v.sessions.get? a.id = none ∧
    ∀ other, other ≠ a.id → v.sessions.get? other = u.sessions.get? other := by
  obtain ⟨gone, others⟩ := fails.entries
  have standing : u.Standing a.id a.jar run := .of_history meanwhile begins.stored
  refine ⟨⟨fun keeps => ?_, ?_⟩, fun alone jar there => ?_, gone, others⟩
  · cases standing with
    | absent gone => exact .inl gone
    | own _ alone => exact .inr alone
    | other member stores there =>
        have kept := keeps _ member _ stores there
        rw [gone] at kept
        cases kept
  · rintro (absent | alone) p member jar stores there
    · rw [absent] at there
      cases there
    · exact absurd stores (alone p member jar)
  · cases standing with
    | absent absent =>
        rw [absent] at there
        cases there
    | own kept _ =>
        rw [kept] at there
        exact (Option.some.inj there).symm
    | other member stores _ => exact absurd stores (alone _ member _)

/-- A jar that is put under another id while a login is under way stays when the login fails. -/
theorem refusal_keeps_stored_beside :
    let l : Login := { Login.standard with session := some "s", url := some "a:login" }
    let a : Attempt := ⟨"s", 0, l⟩
    let waiting : Traffic := ⟨⟨[("s", 0)], 1⟩, [a]⟩
    let stored : Traffic := ⟨⟨[("s", 0), ("t", 1)], 1⟩, [a]⟩
    let after : Traffic := ⟨⟨[("t", 1)], 1⟩, []⟩
    a.Begins (.start 0) waiting ∧
    History Traffic.Recorded waiting [⟨waiting, [.stored "t" 1], stored⟩] stored ∧
    a.Fails stored after ∧ after.sessions.get? "t" = some 1 ∧
    ∀ jar, stored.sessions.get? "s" = some jar → jar = 0 := by
  intro l a waiting stored after
  have begins : a.Begins (.start 0) waiting :=
    @Attempt.Begins.intro a (.start 0) (some l) waiting.sessions (by rfl)
  have put : waiting.Step [.stored "t" 1] stored := .put "t" 1
  have meanwhile : History Traffic.Recorded waiting [⟨waiting, [.stored "t" 1], stored⟩] stored :=
    .single (.intro put)
  have fails : a.Fails stored after :=
    @Attempt.Fails.intro a stored [] [] (.status "a:login" 401) _ after.sessions rfl (by rfl)
  obtain ⟨_, own, _, others⟩ := refusal_keeps_stored_iff begins meanwhile fails
  refine ⟨begins, meanwhile, fails, ?_, own fun p member jar => ?_⟩
  · rw [others "t" (by decide)]
    rfl
  · rw [List.mem_singleton.mp member, Traffic.Passage.stores_iff_of_length_le (Nat.le_refl _)]
    simp [a]

/-- A jar that is put under the id of a login under way is lost when the login fails. -/
theorem refusal_withdraws_stored :
    let l : Login := { Login.standard with session := some "s", url := some "a:login" }
    let a : Attempt := ⟨"s", 0, l⟩
    let waiting : Traffic := ⟨⟨[("s", 0)], 1⟩, [a]⟩
    let stored : Traffic := ⟨⟨[("s", 1)], 1⟩, [a]⟩
    let after : Traffic := ⟨⟨[], 1⟩, []⟩
    (∃ result, History Traffic.Step (.start 0) [.stored "s" 1, .replied (some l) result] after) ∧
    a.Begins (.start 0) waiting ∧
    History Traffic.Recorded waiting [⟨waiting, [.stored "s" 1], stored⟩] stored ∧
    Traffic.Passage.Stores ⟨waiting, [.stored "s" 1], stored⟩ "s" 1 ∧
    a.Fails stored after ∧ stored.sessions.get? "s" = some 1 ∧
    after.sessions.get? "s" ≠ some 1 := by
  intro l a waiting stored after
  have begins : a.Begins (.start 0) waiting :=
    @Attempt.Begins.intro a (.start 0) (some l) waiting.sessions (by rfl)
  have put : waiting.Step [.stored "s" 1] stored := .put "s" 1
  have fails : a.Fails stored after :=
    @Attempt.Fails.intro a stored [] [] (.status "a:login" 401) _ after.sessions rfl (by rfl)
  obtain ⟨result, last⟩ := fails.step
  have whole : History Traffic.Step (.start 0) [.stored "s" 1, .replied (some l) result] after :=
    .next begins.step (.next put (.single last))
  exact ⟨⟨result, whole⟩, begins, .single (.intro put), .inl List.mem_cons_self, fails, by rfl,
    by decide⟩

end PageExtract
