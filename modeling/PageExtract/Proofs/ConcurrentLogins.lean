import PageExtract.Proofs.Authentications
import PageExtract.Proofs.Histories

/-!
Authentications that overlap on one store. Each waits only for its login, and while it waits any
other operation may run. A jar is in the store as soon as its login begins, so a call that finds it
there returns it without waiting: it is returned before its login has succeeded exactly if that
login is still under way.
-/

set_option autoImplicit false

namespace PageExtract

/-- An authentication whose login has begun and not ended. -/
structure Attempt where
  id : String
  jar : Jar
  login : Login

/-- A store in use by several callers, with the authentications that wait for their logins. -/
structure Traffic where
  sessions : Sessions
  pending : List Attempt

inductive Happening where
  /-- A call of an authentication has returned. -/
  | replied (login : Option Login) (result : Except AuthFailure (Option Jar))
  | loggedIn (jar : Jar)
  | stored (id : String) (jar : Jar)
  | removed (id : String)

namespace Traffic

/-- What may happen next: a call begins, a login ends, or an entry of the store is set or
removed. -/
inductive Step : Traffic → List Happening → Traffic → Prop where
  | settled {t : Traffic} {login : Option Login} {result : Except AuthFailure (Option Jar)}
      {after : Sessions} (begun : t.sessions.begin login = (.settled result, after)) :
      Step t [.replied login result] { t with sessions := after }
  | opened {t : Traffic} {login : Option Login} {id : String} {jar : Jar} {l : Login}
      {after : Sessions} (begun : t.sessions.begin login = (.pending id jar l, after)) :
      Step t [] ⟨after, ⟨id, jar, l⟩ :: t.pending⟩
  | accepted {t : Traffic} {a : Attempt} {earlier later : List Attempt}
      {result : Except AuthFailure (Option Jar)} {after : Sessions}
      (waiting : t.pending = earlier ++ a :: later)
      (finished : t.sessions.finish a.id a.jar (.ok ()) = (result, after)) :
      Step t [.loggedIn a.jar, .replied (some a.login) result] ⟨after, earlier ++ later⟩
  | refused {t : Traffic} {a : Attempt} {earlier later : List Attempt} {cause : FetchFailure}
      {result : Except AuthFailure (Option Jar)} {after : Sessions}
      (waiting : t.pending = earlier ++ a :: later)
      (finished : t.sessions.finish a.id a.jar (.error cause) = (result, after)) :
      Step t [.replied (some a.login) result] ⟨after, earlier ++ later⟩
  | put {t : Traffic} (id : String) (jar : Jar) :
      Step t [.stored id jar] { t with sessions := t.sessions.put id jar }
  | remove {t : Traffic} (id : String) :
      Step t [.removed id] { t with sessions := t.sessions.remove id }

/-- Nobody has stored a jar but authentications. -/
def Unstored (past : List Happening) : Prop :=
  ∀ id jar, .stored id jar ∉ past

/-- A stored jar has been logged in with, or waits for the login that was begun with it under the
same id. The jars of different logins differ. -/
structure Sound (past : List Happening) (t : Traffic) : Prop where
  stored : ∀ e ∈ t.sessions.jars,
    .loggedIn e.2 ∈ past ∨ ∃ a ∈ t.pending, a.id = e.1 ∧ a.jar = e.2
  waiting : ∀ a ∈ t.pending, .loggedIn a.jar ∉ past
  distinct : (t.pending.map Attempt.jar).Nodup
  numbered : ∀ a ∈ t.pending, a.jar < t.sessions.next
  used : ∀ jar, .loggedIn jar ∈ past → jar < t.sessions.next

namespace Sound

variable {past : List Happening} {t : Traffic}

/-- Attempts for the same jar are the same. -/
theorem eq_of_jar_eq (sound : t.Sound past) {a b : Attempt} (first : a ∈ t.pending)
    (second : b ∈ t.pending) (same : a.jar = b.jar) : a = b :=
  List.inj_on_of_nodup_map sound.distinct first second same

theorem opened (sound : t.Sound past) {l : Login} {id : String} :
    Traffic.Sound past ⟨t.sessions.opened id, ⟨id, t.sessions.next, l⟩ :: t.pending⟩ := by
  have grown : (t.sessions.opened id).next = t.sessions.next + 1 := rfl
  constructor
  · intro e member
    rcases Entries.mem_insert member with rfl | old
    · exact .inr ⟨_, List.mem_cons_self, rfl, rfl⟩
    · rcases sound.stored e old with done | ⟨a, waits, named, same⟩
      · exact .inl done
      · exact .inr ⟨a, List.mem_cons_of_mem _ waits, named, same⟩
  · intro a member
    rcases List.mem_cons.mp member with rfl | old
    · intro done
      exact Nat.lt_irrefl _ (sound.used _ done)
    · exact sound.waiting a old
  · have fresh : t.sessions.next ∉ t.pending.map Attempt.jar := by
      intro taken
      obtain ⟨a, waits, same⟩ := List.mem_map.mp taken
      have below := sound.numbered a waits
      rw [same] at below
      exact Nat.lt_irrefl _ below
    exact List.nodup_cons.mpr ⟨fresh, sound.distinct⟩
  · intro a member
    rw [grown]
    rcases List.mem_cons.mp member with rfl | old
    · exact Nat.lt_succ_self _
    · exact Nat.lt_succ_of_lt (sound.numbered a old)
  · intro jar done
    rw [grown]
    exact Nat.lt_succ_of_lt (sound.used jar done)

/-- Once its login has succeeded, an attempt is over and its jar is one that was logged in with. -/
theorem accepted (sound : t.Sound past) {a : Attempt} {earlier later : List Attempt}
    (waits : t.pending = earlier ++ a :: later) (result : Except AuthFailure (Option Jar)) :
    Traffic.Sound (past ++ [.loggedIn a.jar, .replied (some a.login) result])
      ⟨t.sessions, earlier ++ later⟩ := by
  have here : a ∈ t.pending := waits ▸ List.mem_append_right _ List.mem_cons_self
  have still : ∀ b ∈ earlier ++ later, b ∈ t.pending := by
    intro b member
    rw [waits]
    exact List.Sublist.mem member ((List.sublist_cons_self a later).append_left earlier)
  have distinct : ((earlier ++ a :: later).map Attempt.jar).Nodup := waits ▸ sound.distinct
  have others : ((earlier ++ later).map Attempt.jar).Nodup ∧
      a.jar ∉ (earlier ++ later).map Attempt.jar := by
    rw [List.map_append, List.map_cons, List.nodup_middle] at distinct
    rw [List.map_append]
    exact ⟨(List.nodup_cons.mp distinct).2, (List.nodup_cons.mp distinct).1⟩
  constructor
  · intro e member
    rcases sound.stored e member with done | ⟨b, among, named, same⟩
    · exact .inl (List.mem_append_left _ done)
    · rw [waits, List.mem_append, List.mem_cons] at among
      rcases among with before | rfl | after
      · exact .inr ⟨b, List.mem_append_left _ before, named, same⟩
      · exact .inl (by simp [same])
      · exact .inr ⟨b, List.mem_append_right _ after, named, same⟩
  · intro b member done
    rcases List.mem_append.mp done with old | new
    · exact sound.waiting b (still b member) old
    · have same : b.jar = a.jar := by simpa using new
      exact others.2 (same ▸ List.mem_map_of_mem member)
  · exact others.1
  · exact fun b member => sound.numbered b (still b member)
  · intro jar done
    rcases List.mem_append.mp done with old | new
    · exact sound.used jar old
    · have same : jar = a.jar := by simpa using new
      exact same ▸ sound.numbered a here

/-- What fewer jars in the store and fewer attempts leave, as long as each stored jar that waits for
a login still has its attempt. -/
theorem shrunk (sound : t.Sound past) {now : List Happening} {jars : List (String × Jar)}
    {pending : List Attempt} (quiet : ∀ jar, .loggedIn jar ∉ now)
    (fewer : ∀ e ∈ jars, e ∈ t.sessions.jars) (still : pending.Sublist t.pending)
    (kept : ∀ e ∈ jars, ∀ a ∈ t.pending, a.id = e.1 → a ∈ pending) :
    Traffic.Sound (past ++ now) ⟨⟨jars, t.sessions.next⟩, pending⟩ := by
  have silent : ∀ jar, .loggedIn jar ∈ past ++ now → .loggedIn jar ∈ past := by
    intro jar done
    exact (List.mem_append.mp done).resolve_right (quiet jar)
  constructor
  · intro e member
    rcases sound.stored e (fewer e member) with done | ⟨a, waits, named, same⟩
    · exact .inl (List.mem_append_left _ done)
    · exact .inr ⟨a, kept e member a waits named, named, same⟩
  · exact fun a member done => sound.waiting a (still.mem member) (silent _ done)
  · exact (still.map Attempt.jar).nodup sound.distinct
  · exact fun a member => sound.numbered a (still.mem member)
  · exact fun jar done => sound.used jar (silent jar done)

/-- Every step keeps the store sound, unless somebody stores a jar of its own. -/
theorem step (sound : t.Sound past) {now : List Happening} {t' : Traffic} (step : t.Step now t')
    (unstored : Unstored now) : t'.Sound (past ++ now) := by
  cases step with
  | settled begun =>
      obtain ⟨_, rfl⟩ := Sessions.of_begin_settled begun
      exact sound.shrunk (by simp) (fun _ member => member) (.refl _) fun _ _ _ waits _ => waits
  | opened begun =>
      obtain ⟨_, _, rfl, rfl⟩ := Sessions.of_begin_pending begun
      rw [List.append_nil]
      exact sound.opened
  | @accepted a earlier later result after waits finished =>
      cases finished
      exact sound.accepted waits _
  | @refused a earlier later cause result after waits finished =>
      cases finished
      have fewer : ∀ e ∈ Entries.erase a.id t.sessions.jars, e ∈ t.sessions.jars ∧ e.1 ≠ a.id := by
        intro e member
        simpa [Entries.erase] using member
      refine sound.shrunk (by simp) (fun e member => (fewer e member).1) ?_ ?_
      · rw [waits]
        exact (List.sublist_cons_self a later).append_left earlier
      · -- an entry that is left has another id than the attempt that is over
        intro e member b among named
        have other : b ≠ a := fun same => (fewer e member).2 (by rw [← named, same])
        rw [waits, List.mem_append, List.mem_cons] at among
        rw [List.mem_append]
        rcases among with before | same | after
        · exact .inl before
        · exact absurd same other
        · exact .inr after
  | put id jar => exact absurd List.mem_cons_self (unstored id jar)
  | remove id =>
      refine sound.shrunk (by simp) (fun e member => ?_) (.refl _) fun _ _ _ waits _ => waits
      exact List.mem_of_mem_filter member

end Sound

/-- Nobody uses the store yet. -/
def start (next : Jar) : Traffic :=
  ⟨⟨[], next⟩, []⟩

theorem start_sound (next : Jar) : (start next).Sound [] :=
  ⟨fun _ => nofun, fun _ => nofun, .nil, fun _ => nofun, fun _ => nofun⟩

theorem Sound.of_history {next : Jar} {past : List Happening} {t : Traffic}
    (history : History Step (start next) past t) (unstored : Unstored past) : t.Sound past := by
  have kept : ∀ {before : List Happening} {u : Traffic} {now : List Happening} {u' : Traffic},
      (Unstored before → u.Sound before) → u.Step now u' →
      Unstored (before ++ now) → u'.Sound (before ++ now) := by
    intro before u now u' sound step silent
    refine (sound fun id jar member => ?_).step step fun id jar member => ?_
    · exact silent id jar (List.mem_append_left _ member)
    · exact silent id jar (List.mem_append_right _ member)
  have initial : Unstored [] → (start next).Sound [] := fun _ => start_sound next
  have whole : Unstored ([] ++ past) → t.Sound ([] ++ past) :=
    history.preserves (fun past t => Unstored past → t.Sound past) kept initial
  exact whole unstored

/-- A call returns a jar at once, if the store has one for its session, or when its own login has
succeeded. -/
theorem Step.replied_jar {t t' : Traffic} {now : List Happening} {l : Login} {jar : Jar}
    (step : t.Step now t') (replied : .replied (some l) (.ok (some jar)) ∈ now) :
    Unstored now ∧ (.loggedIn jar ∈ now ∨
      t' = t ∧ ∃ id, Sessions.given? l.session = some id ∧ t.sessions.get? id = some jar) := by
  cases step with
  | settled begun =>
      cases List.mem_singleton.mp replied
      obtain ⟨settles, rfl⟩ := Sessions.of_begin_settled begun
      cases settles with
      | known named stored => exact ⟨by simp [Unstored], .inr ⟨rfl, _, named, stored⟩⟩
  | opened begun => cases replied
  | accepted waiting finished =>
      cases finished
      rcases List.mem_cons.mp replied with impossible | last
      · cases impossible
      · cases List.mem_singleton.mp last
        exact ⟨by simp [Unstored], .inl List.mem_cons_self⟩
  | refused waiting finished =>
      cases finished
      cases List.mem_singleton.mp replied
  | put id jar => cases List.mem_singleton.mp replied
  | remove id => cases List.mem_singleton.mp replied

end Traffic

/-- A jar that a call returns has been logged in with, exactly unless its login is still under way;
the call has then found it in the store, where the login was begun for the same session. -/
theorem replied_jar_logged_in_iff {next : Jar} {past now : List Happening} {t t' : Traffic}
    {l : Login} {jar : Jar} (history : History Traffic.Step (.start next) past t)
    (unstored : Traffic.Unstored past) (step : t.Step now t')
    (replied : .replied (some l) (.ok (some jar)) ∈ now) :
    (.loggedIn jar ∈ past ++ now ↔ ∀ a ∈ t'.pending, a.jar ≠ jar) ∧
    ∀ a ∈ t'.pending, a.jar = jar → t' = t ∧ Sessions.given? l.session = some a.id := by
  obtain ⟨silent, source⟩ := step.replied_jar replied
  have sound : t.Sound past := .of_history history unstored
  have after : t'.Sound (past ++ now) := sound.step step silent
  have ended : .loggedIn jar ∈ past ++ now → ∀ a ∈ t'.pending, a.jar ≠ jar := by
    intro done a waits same
    exact after.waiting a waits (same ▸ done)
  rcases source with fresh | ⟨rfl, id, named, stored⟩
  · have done : .loggedIn jar ∈ past ++ now := List.mem_append_right _ fresh
    exact ⟨⟨ended, fun _ => done⟩, fun a waits same => absurd same (ended done a waits)⟩
  · have entry := sound.stored (id, jar) (Entries.mem_of_get? stored)
    refine ⟨⟨ended, fun idle => ?_⟩, fun a waits same => ⟨rfl, ?_⟩⟩
    · rcases entry with done | ⟨a, waits, _, same⟩
      · exact List.mem_append_left _ done
      · exact absurd same (idle a waits)
    · rcases entry with done | ⟨b, also, sameId, sameJar⟩
      · exact absurd same (ended (List.mem_append_left _ done) a waits)
      · rw [sound.eq_of_jar_eq waits also (same.trans sameJar.symm), sameId]
        exact named

/-- A second call for a session returns the jar of the first while that waits for its login, which
is then refused: nobody ever logged in with this jar. -/
theorem jar_replied_before_login :
    let l : Login := { Login.standard with session := some "s", url := some "a:login" }
    let waiting : Traffic := ⟨⟨[("s", 0)], 1⟩, [⟨"s", 0, l⟩]⟩
    let refusal : FetchFailure := .status "a:login" 401
    History Traffic.Step (.start 0) [] waiting ∧
    waiting.Step [.replied (some l) (.ok (some 0))] waiting ∧
    .loggedIn 0 ∉ [Happening.replied (some l) (.ok (some 0))] ∧
    waiting.Step [.replied (some l) (.error (.login refusal))] (.start 1) := by
  intro l waiting refusal
  have first : (Traffic.start 0).Step [] waiting :=
    @Traffic.Step.opened (.start 0) (some l) "s" 0 l ⟨[("s", 0)], 1⟩ (by rfl)
  have second : waiting.Step [.replied (some l) (.ok (some 0))] waiting := .settled (by rfl)
  have last : waiting.Step [.replied (some l) (.error (.login refusal))] (.start 1) :=
    @Traffic.Step.refused waiting ⟨"s", 0, l⟩ [] [] refusal _ ⟨[], 1⟩ rfl (by rfl)
  exact ⟨.single first, second, by simp, last⟩

/-- Once the first call is back with its jar, a second one gets the jar with the login made. -/
theorem replied_jar_logged_in_second_call :
    let l : Login := { Login.standard with session := some "s", url := some "a:login" }
    let past : List Happening := [.loggedIn 0, .replied (some l) (.ok (some 0))]
    let t : Traffic := ⟨⟨[("s", 0)], 1⟩, []⟩
    History Traffic.Step (.start 0) past t ∧ t.Step [.replied (some l) (.ok (some 0))] t ∧
    .loggedIn 0 ∈ past ++ [.replied (some l) (.ok (some 0))] := by
  intro l past t
  have opened : (Traffic.start 0).Step [] ⟨t.sessions, [⟨"s", 0, l⟩]⟩ :=
    @Traffic.Step.opened (.start 0) (some l) "s" 0 l t.sessions (by rfl)
  have accepted : Traffic.Step ⟨t.sessions, [⟨"s", 0, l⟩]⟩ past t :=
    @Traffic.Step.accepted ⟨t.sessions, [⟨"s", 0, l⟩]⟩ ⟨"s", 0, l⟩ [] [] _ t.sessions rfl rfl
  have history : History Traffic.Step (.start 0) past t := .next opened (.single accepted)
  have again : t.Step [.replied (some l) (.ok (some 0))] t := .settled (by rfl)
  have unstored : Traffic.Unstored past := by simp [Traffic.Unstored, past]
  refine ⟨history, again, ?_⟩
  exact (replied_jar_logged_in_iff history unstored again List.mem_cons_self).1.mpr fun _ => nofun

end PageExtract
