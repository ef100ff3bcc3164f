import Mathlib
import PageExtract.Proofs.Histories
import PageExtract.Proofs.Runs

/-!
Work that has parts side by side. A part may be held up at any step and while it waits for a page;
what the parts came to is put together by their places once all of them are done. However the steps
are scheduled, the work comes to the same as if each part waited for those before it.
-/

set_option autoImplicit false

namespace PageExtract

open Json (Value)

/-- What is left to do. -/
inductive Work where
  | done (outcome : Except Failure Value)
  | emit (e : Event) (rest : Work)
  /-- Goes on with the answer to a page request. -/
  | await (q : PageRequest) (rest : Except FetchFailure String → Work)
  /-- Goes on with what all parts came to, in their places. -/
  | join (parts : List Work) (rest : List (Except Failure Value) → Work)

/-- A fetcher that may change with each request that it answers. -/
abbrev Server (σ : Type) := σ → PageRequest → Except FetchFailure String × σ

/-- The answers depend on the requests alone. -/
def Server.Steady {σ : Type} (server : Server σ) (fetch : Fetch) : Prop :=
  ∀ w q, (server w q).1 = fetch q

/-- What all of the runs came to, in their places. -/
def Run.gather (rs : List (Run Value)) : Run (List (Except Failure Value)) :=
  ⟨.ok (rs.map Run.result), rs.flatMap Run.events⟩

namespace Work

/-- Induction on work, with all parts of a join and all answers at hand. -/
@[elab_as_elim, induction_eliminator]
theorem induct {motive : Work → Prop} (done : ∀ outcome, motive (.done outcome))
    (emit : ∀ e rest, motive rest → motive (.emit e rest))
    (await : ∀ q rest, (∀ answer, motive (rest answer)) → motive (.await q rest))
    (join : ∀ parts rest, (∀ p ∈ parts, motive p) → (∀ outcomes, motive (rest outcomes)) →
      motive (.join parts rest)) (t : Work) : motive t :=
  @Work.rec motive (fun parts => ∀ p ∈ parts, motive p) done emit await join
    (fun _ member => absurd member List.not_mem_nil)
    (fun first rest head tail p member => by
      rcases List.mem_cons.mp member with rfl | later
      · exact head
      · exact tail p later) t

mutual

/-- The run in which each part of a join waits for those before it. -/
def run (fetch : Fetch) : Work → Run Value
  | .done outcome => .ofExcept outcome
  | .emit e rest => (Run.emit e).bind fun _ => run fetch rest
  | .await q rest => run fetch (rest (fetch q))
  | .join parts rest =>
    (Run.gather (runs fetch parts)).bind fun outcomes => run fetch (rest outcomes)
  termination_by structural t => t

def runs (fetch : Fetch) : List Work → List (Run Value)
  | [] => []
  | p :: rest => run fetch p :: runs fetch rest
  termination_by structural parts => parts

end

theorem runs_eq_map (fetch : Fetch) (parts : List Work) :
    runs fetch parts = parts.map (run fetch) := by
  induction parts with
  | nil => rfl
  | cons p rest ih => rw [runs, ih, List.map_cons]

theorem run_join (fetch : Fetch) (parts : List Work) (rest : List (Except Failure Value) → Work) :
    run fetch (.join parts rest) =
      (Run.gather (parts.map (run fetch))).bind fun outcomes => run fetch (rest outcomes) := by
  rw [run, runs_eq_map]

theorem gather_done (fetch : Fetch) (outcomes : List (Except Failure Value)) :
    Run.gather ((outcomes.map done).map (run fetch)) = .pure outcomes := by
  have results : ((outcomes.map done).map (run fetch)).map Run.result = outcomes := by
    rw [List.map_map, List.map_map]
    exact List.map_id outcomes
  have silent : ((outcomes.map done).map (run fetch)).flatMap Run.events = [] := by
    rw [List.map_map, List.flatMap_map]
    exact List.flatMap_eq_nil_iff.mpr fun _ _ => rfl
  exact Run.ext (congrArg Except.ok results) silent

/-- Goes on with the value that the work yields. -/
def andThen : Work → (Value → Work) → Work
  | .done (.ok v), next => next v
  | .done (.error e), _ => .done (.error e)
  | .emit e rest, next => .emit e (rest.andThen next)
  | .await q rest, next => .await q fun answer => (rest answer).andThen next
  | .join parts rest, next => .join parts fun outcomes => (rest outcomes).andThen next
  termination_by structural t => t

/-- What happens at once, before the work. -/
def after (es : List Event) (t : Work) : Work :=
  es.foldr .emit t

/-- Goes on with what a run that doesn't wait comes to. -/
def upon {α : Type} (r : Run α) (next : α → Work) : Work :=
  after r.events (match r.result with
    | .ok a => next a
    | .error e => .done (.error e))

theorem run_after (fetch : Fetch) (es : List Event) (t : Work) :
    run fetch (after es t) = ⟨(run fetch t).result, es ++ (run fetch t).events⟩ := by
  induction es with
  | nil => rfl
  | cons e rest ih =>
      change (Run.emit e).bind (fun _ => run fetch (after rest t)) = _
      rw [ih]
      rfl

theorem run_upon {α : Type} (fetch : Fetch) (r : Run α) (next : α → Work) :
    run fetch (upon r next) = r.bind fun a => run fetch (next a) := by
  rw [upon, run_after]
  cases ended : r.result with
  | ok a => rw [Run.bind_of_ok _ _ a ended]
  | error e =>
      rw [Run.bind_of_error _ _ e ended]
      exact Run.ext rfl (List.append_nil _)

theorem run_andThen (fetch : Fetch) (t : Work) (next : Value → Work) :
    run fetch (t.andThen next) = (run fetch t).bind fun v => run fetch (next v) := by
  induction t with
  | done outcome =>
      cases outcome with
      | ok v => exact (Run.pure_bind v fun v => run fetch (next v)).symm
      | error e => rfl
  | emit e rest ih => rw [andThen, run, run, ih, Run.bind_assoc]
  | await q rest ih => exact ih (fetch q)
  | join parts rest _ ih =>
      rw [andThen, run, run, Run.bind_assoc]
      simp only [ih]

variable {σ : Type}

/-- One step of the work and of the fetcher that it asks. -/
inductive Step (server : Server σ) : σ → Work → List Event → σ → Work → Prop where
  | emit {w : σ} {e : Event} {rest : Work} : Step server w (.emit e rest) [e] w rest
  | answered {w : σ} {q : PageRequest} {rest : Except FetchFailure String → Work} :
      Step server w (.await q rest) [] (server w q).2 (rest (server w q).1)
  /-- Any part may go on. -/
  | part {w w' : σ} {p p' : Work} {es : List Event} {before later : List Work}
      {rest : List (Except Failure Value) → Work} (step : Step server w p es w' p') :
      Step server w (.join (before ++ p :: later) rest) es w' (.join (before ++ p' :: later) rest)
  | joined {w : σ} {outcomes : List (Except Failure Value)}
      {rest : List (Except Failure Value) → Work} :
      Step server w (.join (outcomes.map .done) rest) [] w (rest outcomes)

/-- Steps in any order that the parts allow, with their events. -/
def Schedule (server : Server σ) (w : σ) (t : Work) (es : List Event) (w' : σ) (t' : Work) : Prop :=
  History (fun (s : σ × Work) es (s' : σ × Work) => Step server s.1 s.2 es s'.1 s'.2)
    (w, t) es (w', t')

variable {server : Server σ} {fetch : Fetch} {w w' : σ} {t t' : Work} {es : List Event}

/-- A step leads to what the work comes to anyway. -/
theorem Step.conserves (steady : server.Steady fetch) (step : Step server w t es w' t') :
    (run fetch t').result = (run fetch t).result ∧
      (es ++ (run fetch t').events).Perm (run fetch t).events := by
  induction step with
  | emit => exact ⟨rfl, .refl _⟩
  | @answered q rest =>
      rw [steady w q]
      exact ⟨rfl, .refl _⟩
  | @part w' p p' es before later rest _ ih =>
      obtain ⟨same, moved⟩ := ih
      simp only [run_join, Run.gather, List.map_append, List.map_cons, List.flatMap_append,
        List.flatMap_cons, same]
      refine ⟨rfl, ?_⟩
      rw [Run.bind_of_ok _ _ _ rfl, Run.bind_of_ok _ _ _ rfl]
      simp only [List.append_assoc]
      -- the events of the step are moved behind those of the parts before it
      refine (List.perm_append_comm_assoc _ _ _).trans (.append_left _ ?_)
      rw [← List.append_assoc]
      exact moved.append_right _
  | @joined outcomes rest =>
      rw [run_join, gather_done, Run.pure_bind]
      exact ⟨rfl, .refl _⟩

/-- However its steps are scheduled, the work leads to what it comes to anyway, with the same events
up to their order. -/
theorem Schedule.conserves (steady : server.Steady fetch) (schedule : Schedule server w t es w' t') :
    (run fetch t').result = (run fetch t).result ∧
      (es ++ (run fetch t').events).Perm (run fetch t).events := by
  let Inv : List Event → σ × Work → Prop := fun past s =>
    (run fetch s.2).result = (run fetch t).result ∧
      (past ++ (run fetch s.2).events).Perm (run fetch t).events
  have kept : ∀ {past : List Event} {s : σ × Work} {now : List Event} {s' : σ × Work},
      Inv past s → Step server s.1 s.2 now s'.1 s'.2 → Inv (past ++ now) s' := by
    intro past s now s' reached step
    obtain ⟨same, moved⟩ := step.conserves steady
    refine ⟨same.trans reached.1, ?_⟩
    rw [List.append_assoc]
    exact (moved.append_left past).trans reached.2
  have initial : Inv [] (w, t) := ⟨rfl, .refl _⟩
  exact schedule.preserves Inv kept initial

/-- Work that has ended came to what it comes to anyway. -/
theorem Schedule.outcome (steady : server.Steady fetch) {outcome : Except Failure Value}
    (schedule : Schedule server w t es w' (.done outcome)) :
    outcome = (run fetch t).result ∧ es.Perm (run fetch t).events := by
  obtain ⟨same, events⟩ := schedule.conserves steady
  change (es ++ []).Perm (run fetch t).events at events
  rw [List.append_nil] at events
  exact ⟨same, events⟩

namespace Schedule

theorem refl (server : Server σ) (w : σ) (t : Work) : Schedule server w t [] w t :=
  History.refl (w, t)

theorem trans {middle : σ} {t₁ t₂ t₃ : Work} {first second : List Event}
    (one : Schedule server w t₁ first middle t₂) (two : Schedule server middle t₂ second w' t₃) :
    Schedule server w t₁ (first ++ second) w' t₃ := History.trans one two

theorem single (step : Step server w t es w' t') : Schedule server w t es w' t' :=
  History.single step

/-- While a part goes on, the others wait. -/
theorem part {before later : List Work} {rest : List (Except Failure Value) → Work}
    (schedule : Schedule server w t es w' t') :
    Schedule server w (.join (before ++ t :: later) rest) es w'
      (.join (before ++ t' :: later) rest) :=
  History.lift (fun s : σ × Work => (s.1, Work.join (before ++ s.2 :: later) rest))
    (fun step => step.part) schedule

end Schedule

/-- The work can be brought to an end, with the result and the events of the run. -/
def Completes (server : Server σ) (t : Work) (r : Run Value) : Prop :=
  ∀ w, ∃ w', Schedule server w t r.events w' (.done r.result)

/-- The runs of the work in which the parts of each join are taken one after the other, in any
order. -/
inductive InTurn (fetch : Fetch) : Work → Run Value → Prop where
  | done (outcome : Except Failure Value) : InTurn fetch (.done outcome) (.ofExcept outcome)
  | emit {e : Event} {rest : Work} {r : Run Value} (later : InTurn fetch rest r) :
      InTurn fetch (.emit e rest) ((Run.emit e).bind fun _ => r)
  | await {q : PageRequest} {rest : Except FetchFailure String → Work} {r : Run Value}
      (later : InTurn fetch (rest (fetch q)) r) : InTurn fetch (.await q rest) r
  | join {parts : List (Work × Run Value)} {order : List (Run Value)}
      {rest : List (Except Failure Value) → Work} {last : Run Value}
      (each : ∀ p ∈ parts, InTurn fetch p.1 p.2) (permuted : order.Perm (parts.map Prod.snd))
      (later : InTurn fetch (rest (parts.map fun p => p.2.result)) last) :
      InTurn fetch (.join (parts.map Prod.fst) rest)
        ⟨last.result, order.flatMap Run.events ++ last.events⟩

theorem inTurn_run (fetch : Fetch) (t : Work) : InTurn fetch t (run fetch t) := by
  induction t with
  | done outcome => exact .done outcome
  | emit e rest ih => exact .emit ih
  | await q rest ih => exact .await (ih (fetch q))
  | join parts rest each ih =>
      let paired : List (Work × Run Value) := parts.map fun p => (p, run fetch p)
      have parted : paired.map Prod.fst = parts := by
        rw [List.map_map]
        exact List.map_id parts
      have ended : paired.map Prod.snd = parts.map (run fetch) := List.map_map
      have results : paired.map (fun p => p.2.result) = (parts.map (run fetch)).map Run.result := by
        rw [List.map_map, List.map_map]
        rfl
      have inTurn : ∀ p ∈ paired, InTurn fetch p.1 p.2 := by
        intro p member
        obtain ⟨t, inside, rfl⟩ := List.mem_map.mp member
        exact each t inside
      have whole := InTurn.join inTurn (.refl _) (ih (paired.map fun p => p.2.result))
      rw [parted, ended, results] at whole
      rw [run_join]
      exact whole

/-- Parts that can be brought to an end can be so in the order of their places. -/
theorem completes_in_place {parts : List (Work × Run Value)}
    (each : ∀ p ∈ parts, Completes server p.1 p.2) (ended : List (Except Failure Value))
    (rest : List (Except Failure Value) → Work) (w : σ) :
    ∃ w', Schedule server w (.join (ended.map .done ++ parts.map Prod.fst) rest)
      (parts.flatMap fun p => p.2.events) w'
      (.join ((ended ++ parts.map fun p => p.2.result).map .done) rest) := by
  induction parts generalizing ended w with
  | nil =>
      refine ⟨w, ?_⟩
      simp only [List.map_nil, List.append_nil, List.flatMap_nil]
      exact .refl server w _
  | cons p parts ih =>
      obtain ⟨next, first⟩ := each p List.mem_cons_self w
      obtain ⟨last, others⟩ := ih (fun q member => each q (List.mem_cons_of_mem _ member))
        (ended ++ [p.2.result]) next
      refine ⟨last, ?_⟩
      simp only [List.map_append, List.map_cons, List.map_nil, List.append_assoc,
        List.singleton_append, List.flatMap_cons] at others ⊢
      exact (first.part).trans others

/-- Parts that can be brought to an end can be so in any order. -/
theorem completes_in_order {parts : List (Work × Run Value)} {order quiet : List (Run Value)}
    (each : ∀ p ∈ parts, Completes server p.1 p.2)
    (permuted : (parts.map Prod.snd).Perm (order ++ quiet)) (silent : ∀ r ∈ quiet, r.events = [])
    (rest : List (Except Failure Value) → Work) (w : σ) :
    ∃ w', Schedule server w (.join (parts.map Prod.fst) rest) (order.flatMap Run.events) w'
      (.join ((parts.map fun p => p.2.result).map .done) rest) := by
  induction order generalizing parts quiet w with
  | nil =>
      obtain ⟨last, whole⟩ := completes_in_place each [] rest w
      have none : (parts.flatMap fun p => p.2.events) = [] := by
        rw [List.flatMap_eq_nil_iff]
        intro p member
        exact silent p.2 (permuted.subset (List.mem_map_of_mem member))
      rw [none] at whole
      exact ⟨last, whole⟩
  | cons r order ih =>
      have chosen : r ∈ parts.map Prod.snd := permuted.symm.subset List.mem_cons_self
      obtain ⟨⟨t, _⟩, member, rfl⟩ := List.mem_map.mp chosen
      rename_i r
      obtain ⟨before, later, rfl⟩ := List.append_of_mem member
      obtain ⟨next, first⟩ := each (t, r) member w
      -- the part that has ended stays in its place, with nothing left to do
      let ended : Work × Run Value := (.done r.result, .ofExcept r.result)
      have remaining : ∀ p ∈ before ++ ended :: later, Completes server p.1 p.2 := by
        intro p inside
        rcases List.mem_append.mp inside with front | back
        · exact each p (List.mem_append_left _ front)
        · rcases List.mem_cons.mp back with rfl | back
          · exact fun w => ⟨w, .refl server w _⟩
          · exact each p (List.mem_append_right _ (List.mem_cons_of_mem _ back))
      have others : ((before ++ ended :: later).map Prod.snd).Perm (order ++ ended.2 :: quiet) := by
        rw [List.map_append, List.map_cons] at permuted ⊢
        have unchosen := (List.perm_middle.symm.trans permuted).cons_inv
        exact List.perm_middle.trans ((unchosen.cons _).trans List.perm_middle.symm)
      have stillSilent : ∀ q ∈ ended.2 :: quiet, q.events = [] := by
        intro q inside
        rcases List.mem_cons.mp inside with rfl | inside
        · rfl
        · exact silent q inside
      obtain ⟨last, second⟩ := ih remaining others stillSilent next
      refine ⟨last, ?_⟩
      simp only [List.map_append, List.map_cons, List.flatMap_cons] at second ⊢
      exact first.part.trans second

/-- Every order in which the parts are taken one after the other is a schedule. -/
theorem InTurn.completes {r : Run Value} (steady : server.Steady fetch)
    (inTurn : InTurn fetch t r) : Completes server t r := by
  induction inTurn with
  | done outcome => exact fun w => ⟨w, .refl server w _⟩
  | emit _ ih =>
      intro w
      obtain ⟨last, rest⟩ := ih w
      exact ⟨last, (Schedule.single .emit).trans rest⟩
  | @await q rest r _ ih =>
      intro w
      obtain ⟨last, others⟩ := ih (server w q).2
      rw [← steady w q] at others
      exact ⟨last, (Schedule.single .answered).trans others⟩
  | @join parts order rest last _ permuted _ each ih =>
      intro w
      have complete : (parts.map Prod.snd).Perm (order ++ []) := by
        rw [List.append_nil]
        exact permuted.symm
      obtain ⟨next, parts⟩ := completes_in_order each complete
        (fun _ none => absurd none List.not_mem_nil) rest w
      obtain ⟨last, others⟩ := ih next
      exact ⟨last, parts.trans ((Schedule.single .joined).trans others)⟩

/-- Nothing that was scheduled so far keeps the work from being brought to an end. -/
theorem exists_completion (steady : server.Steady fetch) (w : σ) (t : Work) :
    ∃ es w' outcome, Schedule server w t es w' (.done outcome) := by
  obtain ⟨w', schedule⟩ := (inTurn_run fetch t).completes steady w
  exact ⟨_, w', _, schedule⟩

end Work

end PageExtract
