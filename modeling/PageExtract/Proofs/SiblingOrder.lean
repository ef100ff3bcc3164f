import Mathlib
import PageExtract.Proofs.Scrapes
import PageExtract.Proofs.Work

/-!
Evaluations as work to do. The fields of a mapping and the items of a list go on side by side, those
of linked pages too, and are put together by their places. So neither what an evaluation comes to nor
what is reported and asked for depends on their order. Main result: `sibling_order_immaterial`.
-/

set_option autoImplicit false

namespace PageExtract

open Json (Value)

theorem items_map_ofExcept (rs : List (Run Value)) :
    items ((rs.map Run.result).map Run.ofExcept) = items rs := by
  induction rs with
  | nil => rfl
  | cons r rest ih =>
      simp only [List.map_cons, items, ih]
      rfl

theorem listed_result_congr {run other : Html.NodeId → Run Value} {ns : List Html.NodeId}
    (same : ∀ n ∈ ns, (run n).result = (other n).result) :
    (listed (ns.map run)).result = (listed (ns.map other)).result := by
  have results : (ns.map run).map Run.result = (ns.map other).map Run.result := by
    rw [List.map_map, List.map_map]
    exact List.map_congr_left same
  simp only [listed]
  rw [← items_map_ofExcept, results, items_map_ofExcept]

/-- A list is made of what its items came to. -/
theorem gather_listed (rs : List (Run Value)) :
    ((Run.gather rs).bind fun outcomes => listed (outcomes.map Run.ofExcept)) = listed rs := by
  have silent : ((rs.map Run.result).map Run.ofExcept).flatMap Run.events = [] := by
    rw [List.map_map, List.flatMap_map]
    exact List.flatMap_eq_nil_iff.mpr fun _ _ => rfl
  rw [Run.bind_of_ok _ _ _ rfl]
  apply Run.ext
  · simp only [listed, items_map_ofExcept]
  · simp only [listed, silent, List.append_nil]
    rfl

namespace FieldRun

/-- A field of which only what it came to is left. -/
def settled (f : String × Plan) (outcome : Except Failure Value) : FieldRun :=
  ⟨f.1, f.2.fallback, .ofExcept outcome⟩

/-- A mapping is put together from what its fields came to. -/
theorem collect_settled (policy : Policy) (fs : List (String × Plan))
    (run : String × Plan → Run Value) (object errors : List (String × Value)) :
    collect policy (fs.map fun f => settled f (run f).result) object errors =
      collect policy (fs.map fun f => ⟨f.1, f.2.fallback, run f⟩) object errors := by
  induction fs generalizing object errors with
  | nil => rfl
  | cons f rest ih =>
      simp only [List.map_cons, collect, ih]
      rfl

theorem assemble_result_congr {policy : Policy} {fs : List (String × Plan)}
    {run other : String × Plan → Run Value} (same : ∀ f ∈ fs, (run f).result = (other f).result) :
    (assemble policy (fs.map fun f => ⟨f.1, f.2.fallback, run f⟩)).result =
      (assemble policy (fs.map fun f => ⟨f.1, f.2.fallback, other f⟩)).result := by
  rw [assemble_result, assemble_result, ← collect_settled, ← collect_settled]
  congr 2
  exact List.map_congr_left fun f member => by rw [same f member]

theorem gather_assemble (policy : Policy) (fs : List (String × Plan))
    (run : String × Plan → Run Value) :
    ((Run.gather (fs.map run)).bind fun outcomes =>
      assemble policy (List.zipWith settled fs outcomes)) =
      assemble policy (fs.map fun f => ⟨f.1, f.2.fallback, run f⟩) := by
  have placed : List.zipWith settled fs ((fs.map run).map Run.result) =
      fs.map fun f => settled f (run f).result := by
    rw [List.map_map, List.zipWith_map_right, List.zipWith_self]
    rfl
  have silent :
      ((fs.map fun f => settled f (run f).result).flatMap fun f => f.run.events) = [] := by
    rw [List.flatMap_map]
    exact List.flatMap_eq_nil_iff.mpr fun _ _ => rfl
  rw [Run.bind_of_ok _ _ _ rfl, placed]
  apply Run.ext
  · rw [assemble_result, assemble_result, collect_settled]
  · simp only [assemble_events, silent, List.append_nil, Run.gather, List.flatMap_map]

end FieldRun

namespace Work

def yield (v : Value) : Work :=
  .done (.ok v)

theorem run_upon_yield (fetch : Fetch) (r : Run Value) : run fetch (.upon r yield) = r :=
  (run_upon fetch r yield).trans (Run.bind_pure r)

/-- All fields of a mapping side by side. -/
def mapping (policy : Policy) (fs : List (String × Plan)) (parts : List Work) : Work :=
  .join parts fun outcomes =>
    .upon (FieldRun.assemble policy (List.zipWith FieldRun.settled fs outcomes)) .yield

/-- Goes on with a value that the filter keeps. -/
def gated (filter : Option Filter) (v : Value) (next : Work) : Work :=
  if Filter.admits filter v then .after (Filter.notes filter v) next else .yield .null

/-- Goes on with the page that a link leads to. -/
def linked (policy : Policy) (v : Visit) (focus : Focus) (link : Option String)
    (next : Visit → Work) : Work :=
  .upon (v.linkElement focus link) fun n =>
    .emit (.read v n)
      (match (v.document.element? n).bind (Accessor.linkTarget? v.page) with
      | none => .done (.error (.missingLink ((link.or focus.selector).getD "")))
      | some url =>
        if policy.maxFollowDepth ≤ v.depth then
          .done (.error (.followDepth url policy.maxFollowDepth))
        else
          .emit (.request (.get url) (some (v, n))) (.await (.get url) fun
            | .error cause => .done (.error (.fetch cause))
            | .ok html => .upon (Visit.start url html (v.depth + 1)) next))

/-- What a mapping with directives holds before it is filtered. -/
def contents (policy : Policy) (d : Directives) (fs : List (String × Plan)) (v : Visit)
    (focus : Focus) (parts : List Work) : Work :=
  match d.value with
  | some name => .upon (v.readElement focus.element fun _ => Accessor.ofName name) .yield
  | none => .mapping policy fs parts

variable (fetch : Fetch) (policy : Policy)

/-- Fields that are each done as they are evaluated make up the mapping of their runs. -/
theorem run_mapping {fs : List (String × Plan)} {part : String × Plan → Work} {v : Visit}
    {s : Scope} (same : ∀ f ∈ fs, run fetch (part f) = f.2.evaluate fetch policy v s) :
    run fetch (mapping policy fs (fs.map part)) =
      FieldRun.assemble policy (Plan.fieldRuns fetch policy fs v s) := by
  have ended : (fs.map part).map (run fetch) = fs.map fun f => f.2.evaluate fetch policy v s := by
    rw [List.map_map]
    exact List.map_congr_left same
  rw [mapping, run_join, ended, Plan.fieldRuns_eq_map]
  refine Eq.trans ?_ (FieldRun.gather_assemble policy fs fun f => f.2.evaluate fetch policy v s)
  exact Run.bind_congr fun outcomes _ => run_upon_yield fetch _

theorem run_gated (filter : Option Filter) (v : Value) (next : Value → Work) :
    run fetch (gated filter v (next v)) = Filter.gate filter v fun v => run fetch (next v) := by
  cases admitted : Filter.admits filter v with
  | true => rw [gated, if_pos admitted, run_after, Filter.gate_of_admitted admitted]
  | false =>
      rw [gated, if_neg (by simp [admitted]), Filter.gate_of_rejected admitted]
      rfl

theorem run_linked (v : Visit) (focus : Focus) (link : Option String) (next : Visit → Work) :
    run fetch (linked policy v focus link next) =
      (v.linked fetch policy focus link).bind fun page => run fetch (next page) := by
  rw [linked, run_upon, Visit.linked, Run.bind_assoc]
  refine Run.bind_congr fun n _ => ?_
  rw [run, Run.bind_assoc]
  refine Run.bind_congr fun _ _ => ?_
  cases (v.document.element? n).bind (Accessor.linkTarget? v.page) with
  | none => rfl
  | some url =>
      by_cases deep : policy.maxFollowDepth ≤ v.depth
      · simp only [deep, ↓reduceIte]
        rfl
      · simp only [deep, ↓reduceIte, run, Run.bind_assoc]
        refine Run.bind_congr fun _ _ => ?_
        cases fetch (.get url) with
        | error cause => rfl
        | ok html => exact run_upon fetch _ next

theorem run_contents (d : Directives) {fs : List (String × Plan)} {part : String × Plan → Work}
    {v : Visit} {focus : Focus}
    (same : ∀ f ∈ fs, run fetch (part f) = f.2.evaluate fetch policy v (some focus)) :
    run fetch (contents policy d fs v focus (fs.map part)) = d.extract fetch policy fs v focus := by
  rw [contents, Directives.extract]
  cases d.value with
  | some name => exact run_upon_yield fetch _
  | none => exact run_mapping fetch policy same

end Work

namespace Plan

mutual

/-- What there is to do for a plan, with the parts that don't wait for each other side by side. -/
def work (policy : Policy) : Plan → Visit → Scope → Work
  | .select selector, v, s =>
    .upon ((v.selectFirst selector s).bind fun n => v.readElement n Accessor.standard) .yield
  | .each elem item, v, s =>
    .upon (v.selectAll elem s) fun ns =>
      .join (ns.map fun n => work policy item v (itemScope elem s n)) fun outcomes =>
        .upon (listed (outcomes.map .ofExcept)) .yield
  | .fields fs, v, s => .mapping policy fs (fieldWork policy fs v s)
  | .directed d fs, v, s =>
    .upon (v.narrow d.elem s) fun focus =>
      (Work.contents policy d fs v focus (fieldWork policy fs v (some focus))).andThen fun value =>
        .gated d.filter value (.yield value)
  | .following d fs link target, v, s =>
    .upon (v.narrow d.elem s) fun focus =>
      (Work.contents policy d fs v focus (fieldWork policy fs v (some focus))).andThen fun before =>
        .gated (d.filterBefore fs) before
          (.linked policy v focus link fun page =>
            (work policy target page none).andThen fun result => .yield (merge before result))
  | .malformed reason, _, _ => .done (.error (.configuration (.malformed reason)))
  termination_by structural plan => plan

def fieldWork (policy : Policy) : List (String × Plan) → Visit → Scope → List Work
  | [], _, _ => []
  | (_, plan) :: rest, v, s => work policy plan v s :: fieldWork policy rest v s
  termination_by structural fs => fs

end

theorem fieldWork_eq_map (policy : Policy) (fs : List (String × Plan)) (v : Visit) (s : Scope) :
    fieldWork policy fs v s = fs.map fun f => f.2.work policy v s := by
  induction fs with
  | nil => rfl
  | cons f rest ih => rw [fieldWork, ih, List.map_cons]

/-- A plan is evaluated by doing its work with each part waiting for those before it. -/
theorem run_work (fetch : Fetch) (policy : Policy) (plan : Plan) (v : Visit) (s : Scope) :
    (plan.work policy v s).run fetch = plan.evaluate fetch policy v s := by
  induction plan generalizing v s with
  | select selector =>
      rw [work, evaluate_select]
      exact Work.run_upon_yield fetch _
  | each elem item ih =>
      rw [work, evaluate_each, Work.run_upon]
      refine Run.bind_congr fun ns _ => ?_
      have ended : (ns.map fun n => item.work policy v (itemScope elem s n)).map (Work.run fetch) =
          ns.map fun n => item.evaluate fetch policy v (itemScope elem s n) := by
        rw [List.map_map]
        exact List.map_congr_left fun n _ => ih v (itemScope elem s n)
      rw [Work.run_join, ended, ← gather_listed]
      exact Run.bind_congr fun outcomes _ => Work.run_upon_yield fetch _
  | fields fs ih =>
      rw [work, evaluate_fields, ← fieldRuns_eq_map, fieldWork_eq_map]
      exact Work.run_mapping fetch policy fun f member => ih f member v s
  | directed d fs ih =>
      rw [work, evaluate_directed, Work.run_upon]
      refine Run.bind_congr fun focus _ => ?_
      rw [Work.run_andThen, fieldWork_eq_map,
        Work.run_contents fetch policy d fun f member => ih f member v (some focus)]
      exact Run.bind_congr fun value _ => Work.run_gated fetch d.filter value Work.yield
  | following d fs link target ih followed =>
      rw [work, evaluate_following, Work.run_upon]
      refine Run.bind_congr fun focus _ => ?_
      rw [Work.run_andThen, fieldWork_eq_map,
        Work.run_contents fetch policy d fun f member => ih f member v (some focus)]
      refine Run.bind_congr fun before _ => ?_
      let goOn : Value → Work := fun before => .linked policy v focus link fun page =>
        (target.work policy page none).andThen fun result => .yield (merge before result)
      have reached : ∀ before, (goOn before).run fetch = (v.linked fetch policy focus link).bind
          fun page => (target.evaluate fetch policy page none).map (merge before) := by
        intro before
        rw [Work.run_linked]
        refine Run.bind_congr fun page _ => ?_
        rw [Work.run_andThen, followed page none]
        exact (Run.map_then_bind (merge before) _ Run.pure).symm.trans (Run.bind_pure _)
      rw [← funext reached]
      exact Work.run_gated fetch (d.filterBefore fs) before goOn
  | malformed reason => rw [work, evaluate_malformed]; rfl

end Plan

/-- The declared order is one of those in which the parts are taken one after the other. -/
theorem Plan.inTurn_evaluate (fetch : Fetch) (policy : Policy) (plan : Plan) (v : Visit)
    (s : Scope) : Work.InTurn fetch (plan.work policy v s) (plan.evaluate fetch policy v s) := by
  rw [← run_work]
  exact Work.inTurn_run fetch (plan.work policy v s)

theorem Run.diagnostics_perm {first second : Run Value} (events : first.events.Perm second.events) :
    first.diagnostics.Perm second.diagnostics := events.filterMap _

theorem Run.requests_perm {first second : Run Value} (events : first.events.Perm second.events) :
    first.requests.Perm second.requests := events.filterMap _

/-- In whatever order the fields of mappings and the items of lists are evaluated, on linked pages
too, and however their evaluations take turns, they come to the same value or the same failure, with
the same diagnostics and page requests up to their order. -/
theorem sibling_order_immaterial {σ : Type} {server : Server σ} {fetch : Fetch}
    (steady : server.Steady fetch) (policy : Policy) (plan : Plan) (v : Visit) (s : Scope) :
    (∀ w w' (r : Run Value),
      Work.Schedule server w (plan.work policy v s) r.events w' (.done r.result) →
        r.result = (plan.evaluate fetch policy v s).result ∧
        r.diagnostics.Perm (plan.evaluate fetch policy v s).diagnostics ∧
        r.requests.Perm (plan.evaluate fetch policy v s).requests) ∧
    (∀ w es w' t, Work.Schedule server w (plan.work policy v s) es w' t →
      ∃ later last outcome, Work.Schedule server w' t later last (.done outcome)) ∧
    ∀ r, Work.InTurn fetch (plan.work policy v s) r →
      Work.Completes server (plan.work policy v s) r := by
  refine ⟨?_, ?_, ?_⟩
  · intro w w' r schedule
    obtain ⟨result, events⟩ := schedule.outcome steady
    rw [Plan.run_work] at result events
    exact ⟨result, Run.diagnostics_perm events, Run.requests_perm events⟩
  · intro w es w' t _
    exact Work.exists_completion steady w' t
  · intro r inTurn
    exact inTurn.completes steady

/-- Of two fields that are both missed the first one declared gives the failure, also where the
second one is looked for before it. -/
theorem sibling_order_immaterial_reversed :
    let fetch : Fetch := fun q => .error (.notFound q.url)
    let server : Server Nat := fun answers q => (fetch q, answers + 1)
    let plan : Plan := .fields [("x", .select (some "b")), ("y", .select (some "i"))]
    let reversed : Run Value := ⟨.error (.selectorNotFound "b" none),
      [.diagnostic (.miss "i" none), .diagnostic (.miss "b" none)]⟩
    server.Steady fetch ∧
    Work.InTurn fetch (plan.work .standard (linkVisit 0) none) reversed ∧
    Work.Completes server (plan.work .standard (linkVisit 0) none) reversed ∧
    reversed.result = (plan.evaluate fetch .standard (linkVisit 0) none).result ∧
    (plan.evaluate fetch .standard (linkVisit 0) none).diagnostics =
      [.miss "b" none, .miss "i" none] := by
  intro fetch server plan reversed
  have steady : server.Steady fetch := fun _ _ => rfl
  let missed : String → Work × Run Value := fun tag =>
    (.emit (.diagnostic (.miss tag none)) (.done (.error (.selectorNotFound tag none))),
      ⟨.error (.selectorNotFound tag none), [.diagnostic (.miss tag none)]⟩)
  let rest : List (Except Failure Value) → Work := fun outcomes =>
    .upon (FieldRun.assemble .standard (List.zipWith FieldRun.settled
      [("x", .select (some "b")), ("y", .select (some "i"))] outcomes)) .yield
  have parts : plan.work .standard (linkVisit 0) none =
      .join ([missed "b", missed "i"].map Prod.fst) rest := by rfl
  have each : ∀ p ∈ [missed "b", missed "i"], Work.InTurn fetch p.1 p.2 := by
    intro p member
    have found : ∃ tag, p = missed tag := by
      rcases List.mem_cons.mp member with rfl | member
      · exact ⟨_, rfl⟩
      · exact ⟨_, List.mem_singleton.mp member⟩
    obtain ⟨tag, rfl⟩ := found
    exact .emit (.done _)
  have failed : Work.InTurn fetch (rest [.error (.selectorNotFound "b" none),
      .error (.selectorNotFound "i" none)]) (.ofExcept reversed.result) := .done _
  have inTurn : Work.InTurn fetch (plan.work .standard (linkVisit 0) none) reversed := by
    rw [parts]
    exact .join each (.swap _ _ []) failed
  obtain ⟨same, _, ends⟩ := sibling_order_immaterial steady .standard plan (linkVisit 0) none
  obtain ⟨last, schedule⟩ := ends reversed inTurn 0
  refine ⟨steady, inTurn, ends reversed inTurn, (same 0 last reversed schedule).1, ?_⟩
  rw [← Plan.run_work, parts]
  rfl

end PageExtract
