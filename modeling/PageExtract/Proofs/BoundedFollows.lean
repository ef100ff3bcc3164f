import PageExtract.Proofs.Causes
import PageExtract.Proofs.Mappings
import PageExtract.Proofs.PageRequests

/-!
How far links are followed. On the way along a link the depth of the page grows by one, and the
nesting of the follows in the plan that is left shrinks by one. So their sum never grows over the
calls of a run, and a chain of hops ends where either the limit or the nesting of the spec is
reached. A limit that the nesting doesn't reach plays no part.
-/

set_option autoImplicit false

namespace PageExtract

open Json (Value)

namespace Spec

mutual

/-- The largest number of follows inside one another. What the other directives hold is not
evaluated as a spec. -/
def followNesting : Spec → Nat
  | .list items => itemsNesting items
  | .map entries => entriesNesting entries
  | .missing => 0
  | .selector _ => 0
  | .literal _ => 0
  | .pattern _ => 0
  | .predicate _ => 0
  termination_by structural s => s

def itemsNesting : List Spec → Nat
  | [] => 0
  | s :: rest => max (followNesting s) (itemsNesting rest)
  termination_by structural items => items

def entriesNesting : List (String × Spec) → Nat
  | [] => 0
  | (k, s) :: rest =>
    max (if k = followKey then if s.isMissing then 0 else followNesting s + 1
      else if isDirective k then 0 else followNesting s) (entriesNesting rest)
  termination_by structural entries => entries

end

end Spec

namespace Plan

mutual

/-- The largest number of follows inside one another. -/
def followNesting : Plan → Nat
  | .select _ => 0
  | .each _ item => followNesting item
  | .directed _ fs => fieldsNesting fs
  | .following _ fs _ target => max (fieldsNesting fs) (followNesting target + 1)
  | .fields fs => fieldsNesting fs
  | .malformed _ => 0
  termination_by structural plan => plan

def fieldsNesting : List (String × Plan) → Nat
  | [] => 0
  | (_, plan) :: rest => max (followNesting plan) (fieldsNesting rest)
  termination_by structural fs => fs

end

theorem followNesting_le_of_mem {fs : List (String × Plan)} {f : String × Plan} (member : f ∈ fs) :
    f.2.followNesting ≤ fieldsNesting fs := by
  induction fs with
  | nil => cases member
  | cons first rest ih =>
      obtain ⟨key, plan⟩ := first
      rw [fieldsNesting]
      rcases List.mem_cons.mp member with rfl | later
      · exact Nat.le_max_left _ _
      · exact Nat.le_trans (ih later) (Nat.le_max_right _ _)

theorem followNesting_ofTemplate_le (template : Spec) (item : Plan) :
    (ofTemplate template item).followNesting ≤ item.followNesting := by
  cases template with
  | map entries =>
      simp only [ofTemplate]
      split
      · exact Nat.zero_le _
      · rw [followNesting]
  | _ => exact Nat.zero_le _

theorem followNesting_ofMapping_le {n : Nat} (entries : List (String × Spec))
    {fields : List (String × Plan)} {follow : Follow} (inFields : fieldsNesting fields ≤ n)
    (inTarget : ∀ link target, follow = .ok (some (link, target)) → target.followNesting + 1 ≤ n) :
    (ofMapping entries fields follow).followNesting ≤ n := by
  simp only [ofMapping]
  split
  · exact inFields
  · split
    · exact Nat.zero_le _
    · split
      · exact Nat.zero_le _
      · split
        · exact inFields
        · rw [followNesting]
          exact Nat.max_le.mpr ⟨inFields, inTarget _ _ rfl⟩

/-- The nesting of a spec bounds that of all plans that are made of it. -/
structure NestingBounds (s : Spec) : Prop where
  plan : (ofSpec s).followNesting ≤ s.followNesting
  item : (itemOf s).followNesting ≤ s.followNesting
  target : ∀ link target, targetOf s = .ok (some (link, target)) →
    target.followNesting ≤ s.followNesting

theorem fieldsNesting_fieldsOf_le {entries : List (String × Spec)}
    (bounds : ∀ e ∈ entries, NestingBounds e.2) :
    fieldsNesting (fieldsOf entries) ≤ Spec.entriesNesting entries := by
  induction entries with
  | nil => exact Nat.zero_le _
  | cons e rest ih =>
      obtain ⟨key, s⟩ := e
      have first : (ofSpec s).followNesting ≤ s.followNesting :=
        (bounds _ List.mem_cons_self).plan
      have others := ih fun e later => bounds e (List.mem_cons_of_mem _ later)
      rw [fieldsOf, Spec.entriesNesting]
      by_cases steers : Spec.isDirective key = true
      · rw [if_pos steers]
        omega
      · have named : key ≠ Spec.followKey := by
          rintro rfl
          exact steers rfl
        rw [if_neg steers, if_neg named, if_neg steers, fieldsNesting]
        omega

theorem followNesting_target_lt {entries : List (String × Spec)}
    (bounds : ∀ e ∈ entries, NestingBounds e.2) {link : Option String} {target : Plan}
    (followed : followOf entries = .ok (some (link, target))) :
    target.followNesting + 1 ≤ Spec.entriesNesting entries := by
  induction entries with
  | nil => cases followed
  | cons e rest ih =>
      obtain ⟨key, s⟩ := e
      rw [followOf] at followed
      rw [Spec.entriesNesting]
      by_cases named : key = Spec.followKey
      · rw [if_pos named] at followed
        have present : ¬ s.isMissing = true := by
          intro missing
          cases s with
          | missing => cases followed
          | _ => cases missing
        have bound : target.followNesting ≤ s.followNesting :=
          (bounds _ List.mem_cons_self).target link target followed
        rw [if_pos named, if_neg present]
        omega
      · rw [if_neg named] at followed
        have bound := ih (fun e later => bounds e (List.mem_cons_of_mem _ later)) followed
        omega

/-- A spec that is no mapping makes a plan only as a whole. -/
theorem nestingBounds_of_whole {s : Spec} (plan : (ofSpec s).followNesting ≤ s.followNesting)
    (item : itemOf s = .select none)
    (target : ∀ link t, targetOf s = .ok (some (link, t)) → t = ofSpec s) : NestingBounds s := by
  refine ⟨plan, ?_, ?_⟩
  · rw [item]
    exact Nat.zero_le _
  · intro link t followed
    rw [target link t followed]
    exact plan

theorem nestingBounds (s : Spec) : NestingBounds s := by
  have whole : ∀ {plan t : Plan} {link : Option String},
      (.ok (some (none, plan)) : Follow) = .ok (some (link, t)) → t = plan := by
    intro plan t link same
    cases same
    rfl
  induction s with
  | map entries ih =>
      have inFields := fieldsNesting_fieldsOf_le ih
      have bounded : ∀ others,
          (ofMapping others (fieldsOf entries) (followOf entries)).followNesting ≤
            (Spec.map entries).followNesting := fun others =>
        followNesting_ofMapping_le others inFields fun _ _ => followNesting_target_lt ih
      refine ⟨bounded entries, bounded (withoutElem entries), ?_⟩
      intro link target followed
      rw [targetOf, ofFollow] at followed
      split at followed
      · cases followed
      · cases followed
        exact bounded (withoutElem entries)
  | list items ih =>
      rcases items with _ | ⟨template, _ | ⟨second, rest⟩⟩
      · exact nestingBounds_of_whole (Nat.zero_le _) rfl fun _ _ => whole
      · refine nestingBounds_of_whole ?_ rfl fun _ _ => whole
        calc (ofTemplate template (itemOf template)).followNesting
          _ ≤ (itemOf template).followNesting := followNesting_ofTemplate_le template _
          _ ≤ template.followNesting := (ih template List.mem_cons_self).item
          _ ≤ Spec.itemsNesting [template] := Nat.le_max_left _ _
      · exact nestingBounds_of_whole (Nat.zero_le _) rfl fun _ _ => whole
  | missing =>
      refine nestingBounds_of_whole (Nat.zero_le _) rfl ?_
      intro link target other
      cases other
  | selector s => exact nestingBounds_of_whole (Nat.zero_le _) rfl fun _ _ => whole
  | literal v => exact nestingBounds_of_whole (Nat.zero_le _) rfl fun _ _ => whole
  | pattern p => exact nestingBounds_of_whole (Nat.zero_le _) rfl fun _ _ => whole
  | predicate test => exact nestingBounds_of_whole (Nat.zero_le _) rfl fun _ _ => whole

end Plan

namespace Call

variable {fetch : Fetch} {policy : Policy}

/-- Along each call the depth of the page and the nesting of the plan together never grow. -/
theorem Makes.depth_add_nesting_le {c d : Call} (made : c.Makes fetch policy d) :
    d.visit.depth + d.plan.followNesting ≤ c.visit.depth + c.plan.followNesting := by
  cases made with
  | item _ _ => exact Nat.le_refl _
  | field inside =>
      have bound := Plan.followNesting_le_of_mem inside
      simp only [Plan.followNesting]
      omega
  | directedField _ _ inside =>
      have bound := Plan.followNesting_le_of_mem inside
      simp only [Plan.followNesting]
      omega
  | followingField _ _ inside =>
      have bound := Plan.followNesting_le_of_mem inside
      simp only [Plan.followNesting]
      omega
  | target _ _ _ arrived =>
      obtain ⟨n, url, _, leads⟩ := Visit.exists_linksTo_of_linked arrived
      have deeper := leads.depth_eq
      simp only [Plan.followNesting] at deeper ⊢
      omega

theorem Reaches.depth_add_nesting_le {c d : Call} (reached : c.Reaches fetch policy d) :
    d.visit.depth + d.plan.followNesting ≤ c.visit.depth + c.plan.followNesting := by
  induction reached with
  | refl => exact Nat.le_refl _
  | tail _ made ih => exact Nat.le_trans made.depth_add_nesting_le ih

/-- A call asks only for a page within the limit, and because of a follow of its own plan. -/
theorem Asks.bounds {c : Call} {h : Hop} (asks : c.Asks fetch policy h) :
    h.visit = c.visit ∧ c.visit.depth < policy.maxFollowDepth ∧ 0 < c.plan.followNesting := by
  cases asks with
  | link _ _ _ links =>
      refine ⟨rfl, links.shallow, ?_⟩
      simp only [Plan.followNesting]
      omega

/-- The limit is told only where it is reached by the page of a follow. -/
theorem Raises.followDepth_bounds {c : Call} {url : String} {limit : Nat}
    (raises : c.Raises fetch policy (.followDepth url limit)) :
    policy.maxFollowDepth ≤ c.visit.depth ∧ 0 < c.plan.followNesting := by
  cases raises with
  | select missed => cases (Visit.selectFirst_selects _ _ _).failure _ missed
  | each missed => cases (Visit.selectAll_selects _ _ _).failure _ missed
  | directed missed => cases (Visit.narrow_selects _ _ _).failure _ missed
  | following missed => cases (Visit.narrow_selects _ _ _).failure _ missed
  | link _ _ _ broken =>
      refine ⟨Visit.le_depth_of_followDepth broken, ?_⟩
      simp only [Plan.followNesting]
      omega

end Call

/-- A chain of hops, each from the page that the one before led to, goes one deeper each time. -/
theorem chain_length_le {fetch : Fetch} {bound : Nat} {chain : List Hop}
    (within : ∀ h ∈ chain, h.visit.depth < bound)
    (linked : chain.IsChain fun h next => h.LeadsTo fetch next.visit) : chain.length ≤ bound := by
  suffices deep : ∀ h ∈ chain.head?, h.visit.depth + chain.length ≤ bound by
    cases chain with
    | nil => exact Nat.zero_le _
    | cons h rest =>
        have total := deep h rfl
        omega
  induction chain with
  | nil => exact fun _ first => absurd first (Option.not_mem_none _)
  | cons h rest ih =>
      intro first head
      obtain rfl : h = first := Option.some.inj head
      have here := within h List.mem_cons_self
      cases rest with
      | nil =>
          rw [List.length_singleton]
          omega
      | cons next rest =>
          obtain ⟨leads, later⟩ := List.isChain_cons_cons.mp linked
          have total := ih (fun g member => within g (List.mem_cons_of_mem _ member)) later next rfl
          have deeper := leads.depth_eq
          rw [List.length_cons]
          omega

/-- The policy with another limit on follows. -/
def Policy.withLimit (p : Policy) (limit : Nat) : Policy :=
  { p with maxFollowDepth := limit }

namespace FieldRun

theorem collect_withLimit (policy : Policy) (first second : Nat) (fs : List FieldRun)
    (object errors : List (String × Value)) :
    collect (policy.withLimit first) fs object errors =
      collect (policy.withLimit second) fs object errors := by
  induction fs generalizing object errors with
  | nil => rfl
  | cons f rest ih =>
      have isolated : f.isolated (policy.withLimit first) = f.isolated (policy.withLimit second) :=
        rfl
      simp only [collect, ih, isolated]
      rfl

/-- How a mapping is put together has nothing to do with the limit. -/
theorem assemble_withLimit (policy : Policy) (first second : Nat) (fs : List FieldRun) :
    assemble (policy.withLimit first) fs = assemble (policy.withLimit second) fs := by
  apply Run.ext
  · rw [assemble_result, assemble_result, collect_withLimit policy first second]
  · rfl

end FieldRun

theorem Visit.linked_withLimit {fetch : Fetch} {policy : Policy} {first second : Nat} {v : Visit}
    (inFirst : v.depth < first) (inSecond : v.depth < second) (focus : Focus)
    (link : Option String) :
    v.linked fetch (policy.withLimit first) focus link =
      v.linked fetch (policy.withLimit second) focus link := by
  have reachable : ¬ (policy.withLimit first).maxFollowDepth ≤ v.depth := Nat.not_le.mpr inFirst
  have alike : ¬ (policy.withLimit second).maxFollowDepth ≤ v.depth := Nat.not_le.mpr inSecond
  simp only [linked, reachable, alike, ↓reduceIte]

/-- Limits that no follow of a plan reaches make no difference to its evaluation. -/
theorem Plan.evaluate_withLimit (fetch : Fetch) (policy : Policy) {first second : Nat} (plan : Plan)
    (v : Visit) (s : Scope) (inFirst : v.depth + plan.followNesting ≤ first)
    (inSecond : v.depth + plan.followNesting ≤ second) :
    plan.evaluate fetch (policy.withLimit first) v s =
      plan.evaluate fetch (policy.withLimit second) v s := by
  have assembled : ∀ (fs : List (String × Plan)) (v : Visit) (s : Scope),
      (∀ f ∈ fs, f.2.evaluate fetch (policy.withLimit first) v s =
        f.2.evaluate fetch (policy.withLimit second) v s) →
      FieldRun.assemble (policy.withLimit first)
          (fieldRuns fetch (policy.withLimit first) fs v s) =
        FieldRun.assemble (policy.withLimit second)
          (fieldRuns fetch (policy.withLimit second) fs v s) := by
    intro fs v s same
    rw [FieldRun.assemble_withLimit policy first second, fieldRuns_eq_map, fieldRuns_eq_map]
    congr 1
    refine List.map_congr_left fun f member => ?_
    rw [fieldRun, fieldRun, same f member]
  have extracted : ∀ (d : Directives) (fs : List (String × Plan)) (v : Visit) (focus : Focus),
      (∀ f ∈ fs, f.2.evaluate fetch (policy.withLimit first) v (some focus) =
        f.2.evaluate fetch (policy.withLimit second) v (some focus)) →
      d.extract fetch (policy.withLimit first) fs v focus =
        d.extract fetch (policy.withLimit second) fs v focus := by
    intro d fs v focus same
    simp only [Directives.extract]
    cases d.value with
    | some name => rfl
    | none => exact assembled fs v (some focus) same
  induction plan generalizing v s with
  | select selector => rw [evaluate_select, evaluate_select]
  | each elem item ih =>
      rw [evaluate_each, evaluate_each]
      congr 1
      funext ns
      congr 1
      exact List.map_congr_left fun n _ => ih v (itemScope elem s n) inFirst inSecond
  | directed d fs ih =>
      rw [followNesting] at inFirst inSecond
      rw [evaluate_directed, evaluate_directed]
      congr 1
      funext focus
      rw [extracted d fs v focus fun f member => ?_]
      have bound := followNesting_le_of_mem member
      exact ih f member v (some focus) (by omega) (by omega)
  | following d fs link target ih next =>
      rw [followNesting] at inFirst inSecond
      rw [evaluate_following, evaluate_following]
      congr 1
      funext focus
      have contents := extracted d fs v focus fun f member => by
        have bound := followNesting_le_of_mem member
        exact ih f member v (some focus) (by omega) (by omega)
      have linked : v.linked fetch (policy.withLimit first) focus link =
          v.linked fetch (policy.withLimit second) focus link :=
        Visit.linked_withLimit (by omega) (by omega) focus link
      rw [contents]
      congr 1
      funext value
      congr 1
      funext before
      rw [linked]
      -- the target is evaluated only on a page that the link led to, which is one deeper
      refine Run.bind_congr fun page arrived => ?_
      obtain ⟨n, url, _, leads⟩ := Visit.exists_linksTo_of_linked arrived
      have deeper : page.depth = v.depth + 1 := leads.depth_eq
      rw [next page none (by omega) (by omega)]
  | fields fs ih =>
      rw [evaluate_fields, evaluate_fields, ← fieldRuns_eq_map, ← fieldRuns_eq_map]
      refine assembled fs v s fun f member => ?_
      have bound := followNesting_le_of_mem member
      rw [followNesting] at inFirst inSecond
      exact ih f member v s (by omega) (by omega)
  | malformed reason => rw [evaluate_malformed, evaluate_malformed]

namespace ScrapeRequest

variable (fetcher : Fetcher) (sessions : Sessions) (r : ScrapeRequest)

/-- The request with another limit on follows. -/
def withLimit (limit : Nat) : ScrapeRequest :=
  { r with policy := r.policy.withLimit limit }

theorem firstVisit_depth {v : Visit} (opened : r.firstVisit? fetcher sessions = some v) :
    v.depth = 0 := by
  simp only [firstVisit?] at opened
  split at opened
  · split at opened
    · rename_i page loaded
      cases opened
      obtain ⟨html, _, started⟩ := (Run.bind_ok_iff _ _ _).mp loaded
      exact Visit.start_depth started
    · cases opened
  · cases opened

/-- Over the whole scrape the depth of a page and the nesting of what is evaluated there stay within
the nesting of the spec. -/
theorem Reaches.depth_add_nesting_le {fetcher : Fetcher} {sessions : Sessions} {r : ScrapeRequest}
    {c : Call} (reached : r.Reaches fetcher sessions c) :
    c.visit.depth + c.plan.followNesting ≤ (r.data.substitute r.params).followNesting := by
  obtain ⟨root, called, below⟩ := reached
  obtain ⟨first, opened, rfl⟩ := Option.map_eq_some_iff.mp called
  calc c.visit.depth + c.plan.followNesting
    _ ≤ first.depth + r.plan.followNesting := below.depth_add_nesting_le
    _ = r.plan.followNesting := by rw [firstVisit_depth fetcher sessions r opened, Nat.zero_add]
    _ ≤ (r.data.substitute r.params).followNesting := (Plan.nestingBounds _).plan

theorem hop_depth_lt {h : Hop} (member : h ∈ (scrape fetcher sessions r).1.hops) :
    h.visit.depth < min r.policy.maxFollowDepth (r.data.substitute r.params).followNesting := by
  obtain ⟨c, reached, asks⟩ := (mem_hops_scrape_iff fetcher sessions r).mp member
  have total := reached.depth_add_nesting_le
  obtain ⟨here, shallow, nested⟩ := asks.bounds
  rw [here]
  omega

theorem followDepth_lt {c : Call} (reached : r.Reaches fetcher sessions c) {url : String}
    {limit : Nat}
    (failed : (c.run fetcher.load r.policy).result = .error (.followDepth url limit)) :
    r.policy.maxFollowDepth < (r.data.substitute r.params).followNesting := by
  obtain ⟨d, below, raises⟩ := Call.exists_raises failed
  obtain ⟨root, called, above⟩ := reached
  have total : d.visit.depth + d.plan.followNesting ≤ (r.data.substitute r.params).followNesting :=
    Reaches.depth_add_nesting_le ⟨root, called, above.trans below⟩
  obtain ⟨deep, nested⟩ := raises.followDepth_bounds
  omega

theorem scrapePage_withLimit (load : Fetch) {first second : Nat}
    (inFirst : (r.data.substitute r.params).followNesting ≤ first)
    (inSecond : (r.data.substitute r.params).followNesting ≤ second) (url : String)
    (jar : Option Jar) :
    scrapePage load (r.withLimit first) url jar = scrapePage load (r.withLimit second) url jar := by
  have nested : r.plan.followNesting ≤ (r.data.substitute r.params).followNesting :=
    (Plan.nestingBounds _).plan
  have evaluated : ∀ html, evaluatePage load (r.policy.withLimit first) r.plan url html =
      evaluatePage load (r.policy.withLimit second) r.plan url html := by
    intro html
    refine Run.bind_congr fun page started => ?_
    have atTop := Visit.start_depth started
    exact Plan.evaluate_withLimit load r.policy r.plan page none (by omega) (by omega)
  refine Run.bind_congr fun html _ => ?_
  change absorb (r.policy.withLimit first) (evaluatePage load (r.policy.withLimit first) r.plan url
    html) = absorb (r.policy.withLimit second) _
  rw [evaluated html]
  rfl

theorem scrape_withLimit {first second : Nat}
    (inFirst : (r.data.substitute r.params).followNesting ≤ first)
    (inSecond : (r.data.substitute r.params).followNesting ≤ second) :
    scrape fetcher sessions (r.withLimit first) = scrape fetcher sessions (r.withLimit second) := by
  cases given : r.url? with
  | none =>
      rw [scrape_of_no_url _ _ (r.withLimit first) given,
        scrape_of_no_url _ _ (r.withLimit second) given]
  | some url =>
      rcases answered : sessions.authenticate fetcher.login r.login with ⟨outcome, events, after⟩
      cases outcome with
      | error cause =>
          rw [scrape_of_refused _ _ after (r.withLimit first) url cause events given answered,
            scrape_of_refused _ _ after (r.withLimit second) url cause events given answered]
      | ok jar =>
          rw [scrape_of_accepted _ _ after (r.withLimit first) url jar events given answered,
            scrape_of_accepted _ _ after (r.withLimit second) url jar events given answered,
            scrapePage_withLimit r fetcher.load inFirst inSecond url jar]

end ScrapeRequest

/-- A page is asked for because of a link only on a page that fewer follows lead to than the limit
allows, so that no chain of follows is longer than the limit or than the nesting of follows in the
spec. The limit is told only if the spec nests more follows, and else has no part in the scrape. -/
theorem scrape_follows_bounded (fetcher : Fetcher) (sessions : Sessions) (r : ScrapeRequest) :
    let run := (scrape fetcher sessions r).1
    let limit := r.policy.maxFollowDepth
    let nesting := (r.data.substitute r.params).followNesting
    (∀ h ∈ run.hops, ∃ first k, r.firstVisit? fetcher sessions = some first ∧
      Arrives fetcher.load run.hops first k h.visit ∧ k < limit) ∧
    (∀ chain : List Hop, (∀ h ∈ chain, h ∈ run.hops) →
      chain.IsChain (fun h next => h.LeadsTo fetcher.load next.visit) →
      chain.length ≤ min limit nesting) ∧
    (∀ url told, run.result = .error (.followDepth url told) ∨
        (∃ c, r.Reaches fetcher sessions c ∧
          (c.run fetcher.load r.policy).result = .error (.followDepth url told)) →
      limit < nesting) ∧
    ∀ one other, nesting ≤ one → nesting ≤ other →
      scrape fetcher sessions (r.withLimit one) = scrape fetcher sessions (r.withLimit other) := by
  intro run limit nesting
  refine ⟨?_, ?_, ?_, fun one other => ScrapeRequest.scrape_withLimit fetcher sessions r⟩
  · intro h member
    obtain ⟨c, reached, asks⟩ := (mem_hops_scrape_iff fetcher sessions r).mp member
    obtain ⟨here, shallow, _⟩ := asks.bounds
    obtain ⟨first, k, opened, arrives⟩ := ScrapeRequest.Reaches.arrives fetcher sessions r reached
    have depth := arrives.depth_eq
    rw [ScrapeRequest.firstVisit_depth fetcher sessions r opened, Nat.zero_add] at depth
    exact ⟨first, k, opened, here ▸ arrives, depth ▸ shallow⟩
  · intro chain asked linked
    exact chain_length_le
      (fun h member => ScrapeRequest.hop_depth_lt fetcher sessions r (asked h member)) linked
  · rintro url told (failed | ⟨c, reached, failed⟩)
    · rcases scrape_error_cases failed with
        ⟨root, called, cause⟩ | ⟨_, other⟩ | ⟨_, other⟩ | ⟨_, other⟩
      · exact ScrapeRequest.followDepth_lt fetcher sessions r ⟨root, called, .refl⟩ cause
      · cases other
      · cases other
      · cases other
    · exact ScrapeRequest.followDepth_lt fetcher sessions r reached failed

/-- The page leads to itself, so only the limit and the spec bound how often it is followed: with a
limit of one the second of two follows is refused, and any limits from two on are alike. -/
theorem scrape_follows_bounded_linkPage :
    let again : Spec := .map [("_elem", .selector "p + p"), ("_follow", .selector "p")]
    let data : Spec := .map [("_elem", .selector "p + p"), ("_follow", .map [("again", again)])]
    let fetcher : Fetcher := .ofPages [("a:", linkPage)]
    let r := linkRequest data { Policy.standard with maxFollowDepth := 1 }
    let nesting := (r.data.substitute r.params).followNesting
    let h : Hop := ⟨.get "a:", linkVisit 0, 5⟩
    (scrape fetcher .empty r).1.result = .error (.followDepth "a:" 1) ∧ 1 < nesting ∧
      h ∈ (scrape fetcher .empty r).1.hops ∧ [h].length ≤ min 1 nesting ∧ nesting ≤ 2 ∧
      scrape fetcher .empty (r.withLimit 2) = scrape fetcher .empty (r.withLimit 8) := by
  intro again data fetcher r nesting h
  obtain ⟨_, chains, told, limits⟩ := scrape_follows_bounded fetcher .empty r
  have narrowed : ((linkVisit 0).narrow (some "p + p") none).result = .ok ⟨5, some "p + p"⟩ := by
    rfl
  have normal : r.plan = .following ⟨some "p + p", none, none⟩ [] none (.fields [("again",
        .following ⟨some "p + p", none, none⟩ [] none (.select (some "p")))]) := by rfl
  have failed : (scrape fetcher .empty r).1.result = .error (.followDepth "a:" 1) := by
    have arrived := linked_linkPage r.policy 0 (some "p + p") (by decide)
    have ended : (r.plan.evaluate fetcher.load r.policy (linkVisit 0) none).result =
        .error (.followDepth "a:" 1) := by
      rw [normal, Plan.evaluate_following_of_linked narrowed rfl rfl arrived]
      rfl
    rw [scrape_result_of_firstVisit _ _ r _ (firstVisit_linkRequest _ _ _ _)]
    simp only [absorb, ended]
    exact ended
  have called : r.rootCall? fetcher .empty = some ⟨r.plan, linkVisit 0, none⟩ := by
    rw [ScrapeRequest.rootCall?, firstVisit_linkRequest]
    rfl
  have member : h ∈ (scrape fetcher .empty r).1.hops := by
    refine (mem_hops_scrape_iff fetcher .empty r).mpr ⟨_, ⟨_, called, .refl⟩, ?_⟩
    rw [normal]
    exact .link narrowed rfl rfl ⟨rfl, rfl, by decide⟩
  have within : nesting ≤ 2 := by decide
  have short : [h].length ≤ min 1 nesting := chains [h]
    (fun g inside => (List.mem_singleton.mp inside).symm ▸ member) (.singleton h)
  exact ⟨failed, told _ _ (.inl failed), member, short, within, limits 2 8 within (by omega)⟩

end PageExtract
