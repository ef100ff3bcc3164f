import PageExtract.Proofs.Causes
import PageExtract.Proofs.Selections

/-!
What happens in the calls of a run, and the pages that it asks for because of a link. All that
happens in a run happens in one of the calls that it reaches: the miss that the call fails with, the
element that it reads, and the page that its own follow leads to. Main definitions: `Call.Shows`,
`Run.hops` and `Call.Asks`; `mem_hops_iff` says that the last two agree.
-/

set_option autoImplicit false

namespace PageExtract

open Html (NodeId)
open Json (Value)

/-- A page asked for, with the page and the element that the link to it was found on. -/
structure Hop where
  request : PageRequest
  visit : Visit
  element : NodeId

namespace Hop

def event (h : Hop) : Event :=
  .request h.request (some (h.visit, h.element))

/-- The page that was asked for came, and is visited next. -/
def LeadsTo (fetch : Fetch) (h : Hop) (next : Visit) : Prop :=
  ∃ html, fetch h.request = .ok html ∧
    (Visit.start h.request.url html (h.visit.depth + 1)).result = .ok next

end Hop

def Event.hop? : Event → Option Hop
  | .request q (some (v, n)) => some ⟨q, v, n⟩
  | _ => none

theorem Event.hop?_eq_some_iff {e : Event} {h : Hop} : e.hop? = some h ↔ e = h.event := by
  constructor
  · intro made
    simp only [hop?] at made
    split at made
    · cases made
      rfl
    · cases made
  · rintro rfl
    rfl

/-- What a run asks for because of links, in order. -/
def Run.hops {α : Type} (r : Run α) : List Hop :=
  r.events.filterMap Event.hop?

theorem Run.mem_hops {α : Type} {r : Run α} {h : Hop} : h ∈ r.hops ↔ h.event ∈ r.events := by
  simp only [hops, List.mem_filterMap, Event.hop?_eq_some_iff]
  constructor
  · rintro ⟨e, member, rfl⟩
    exact member
  · exact fun member => ⟨h.event, member, rfl⟩

namespace Visit

variable {fetch : Fetch} {policy : Policy} {v : Visit} {focus : Focus} {link : Option String}

/-- The element of the link is there, the link has a target, and it may be followed. -/
structure LinksTo (policy : Policy) (v : Visit) (focus : Focus) (link : Option String)
    (n : NodeId) (url : String) : Prop where
  found : (v.linkElement focus link).result = .ok n
  aimed : (v.document.element? n).bind (Accessor.linkTarget? v.page) = some url
  shallow : v.depth < policy.maxFollowDepth

/-- What a link that may be followed leads to, and what is asked for on the way. -/
theorem LinksTo.linked_eq {n : NodeId} {url : String}
    (links : v.LinksTo policy focus link n url) :
    v.linked fetch policy focus link =
      ⟨match fetch (.get url) with
        | .error cause => .error (.fetch cause)
        | .ok html => (start url html (v.depth + 1)).result,
       (v.linkElement focus link).events ++ [.read v n, (⟨.get url, v, n⟩ : Hop).event]⟩ := by
  have within : ¬ policy.maxFollowDepth ≤ v.depth := Nat.not_le.mpr links.shallow
  have emitted : ∀ (e : Event) (next : Unit → Run Visit),
      (Run.emit e).bind next = ⟨(next ()).result, e :: (next ()).events⟩ := fun _ _ => rfl
  simp only [linked, Run.bind_of_ok _ _ n links.found, emitted, links.aimed, within, ↓reduceIte]
  cases fetch (.get url) with
  | error cause => rfl
  | ok html =>
      simp only [start_events]
      rfl

/-- The element of a link is missed, or it is read and its link has no target or is too deep, or the
link is followed. -/
theorem linked_cases (fetch : Fetch) (policy : Policy) (v : Visit) (focus : Focus)
    (link : Option String) :
    (∃ e, (v.linkElement focus link).result = .error e ∧
      v.linked fetch policy focus link = ⟨.error e, (v.linkElement focus link).events⟩) ∨
    (∃ n e, (v.linkElement focus link).result = .ok n ∧
      v.linked fetch policy focus link = ⟨.error e, [.read v n]⟩ ∧
      ((∃ selector, e = .missingLink selector) ∨
        policy.maxFollowDepth ≤ v.depth ∧ ∃ url limit, e = .followDepth url limit)) ∨
    ∃ n url, v.LinksTo policy focus link n url := by
  have selects := v.linkElement_selects focus link
  cases found : (v.linkElement focus link).result with
  | error e => exact .inl ⟨e, rfl, Run.bind_of_error _ _ e found⟩
  | ok n =>
      have quiet : (v.linkElement focus link).events = [] := selects.silent n found
      cases aimed : (v.document.element? n).bind (Accessor.linkTarget? v.page) with
      | none =>
          refine .inr (.inl
            ⟨n, .missingLink ((link.or focus.selector).getD ""), rfl, ?_, .inl ⟨_, rfl⟩⟩)
          simp only [linked, Run.bind_of_ok _ _ n found, quiet, aimed]
          rfl
      | some url =>
          by_cases deep : policy.maxFollowDepth ≤ v.depth
          · refine .inr (.inl
              ⟨n, .followDepth url policy.maxFollowDepth, rfl, ?_, .inr ⟨deep, _, _, rfl⟩⟩)
            simp only [linked, Run.bind_of_ok _ _ n found, quiet, aimed, deep, ↓reduceIte]
            rfl
          · exact .inr (.inr ⟨n, url, found, aimed, Nat.not_le.mp deep⟩)

/-- What a link that is followed fails with. -/
theorem LinksTo.error_cases {n : NodeId} {url : String} (links : v.LinksTo policy focus link n url)
    {e : Failure} (failed : (v.linked fetch policy focus link).result = .error e) :
    (∃ cause, e = .fetch cause) ∨ ∃ mistake, e = .configuration mistake := by
  rw [links.linked_eq] at failed
  cases loaded : fetch (.get url) with
  | error cause =>
      simp only [loaded] at failed
      cases failed
      exact .inl ⟨cause, rfl⟩
  | ok html =>
      simp only [loaded] at failed
      exact .inr (start_error failed)

theorem linked_event {e : Event} (member : e ∈ (v.linked fetch policy focus link).events) :
    (∃ selector context, e = .diagnostic (.miss selector context) ∧
      (v.linked fetch policy focus link).result = .error (.selectorNotFound selector context)) ∨
    (∃ n, (v.linkElement focus link).result = .ok n ∧ e = .read v n) ∨
      ∃ n url, v.LinksTo policy focus link n url ∧ e = (⟨.get url, v, n⟩ : Hop).event := by
  have selects := v.linkElement_selects focus link
  rcases linked_cases fetch policy v focus link with
    ⟨cause, missed, whole⟩ | ⟨n, cause, found, whole, _⟩ | ⟨n, url, links⟩
  · rw [whole] at member ⊢
    obtain ⟨selector, context, same, failed⟩ := selects.miss_of_mem member
    rw [missed] at failed
    cases failed
    exact .inl ⟨selector, context, same, rfl⟩
  · rw [whole] at member
    exact .inr (.inl ⟨n, found, List.mem_singleton.mp member⟩)
  · rw [links.linked_eq, selects.silent n links.found, List.nil_append] at member
    rcases List.mem_cons.mp member with read | asked
    · exact .inr (.inl ⟨n, links.found, read⟩)
    · exact .inr (.inr ⟨n, url, links, List.mem_singleton.mp asked⟩)

/-- A link whose element is missed reports the miss. -/
theorem linked_reported {e : Failure}
    (failed : (v.linked fetch policy focus link).result = .error e) {event : Event}
    (reported : event ∈ e.reported) : event ∈ (v.linked fetch policy focus link).events := by
  rcases linked_cases fetch policy v focus link with
    ⟨cause, missed, whole⟩ | ⟨n, cause, _, whole, unlinked⟩ | ⟨n, url, links⟩
  · rw [whole] at failed ⊢
    cases failed
    rw [(v.linkElement_selects focus link).reported _ missed]
    exact reported
  · rw [whole] at failed
    cases failed
    rcases unlinked with ⟨_, rfl⟩ | ⟨_, _, _, rfl⟩ <;> cases reported
  · rcases links.error_cases failed with ⟨_, rfl⟩ | ⟨_, rfl⟩ <;> cases reported

/-- The limit is told only where it is reached. -/
theorem le_depth_of_followDepth {url : String} {limit : Nat}
    (failed : (v.linked fetch policy focus link).result = .error (.followDepth url limit)) :
    policy.maxFollowDepth ≤ v.depth := by
  rcases linked_cases fetch policy v focus link with
    ⟨e, missed, whole⟩ | ⟨n, e, _, whole, unlinked⟩ | ⟨n, target, links⟩
  · rw [whole] at failed
    cases failed
    cases (v.linkElement_selects focus link).failure _ missed
  · rw [whole] at failed
    cases failed
    rcases unlinked with ⟨_, other⟩ | ⟨deep, _⟩
    · cases other
    · exact deep
  · rcases links.error_cases failed with ⟨_, other⟩ | ⟨_, other⟩ <;> cases other

/-- A page is reached over a link only by what was asked for because of it. -/
theorem exists_linksTo_of_linked {next : Visit}
    (arrived : (v.linked fetch policy focus link).result = .ok next) :
    ∃ n url, v.LinksTo policy focus link n url ∧ (⟨.get url, v, n⟩ : Hop).LeadsTo fetch next := by
  rcases linked_cases fetch policy v focus link with
    ⟨e, _, whole⟩ | ⟨n, e, _, whole, _⟩ | ⟨n, url, links⟩
  · rw [whole] at arrived
    cases arrived
  · rw [whole] at arrived
    cases arrived
  · rw [links.linked_eq] at arrived
    cases loaded : fetch (.get url) with
    | error cause => simp only [loaded] at arrived; cases arrived
    | ok html =>
        simp only [loaded] at arrived
        exact ⟨n, url, links, html, loaded, arrived⟩

end Visit

namespace Call

/-- The page that a call itself asks for, as opposed to those that the calls that it makes ask for:
the target of its own link, once its contents passed the filter. -/
inductive Asks (fetch : Fetch) (policy : Policy) : Call → Hop → Prop where
  | link {d : Directives} {fs : List (String × Plan)} {link : Option String} {target : Plan}
      {v : Visit} {s : Scope} {focus : Focus} {before : Value} {n : NodeId} {url : String}
      (narrowed : (v.narrow d.elem s).result = .ok focus)
      (extracted : (d.extract fetch policy fs v focus).result = .ok before)
      (admitted : Filter.admits (d.filterBefore fs) before = true)
      (links : v.LinksTo policy focus link n url) :
      Asks fetch policy ⟨.following d fs link target, v, s⟩ ⟨.get url, v, n⟩

/-- The elements of its own page that a call itself takes something of: the first match of a
selector, the element of a mapping with a value, and that of a link. -/
inductive Reads : Call → NodeId → Prop where
  | select {selector : Option String} {v : Visit} {s : Scope} {n : NodeId}
      (found : (v.selectFirst selector s).result = .ok n) : Reads ⟨.select selector, v, s⟩ n
  | directed {d : Directives} {fs : List (String × Plan)} {v : Visit} {s : Scope} {focus : Focus}
      (narrowed : (v.narrow d.elem s).result = .ok focus) (valued : d.value.isSome) :
      Reads ⟨.directed d fs, v, s⟩ focus.element
  | following {d : Directives} {fs : List (String × Plan)} {link : Option String} {target : Plan}
      {v : Visit} {s : Scope} {focus : Focus} (narrowed : (v.narrow d.elem s).result = .ok focus)
      (valued : d.value.isSome) : Reads ⟨.following d fs link target, v, s⟩ focus.element
  | link {d : Directives} {fs : List (String × Plan)} {link : Option String} {target : Plan}
      {v : Visit} {s : Scope} {focus : Focus} {n : NodeId}
      (narrowed : (v.narrow d.elem s).result = .ok focus)
      (found : (v.linkElement focus link).result = .ok n) :
      Reads ⟨.following d fs link target, v, s⟩ n

/-- What may happen in a call itself, as opposed to in the calls that it makes. -/
inductive Shows (fetch : Fetch) (policy : Policy) (c : Call) : Event → Prop where
  | note (f : Filter) (kind : Value.Kind) :
      Shows fetch policy c (.diagnostic (.unsupportedFilter f kind))
  | miss {selector : String} {context : Option String}
      (raises : c.Raises fetch policy (.selectorNotFound selector context)) :
      Shows fetch policy c (.diagnostic (.miss selector context))
  | read {n : NodeId} (reads : c.Reads n) : Shows fetch policy c (.read c.visit n)
  | ask {h : Hop} {e : Event} (asks : c.Asks fetch policy h) (same : e = h.event) :
      Shows fetch policy c e

variable {fetch : Fetch} {policy : Policy}

/-- What is seen of a mapping with directives: the search for its element, its contents, which are
the value that was read or its fields, and what comes after. -/
theorem mapping_event {d : Directives} {fs : List (String × Plan)} {v : Visit} {s : Scope}
    {next : Focus → Value → Run Value} {e : Event}
    (member : e ∈ ((v.narrow d.elem s).bind fun focus =>
      (d.extract fetch policy fs v focus).bind (next focus)).events) :
    (∃ selector context, e = .diagnostic (.miss selector context) ∧
      (v.narrow d.elem s).result = .error (.selectorNotFound selector context)) ∨
      ∃ focus, (v.narrow d.elem s).result = .ok focus ∧
        ((d.value.isSome ∧ e = .read v focus.element) ∨
          (d.value = none ∧ ∃ f ∈ fs, e ∈ (run fetch policy ⟨f.2, v, some focus⟩).events) ∨
          ∃ before, (d.extract fetch policy fs v focus).result = .ok before ∧
            e ∈ (next focus before).events) := by
  rcases Run.mem_events_bind.mp member with early | ⟨focus, narrowed, late⟩
  · exact .inl ((v.narrow_selects s d.elem).miss_of_mem early)
  · refine .inr ⟨focus, narrowed, ?_⟩
    rcases Run.mem_events_bind.mp late with contents | ⟨before, extracted, later⟩
    · cases named : d.value with
      | some name =>
          simp only [Directives.extract, named] at contents
          exact .inl ⟨rfl, List.mem_singleton.mp contents⟩
      | none =>
          simp only [Directives.extract, named, Plan.fieldRuns_eq_map, FieldRun.assemble_events,
            List.mem_flatMap, List.mem_map] at contents
          obtain ⟨_, ⟨f, inside, rfl⟩, among⟩ := contents
          exact .inr (.inl ⟨rfl, f, inside, among⟩)
    · exact .inr (.inr ⟨before, extracted, later⟩)

/-- Each event of a call is its own, or one of a call that it makes. -/
theorem event_cases {c : Call} {e : Event} (member : e ∈ (c.run fetch policy).events) :
    c.Shows fetch policy e ∨ ∃ d, c.Makes fetch policy d ∧ e ∈ (d.run fetch policy).events := by
  obtain ⟨plan, v, s⟩ := c
  cases plan with
  | select selector =>
      rw [run, Plan.evaluate_select] at member
      rcases Run.mem_events_bind.mp member with early | ⟨n, found, late⟩
      · obtain ⟨_, _, rfl, missed⟩ := (v.selectFirst_selects s selector).miss_of_mem early
        exact .inl (.miss (.select missed))
      · cases List.mem_singleton.mp late
        exact .inl (.read (.select found))
  | each elem item =>
      rw [run, Plan.evaluate_each] at member
      rcases Run.mem_events_bind.mp member with early | ⟨ns, matched, late⟩
      · obtain ⟨_, _, rfl, missed⟩ := (v.selectAll_selects s elem).miss_of_mem early
        exact .inl (.miss (.each missed))
      · simp only [listed, List.mem_flatMap, List.mem_map] at late
        obtain ⟨_, ⟨n, inside, rfl⟩, among⟩ := late
        exact .inr ⟨_, .item matched inside, among⟩
  | fields fs =>
      rw [run, Plan.evaluate_fields, FieldRun.assemble_events] at member
      simp only [List.mem_flatMap, List.mem_map] at member
      obtain ⟨_, ⟨f, inside, rfl⟩, among⟩ := member
      exact .inr ⟨_, .field inside, among⟩
  | directed d fs =>
      rw [run, Plan.evaluate_directed] at member
      rcases mapping_event member with ⟨_, _, rfl, missed⟩ | ⟨focus, narrowed,
        ⟨valued, rfl⟩ | ⟨valueless, f, inside, among⟩ | ⟨before, extracted, gated⟩⟩
      · exact .inl (.miss (.directed missed))
      · exact .inl (.read (.directed narrowed valued))
      · exact .inr ⟨_, .directedField narrowed valueless inside, among⟩
      · rcases Filter.gate_event gated with ⟨f, kind, rfl⟩ | ⟨_, nothing⟩
        · exact .inl (.note f kind)
        · cases nothing
  | following d fs link target =>
      rw [run, Plan.evaluate_following] at member
      rcases mapping_event member with ⟨_, _, rfl, missed⟩ | ⟨focus, narrowed,
        ⟨valued, rfl⟩ | ⟨valueless, f, inside, among⟩ | ⟨before, extracted, gated⟩⟩
      · exact .inl (.miss (.following missed))
      · exact .inl (.read (.following narrowed valued))
      · exact .inr ⟨_, .followingField narrowed valueless inside, among⟩
      · rcases Filter.gate_event gated with ⟨f, kind, rfl⟩ | ⟨admitted, followed⟩
        · exact .inl (.note f kind)
        · rcases Run.mem_events_bind.mp followed with onTheWay | ⟨page, arrived, there⟩
          · rcases Visit.linked_event onTheWay with
              ⟨_, _, rfl, broken⟩ | ⟨n, found, rfl⟩ | ⟨n, url, links, rfl⟩
            · exact .inl (.miss (.link narrowed extracted admitted broken))
            · exact .inl (.read (.link narrowed found))
            · exact .inl (.ask (.link narrowed extracted admitted links) rfl)
          · exact .inr ⟨_, .target narrowed extracted admitted arrived, there⟩
  | malformed reason =>
      rw [run, Plan.evaluate_malformed] at member
      cases member

/-- All that happens in a call happens in one that it reaches, as its own. -/
theorem exists_shows {c : Call} {e : Event} (member : e ∈ (c.run fetch policy).events) :
    ∃ d, c.Reaches fetch policy d ∧ d.Shows fetch policy e := by
  induction size : sizeOf c.plan using Nat.strongRecOn generalizing c with
  | _ n ih =>
      rcases event_cases member with own | ⟨d, made, below⟩
      · exact ⟨c, .refl, own⟩
      · have smaller : sizeOf d.plan < n := size ▸ made.sizeOf_lt
        obtain ⟨o, reached, shows⟩ := ih _ smaller below rfl
        exact ⟨o, .head made reached, shows⟩

/-- Nobody logs in while a plan is evaluated. -/
theorem login_notMem (c : Call) (l : Login) (jar : Jar) :
    .login l jar ∉ (c.run fetch policy).events := by
  intro member
  obtain ⟨d, _, shows⟩ := exists_shows member
  cases shows with
  | ask _ same => cases same

/-- All that happens in a call happens in the calling one. -/
theorem Makes.mem_events {c d : Call} (made : c.Makes fetch policy d) {e : Event}
    (member : e ∈ (d.run fetch policy).events) : e ∈ (c.run fetch policy).events := by
  have amongFields : ∀ {fs : List (String × Plan)} {f : String × Plan} {v : Visit} {s : Scope},
      f ∈ fs → e ∈ (run fetch policy ⟨f.2, v, s⟩).events →
      e ∈ (FieldRun.assemble policy (fs.map (Plan.fieldRun fetch policy v s))).events :=
    fun inside among => List.mem_flatMap.mpr ⟨_, List.mem_map_of_mem inside, among⟩
  have amongContents : ∀ {d : Directives} {fs : List (String × Plan)} {f : String × Plan}
      {v : Visit} {focus : Focus}, d.value = none → f ∈ fs →
      e ∈ (run fetch policy ⟨f.2, v, some focus⟩).events →
      e ∈ (d.extract fetch policy fs v focus).events := by
    intro d fs f v focus valueless inside among
    simp only [Directives.extract, valueless, Plan.fieldRuns_eq_map]
    exact amongFields inside among
  cases made with
  | item matched inside =>
      rw [run, Plan.evaluate_each]
      exact Run.mem_events_bind.mpr (.inr ⟨_, matched,
        List.mem_flatMap.mpr ⟨_, List.mem_map_of_mem inside, member⟩⟩)
  | field inside =>
      rw [run, Plan.evaluate_fields]
      exact amongFields inside member
  | directedField narrowed valueless inside =>
      rw [run, Plan.evaluate_directed]
      exact Run.mem_events_bind.mpr (.inr ⟨_, narrowed,
        Run.mem_events_bind.mpr (.inl (amongContents valueless inside member))⟩)
  | followingField narrowed valueless inside =>
      rw [run, Plan.evaluate_following]
      exact Run.mem_events_bind.mpr (.inr ⟨_, narrowed,
        Run.mem_events_bind.mpr (.inl (amongContents valueless inside member))⟩)
  | target narrowed extracted admitted arrived =>
      rw [run, Plan.evaluate_following]
      refine Run.mem_events_bind.mpr (.inr ⟨_, narrowed,
        Run.mem_events_bind.mpr (.inr ⟨_, extracted, ?_⟩)⟩)
      rw [Filter.gate_of_admitted admitted]
      exact List.mem_append_right _ (Run.mem_events_bind.mpr (.inr ⟨_, arrived, member⟩))

theorem Asks.mem_events {c : Call} {h : Hop} (asks : c.Asks fetch policy h) :
    h.event ∈ (c.run fetch policy).events := by
  cases asks with
  | @link _ _ link _ v _ focus _ n url narrowed extracted admitted links =>
      rw [run, Plan.evaluate_following]
      refine Run.mem_events_bind.mpr (.inr ⟨_, narrowed,
        Run.mem_events_bind.mpr (.inr ⟨_, extracted, ?_⟩)⟩)
      rw [Filter.gate_of_admitted admitted]
      refine List.mem_append_right _ (Run.mem_events_bind.mpr (.inl ?_))
      rw [links.linked_eq]
      exact List.mem_append_right _ (List.mem_cons_of_mem _ List.mem_cons_self)

theorem Reaches.mem_events {c d : Call} (reached : c.Reaches fetch policy d) {e : Event}
    (member : e ∈ (d.run fetch policy).events) : e ∈ (c.run fetch policy).events := by
  induction reached using Relation.ReflTransGen.head_induction_on with
  | refl => exact member
  | head made _ ih => exact made.mem_events ih

/-- Every request of a call was asked for by a call that it reaches. -/
theorem exists_asks_of_request {c : Call} {q : PageRequest} {link : Option (Visit × NodeId)}
    (member : Event.request q link ∈ (c.run fetch policy).events) :
    ∃ d h, c.Reaches fetch policy d ∧ d.Asks fetch policy h ∧
      q = h.request ∧ link = some (h.visit, h.element) := by
  obtain ⟨d, reached, shows⟩ := exists_shows member
  cases shows with
  | @ask h _ asks same =>
      cases same
      exact ⟨d, h, reached, asks, rfl, rfl⟩

theorem mem_hops_iff {c : Call} {h : Hop} :
    h ∈ (c.run fetch policy).hops ↔ ∃ d, c.Reaches fetch policy d ∧ d.Asks fetch policy h := by
  rw [Run.mem_hops]
  constructor
  · intro member
    obtain ⟨d, g, reached, asks, sameRequest, sameLink⟩ := exists_asks_of_request member
    obtain rfl : h = g := by
      cases h
      cases g
      cases sameRequest
      cases sameLink
      rfl
    exact ⟨d, reached, asks⟩
  · rintro ⟨d, reached, asks⟩
    exact reached.mem_events asks.mem_events

/-- A called plan is evaluated on the same page, or on one that the calling plan asked for. -/
theorem Makes.visit_cases {c d : Call} (made : c.Makes fetch policy d) :
    d.visit = c.visit ∨ ∃ h, c.Asks fetch policy h ∧ h.visit = c.visit ∧
      h.LeadsTo fetch d.visit := by
  cases made with
  | item _ _ => exact .inl rfl
  | field _ => exact .inl rfl
  | directedField _ _ _ => exact .inl rfl
  | followingField _ _ _ => exact .inl rfl
  | target narrowed extracted admitted arrived =>
      obtain ⟨n, url, links, leads⟩ := Visit.exists_linksTo_of_linked arrived
      exact .inr ⟨_, .link narrowed extracted admitted links, rfl, leads⟩

end Call

/-- The pages that lie some number of hops behind a first one. -/
inductive Arrives (fetch : Fetch) (hops : List Hop) (first : Visit) : Nat → Visit → Prop where
  | start : Arrives fetch hops first 0 first
  | hop {k : Nat} {h : Hop} {next : Visit} (before : Arrives fetch hops first k h.visit)
      (asked : h ∈ hops) (leads : h.LeadsTo fetch next) : Arrives fetch hops first (k + 1) next

theorem Hop.LeadsTo.depth_eq {fetch : Fetch} {h : Hop} {next : Visit}
    (leads : h.LeadsTo fetch next) : next.depth = h.visit.depth + 1 := by
  obtain ⟨html, _, started⟩ := leads
  exact Visit.start_depth started

/-- The depth of a page is the number of hops to it. -/
theorem Arrives.depth_eq {fetch : Fetch} {hops : List Hop} {first v : Visit} {k : Nat}
    (arrives : Arrives fetch hops first k v) : v.depth = first.depth + k := by
  induction arrives with
  | start => rfl
  | hop _ _ leads ih => rw [leads.depth_eq, ih, Nat.add_assoc]

namespace Call

variable {fetch : Fetch} {policy : Policy}

/-- Every page that a call reaches lies behind its own by hops that it asked for. -/
theorem Reaches.arrives {c d : Call} (reached : c.Reaches fetch policy d) :
    ∃ k, Arrives fetch (c.run fetch policy).hops c.visit k d.visit := by
  induction reached with
  | refl => exact ⟨0, .start⟩
  | @tail d e before made ih =>
      obtain ⟨k, arrives⟩ := ih
      rcases made.visit_cases with same | ⟨h, asks, here, leads⟩
      · rw [same]
        exact ⟨k, arrives⟩
      · exact ⟨k + 1, .hop (here ▸ arrives) (mem_hops_iff.mpr ⟨d, before, asks⟩) leads⟩

/-- A call asks for no page but because of a link. -/
theorem requests_eq_map_hops (c : Call) :
    (c.run fetch policy).requests = (c.run fetch policy).hops.map Hop.request := by
  have linked : ∀ q, Event.request q none ∉ (c.run fetch policy).events := by
    intro q member
    obtain ⟨_, _, _, _, _, impossible⟩ := exists_asks_of_request member
    cases impossible
  simp only [Run.requests, Run.hops, List.map_filterMap]
  refine List.filterMap_congr fun e member => ?_
  cases e with
  | request q link =>
      cases link with
      | none => exact absurd member (linked q)
      | some _ => rfl
  | _ => rfl

end Call

end PageExtract
