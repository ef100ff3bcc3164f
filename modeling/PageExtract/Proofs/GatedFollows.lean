import PageExtract.Proofs.Mappings
import PageExtract.Proofs.PageRequests

/-!
Filters before follows. A mapping first takes its contents, then asks its filter, and only then
follows its link. So it lies between two others: the mapping without filter and follow, which it
comes to where it gets no further than the filter, and the mapping without filter, which it comes to
beyond. Main definition: `Run.Gated`.
-/

set_option autoImplicit false

namespace PageExtract

open Json (Value)

namespace Run

/-- Whether the filter keeps an item that comes to `r` without filter and follow; a failed one isn't
rejected. -/
def keptBy (f : Filter) (r : Run Value) : Bool :=
  match r.result with
  | .ok w => f.passes w
  | .error _ => true

/-- What the filter of a mapping does to its follow: `bare` is the run without both, `unfiltered`
that without the filter, and `whole` that with both. -/
structure Gated (f : Filter) (bare unfiltered whole : Run Value) : Prop where
  failed : ∀ e, bare.result = .error e → whole = bare ∧ unfiltered = bare
  rejected : ∀ w, bare.result = .ok w → f.passes w = false →
    whole.result = .ok .null ∧ whole.events = bare.events
  passed : ∀ w, bare.result = .ok w → f.passes w = true →
    whole.result = unfiltered.result ∧ whole.requests = unfiltered.requests
  before : bare.events <+: unfiltered.events

/-- A run that holds something at a focus, which is filtered before it goes on. -/
theorem gated_of_held (f : Filter) (held : Run (Focus × Value))
    (after : Focus → Value → Run Value) :
    Gated f (held.bind fun p => .pure p.2) (held.bind fun p => after p.1 p.2)
      (held.bind fun p => Filter.gate (some f) p.2 (after p.1)) := by
  cases ended : held.result with
  | error cause =>
      simp only [bind_of_error _ _ cause ended]
      exact ⟨fun _ _ => ⟨rfl, rfl⟩, fun _ => nofun, fun _ => nofun, List.prefix_rfl⟩
  | ok p =>
      obtain ⟨focus, value⟩ := p
      simp only [bind_of_ok _ _ (focus, value) ended, pure_result, pure_events, List.append_nil]
      refine ⟨fun _ => nofun, ?_, ?_, List.prefix_append _ _⟩
      · intro w came rejected
        cases came
        rw [Filter.gate_of_rejected (show Filter.admits (some f) value = false from rejected)]
        exact ⟨rfl, List.append_nil _⟩
      · intro w came passed
        cases came
        have silent : (Filter.notes (some f) value).filterMap Event.request? = [] := by
          rw [List.filterMap_eq_nil_iff]
          intro e member
          obtain ⟨_, _, rfl⟩ := Filter.notes_diagnostic member
          rfl
        rw [Filter.gate_of_admitted (show Filter.admits (some f) value = true from passed)]
        refine ⟨rfl, ?_⟩
        simp only [requests_eq_filterMap, List.filterMap_append, silent, List.nil_append]

namespace Gated

variable {f : Filter} {bare unfiltered whole : Run Value}

theorem requests_sublist (gated : Gated f bare unfiltered whole) :
    whole.requests.Sublist unfiltered.requests := by
  cases ended : bare.result with
  | error e =>
      obtain ⟨same, also⟩ := gated.failed e ended
      rw [same, also]
  | ok w =>
      cases passed : f.passes w with
      | false =>
          rw [requests_congr (gated.rejected w ended passed).2]
          exact Run.requests_sublist gated.before.sublist
      | true => rw [(gated.passed w ended passed).2]

theorem result_of_kept (gated : Gated f bare unfiltered whole) (kept : bare.keptBy f = true) :
    whole.result = unfiltered.result := by
  cases ended : bare.result with
  | error e =>
      obtain ⟨same, also⟩ := gated.failed e ended
      rw [same, also]
  | ok w =>
      simp only [keptBy, ended] at kept
      exact (gated.passed w ended kept).1

theorem result_of_not_kept (gated : Gated f bare unfiltered whole)
    (dropped : bare.keptBy f = false) :
    whole.result = .ok .null := by
  cases ended : bare.result with
  | error e => simp only [keptBy, ended, Bool.true_eq_false] at dropped
  | ok w =>
      simp only [keptBy, ended] at dropped
      exact (gated.rejected w ended dropped).1

end Gated

end Run

theorem listed_requests (rs : List (Run Value)) :
    (listed rs).requests = rs.flatMap Run.requests := by
  have each : Run.requests = fun r : Run Value => r.events.filterMap Event.request? :=
    funext Run.requests_eq_filterMap
  rw [Run.requests_eq_filterMap, each, listed, List.filterMap_flatMap]

/-- A list comes to what those of its items come to that the filter doesn't reject. -/
theorem items_gated {f : Filter} {bare unfiltered whole : Html.NodeId → Run Value}
    (gated : ∀ n, Run.Gated f (bare n) (unfiltered n) (whole n)) (ns : List Html.NodeId) :
    items (ns.map whole) = items ((ns.filter fun n => (bare n).keptBy f).map unfiltered) := by
  induction ns with
  | nil => rfl
  | cons n rest ih =>
      cases kept : (bare n).keptBy f with
      | true =>
          simp only [List.map_cons, List.filter_cons, kept, ↓reduceIte, items,
            (gated n).result_of_kept kept, ih]
      | false =>
          simp only [List.map_cons, List.filter_cons, kept, Bool.false_eq_true, ↓reduceIte, items,
            (gated n).result_of_not_kept kept, ih]
          cases items ((rest.filter fun n => (bare n).keptBy f).map unfiltered) <;> rfl

/-- Nor does it ask for more pages than it does without the filter. -/
theorem listed_gated {f : Filter} {bare unfiltered whole : Html.NodeId → Run Value}
    (gated : ∀ n, Run.Gated f (bare n) (unfiltered n) (whole n))
    (matched : Run (List Html.NodeId)) :
    (matched.bind fun ns => listed (ns.map whole)).requests.Sublist
        (matched.bind fun ns => listed (ns.map unfiltered)).requests ∧
      (matched.bind fun ns => listed (ns.map whole)).result = (matched.bind fun ns =>
        listed ((ns.filter fun n => (bare n).keptBy f).map unfiltered)).result := by
  cases ended : matched.result with
  | error e =>
      simp only [Run.bind_of_error _ _ e ended, and_true]
      exact List.Sublist.refl _
  | ok ns =>
      constructor
      · rw [Run.requests_bind_of_ok ended, Run.requests_bind_of_ok ended, listed_requests,
          listed_requests, List.flatMap_map, List.flatMap_map]
        exact List.Sublist.append (List.Sublist.refl _)
          (List.Sublist.flatMap_right ns fun n _ => (gated n).requests_sublist)
      · simp only [Run.bind_of_ok _ _ ns ended, listed]
        exact congrArg (Except.map Value.array) (items_gated gated ns)

namespace Plan

variable (fetch : Fetch) (policy : Policy)

/-- What a mapping holds before it is filtered, and where. -/
def contents (d : Directives) (fs : List (String × Plan)) (v : Visit) (s : Scope) :
    Run (Focus × Value) :=
  (v.narrow d.elem s).bind fun focus =>
    (d.extract fetch policy fs v focus).map fun value => (focus, value)

variable {fetch policy}

theorem bind_contents {α : Type} (d : Directives) (fs : List (String × Plan)) (v : Visit)
    (s : Scope) (next : Focus × Value → Run α) :
    (contents fetch policy d fs v s).bind next =
      (v.narrow d.elem s).bind fun focus =>
        (d.extract fetch policy fs v focus).bind fun value => next (focus, value) := by
  simp only [contents, Run.bind_assoc, Run.map_then_bind]

/-- Where there is something to filter, a mapping filters what it holds before it goes on. -/
theorem evaluate_map_of_contents {es : List (String × Spec)} {d : Directives}
    {follow : Option (Option String × Plan)} {s : Scope} (formed : directives es = .ok d)
    (followed : followOf es = .ok follow) (full : fieldsOf es ≠ [] ∨ d.value.isSome = true)
    (located : d.elem.isSome = true ∨ s.isSome = true) (v : Visit) :
    (ofSpec (.map es)).evaluate fetch policy v s =
      (contents fetch policy d (fieldsOf es) v s).bind fun held =>
        Filter.gate d.filter held.2 (goOn fetch policy follow v held.1) := by
  have sameFilter : d.filterFor (fieldsOf es) follow = d.filter := by
    cases follow with
    | none => rfl
    | some _ =>
        rcases full with someField | someValue
        · simp [Directives.filterFor, Directives.filterBefore, someField]
        · simp [Directives.filterFor, Directives.filterBefore,
            Option.isNone_eq_false_iff.mpr someValue]
  rw [evaluate_map_of_located fetch policy formed followed located, bind_contents, sameFilter]

/-- A mapping with a filter lies between those without it, and without its follow too. -/
theorem gated_ofSpec {es : List (String × Spec)} {wanted : Spec} {d : Directives}
    {follow : Option (Option String × Plan)} {s : Scope}
    (filtered : Entries.get? Spec.filterKey es = some wanted) (present : wanted ≠ .missing)
    (formed : directives es = .ok d) (followed : followOf es = .ok follow)
    (full : fieldsOf es ≠ [] ∨ d.value.isSome = true)
    (located : d.elem.isSome = true ∨ s.isSome = true) (v : Visit) :
    let run := fun es => (ofSpec (.map es)).evaluate fetch policy v s
    let unfiltered := Entries.erase Spec.filterKey es
    Run.Gated (.ofSpec wanted) (run (Entries.erase Spec.followKey unfiltered)) (run unfiltered)
      (run es) := by
  intro run unfiltered
  have isFilter : d.filter = some (.ofSpec wanted) := by
    rw [← (directives_ok_iff.mp formed).2.2]
    cases wanted with
    | missing => exact absurd rfl present
    | _ => simp only [filterOf, filtered]
  have formedUnfiltered : directives unfiltered = .ok { d with filter := none } :=
    directives_erase_filterKey formed
  have sameFields : fieldsOf unfiltered = fieldsOf es := fieldsOf_erase rfl es
  have bareFields : fieldsOf (Entries.erase Spec.followKey unfiltered) = fieldsOf es :=
    (fieldsOf_erase rfl unfiltered).trans sameFields
  have whole : run es = (contents fetch policy d (fieldsOf es) v s).bind fun held =>
      Filter.gate (some (.ofSpec wanted)) held.2 (goOn fetch policy follow v held.1) := by
    rw [← isFilter]
    exact evaluate_map_of_contents formed followed full located v
  have before : run unfiltered = (contents fetch policy d (fieldsOf es) v s).bind fun held =>
      goOn fetch policy follow v held.1 held.2 := by
    rw [← sameFields] at full ⊢
    exact evaluate_map_of_contents formedUnfiltered
      ((followOf_erase_of_ne (by decide) es).trans followed) full located v
  have bare : run (Entries.erase Spec.followKey unfiltered) =
      (contents fetch policy d (fieldsOf es) v s).bind fun held => .pure held.2 := by
    rw [← bareFields] at full ⊢
    exact evaluate_map_of_contents ((directives_erase_followKey unfiltered).trans formedUnfiltered)
      (followOf_erase_followKey unfiltered) full located v
  rw [whole, before, bare]
  exact Run.gated_of_held _ _ _

/-- The items of a list are filtered as its template would be on its own. -/
theorem gated_item {es : List (String × Spec)} {wanted : Spec} {d : Directives}
    {follow : Option (Option String × Plan)}
    (filtered : Entries.get? Spec.filterKey es = some wanted) (present : wanted ≠ .missing)
    (formed : directives es = .ok d) (followed : followOf es = .ok follow)
    (full : fieldsOf es ≠ [] ∨ d.value.isSome = true) (v : Visit) (focus : Focus) :
    let run := fun es => (ofSpec (.map (withoutElem es))).evaluate fetch policy v (some focus)
    let unfiltered := Entries.erase Spec.filterKey es
    Run.Gated (.ofSpec wanted) (run (Entries.erase Spec.followKey unfiltered)) (run unfiltered)
      (run es) := by
  intro run unfiltered
  have filteredItem : Entries.get? Spec.filterKey (withoutElem es) = some wanted := by
    rw [withoutElem, Entries.get?_erase_of_ne (by decide), filtered]
  have fullItem : fieldsOf (withoutElem es) ≠ [] ∨ d.value.isSome = true := by
    rwa [fieldsOf_withoutElem]
  have located : (none : Option String).isSome = true ∨ (some focus).isSome = true := .inr rfl
  have gated := @gated_ofSpec fetch policy _ _ _ _ _ filteredItem present
    (directives_withoutElem_of_ok formed) ((followOf_withoutElem es).trans followed) fullItem
    located v
  simp only [run, unfiltered, withoutElem_erase]
  exact gated

theorem gated_list {es : List (String × Spec)} {wanted : Spec} {d : Directives}
    {follow : Option (Option String × Plan)}
    (filtered : Entries.get? Spec.filterKey es = some wanted) (present : wanted ≠ .missing)
    (formed : directives es = .ok d) (followed : followOf es = .ok follow)
    (full : fieldsOf es ≠ [] ∨ d.value.isSome = true) (v : Visit) (s : Scope) :
    let unfiltered := Entries.erase Spec.filterKey es
    let list := fun es => (ofSpec (.list [.map es])).evaluate fetch policy v s
    let item := fun es n =>
      (ofSpec (.map (withoutElem es))).evaluate fetch policy v (itemScope d.elem s n)
    (list es).requests.Sublist (list unfiltered).requests ∧
      (list es).result = ((v.selectAll d.elem s).bind fun ns => listed ((ns.filter fun n =>
        (item (Entries.erase Spec.followKey unfiltered) n).keptBy (.ofSpec wanted)).map
          (item unfiltered))).result := by
  intro unfiltered list item
  have elem : stringDirective Spec.elemKey es = .ok d.elem := (directives_ok_iff.mp formed).1
  have sameElem : stringDirective Spec.elemKey unfiltered = .ok d.elem :=
    (directives_ok_iff.mp (directives_erase_filterKey formed)).1
  have gated : ∀ n, Run.Gated (.ofSpec wanted)
      (item (Entries.erase Spec.followKey unfiltered) n) (item unfiltered n) (item es n) :=
    fun n => gated_item filtered present formed followed full v _
  simp only [list, evaluate_list fetch policy elem, evaluate_list fetch policy sameElem]
  exact listed_gated gated (v.selectAll d.elem s)

end Plan

namespace Spec

theorem substituteEntries_erase (params : Params) (key : String) (es : List (String × Spec)) :
    substituteEntries params (Entries.erase key es) =
      Entries.erase key (substituteEntries params es) := by
  induction es with
  | nil => rfl
  | cons e rest ih =>
      obtain ⟨k, s⟩ := e
      by_cases same : k = key
      · rw [same, Entries.erase_cons_self, ih, substituteEntries, Entries.erase_cons_self]
      · rw [Entries.erase_cons_of_ne same, substituteEntries, substituteEntries,
          Entries.erase_cons_of_ne same, ih]

end Spec

/-- Scrapes of two specs load the same first page, so all that tells their requests apart is what is
asked for on it. -/
theorem scrape_requests_sublist (fetcher : Fetcher) (sessions : Sessions) (r : ScrapeRequest)
    {data other : Spec}
    (within : ∀ v, ((Plan.ofSpec (data.substitute r.params)).evaluate fetcher.load r.policy v
        none).requests.Sublist
      ((Plan.ofSpec (other.substitute r.params)).evaluate fetcher.load r.policy v none).requests) :
    (scrape fetcher sessions { r with data := data }).1.requests.Sublist
      (scrape fetcher sessions { r with data := other }).1.requests := by
  rw [requests_scrape, requests_scrape]
  refine List.Sublist.append (List.Sublist.refl _) ?_
  have sameVisit : ScrapeRequest.firstVisit? fetcher sessions { r with data := data } =
      ScrapeRequest.firstVisit? fetcher sessions { r with data := other } := rfl
  simp only [ScrapeRequest.rootCall?, sameVisit]
  cases ScrapeRequest.firstVisit? fetcher sessions { r with data := other } with
  | none => exact List.Sublist.refl _
  | some v => exact within v

/-- The filter of a mapping decides before its link is followed: a mapping that fails before, or
whose contents are rejected, makes no request for its follow, and one whose contents pass is what it
is without the filter. A list of such mappings comes to what its items that aren't rejected come to
without the filter, and asks for no page that it doesn't ask for without it. -/
theorem filter_gates_follow (es : List (String × Spec)) (wanted : Spec) (d : Directives)
    (follow : Option (Option String × Plan))
    (filtered : Entries.get? Spec.filterKey es = some wanted) (present : wanted ≠ .missing)
    (formed : Plan.directives es = .ok d) (followed : Plan.followOf es = .ok follow)
    (full : Plan.fieldsOf es ≠ [] ∨ d.value.isSome = true) :
    let f := Filter.ofSpec wanted
    let unfiltered := Entries.erase Spec.filterKey es
    let bare := Entries.erase Spec.followKey unfiltered
    (∀ (fetch : Fetch) (policy : Policy) (v : Visit) (s : Scope),
      d.elem.isSome = true ∨ s.isSome = true →
      let run := fun es => (Plan.ofSpec (.map es)).evaluate fetch policy v s
      Run.Gated f (run bare) (run unfiltered) (run es)) ∧
    (∀ (fetch : Fetch) (policy : Policy) (v : Visit) (s : Scope),
      let list := fun es => (Plan.ofSpec (.list [.map es])).evaluate fetch policy v s
      let item := fun es n => (Plan.ofSpec (.map (Plan.withoutElem es))).evaluate fetch policy v
        (Plan.itemScope d.elem s n)
      (list es).requests.Sublist (list unfiltered).requests ∧
      (list es).result = ((v.selectAll d.elem s).bind fun ns =>
        listed ((ns.filter fun n => (item bare n).keptBy f).map (item unfiltered))).result) ∧
    ∀ (fetcher : Fetcher) (sessions : Sessions) (r : ScrapeRequest)
      (template : List (String × Spec)), Spec.substituteEntries r.params template = es →
      let requests := fun template =>
        (scrape fetcher sessions { r with data := .list [.map template] }).1.requests
      (requests template).Sublist (requests (Entries.erase Spec.filterKey template)) := by
  intro f unfiltered bare
  refine ⟨?_, ?_, ?_⟩
  · intro fetch policy v s located
    exact Plan.gated_ofSpec filtered present formed followed full located v
  · intro fetch policy v s
    exact Plan.gated_list filtered present formed followed full v s
  · intro fetcher sessions r template filled requests
    refine scrape_requests_sublist fetcher sessions r fun v => ?_
    simp only [Spec.substitute, Spec.substituteItems, Spec.substituteEntries_erase, filled]
    exact (Plan.gated_list filtered present formed followed full v none).1

/-- The link of the page leads nowhere, which doesn't fail a list that rejects the link. -/
theorem filter_gates_follow_linkPage :
    let es : List (String × Spec) := [("_elem", .selector "p + p"), ("_value", .selector "href"),
      ("_filter", .selector "z"), ("_follow", .selector "p")]
    let unfiltered := Entries.erase Spec.filterKey es
    let fetch := (Fetcher.ofPages []).load
    let list := fun es =>
      (Plan.ofSpec (.list [.map es])).evaluate fetch .standard (linkVisit 0) none
    (list unfiltered).result = .error (.fetch (.notFound "a:")) ∧
    (list es).result = .ok (.array []) ∧
    ((Plan.ofSpec (.map es)).evaluate fetch .standard (linkVisit 0) none).result = .ok .null := by
  intro es unfiltered fetch list
  have broken : (list unfiltered).result = .error (.fetch (.notFound "a:")) := by rfl
  have matched : ((linkVisit 0).selectAll (some "p + p") none).result = .ok [5] := by rfl
  have bare : ((Plan.ofSpec (.map (Entries.erase Spec.followKey unfiltered))).evaluate fetch
      .standard (linkVisit 0) none).result = .ok (.string "a:") := by rfl
  have rejected : ((Plan.ofSpec (.map (Plan.withoutElem (Entries.erase Spec.followKey
      (Entries.erase Spec.filterKey es))))).evaluate fetch .standard (linkVisit 0)
        (Plan.itemScope (some "p + p") none 5)).keptBy (.ofSpec (.selector "z")) = false := by rfl
  obtain ⟨gated, lists, _⟩ := filter_gates_follow es (.selector "z")
    ⟨some "p + p", some "href", some (.contains "z")⟩ (some (none, .select (some "p"))) rfl nofun
    rfl rfl (.inr rfl)
  refine ⟨broken, ?_, ((gated fetch .standard (linkVisit 0) none (.inl rfl)).rejected _ bare rfl).1⟩
  rw [(lists fetch .standard (linkVisit 0) none).2, Run.bind_of_ok _ _ _ matched]
  simp only [List.filter_cons, List.filter_nil]
  rw [if_neg (ne_true_of_eq_false rejected)]
  rfl

end PageExtract
