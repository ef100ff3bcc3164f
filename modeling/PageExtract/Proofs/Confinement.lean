import PageExtract.Proofs.Hops
import PageExtract.Proofs.SiblingOrder

/-!
Confinement to the scope. A scope is only ever narrowed to what selectors find inside of it, so all
that is read while an element is in scope is the element itself or lies inside of it, and nothing
outside has a part in what the evaluation comes to. Main definitions: `Html.Document.Encloses` and
`Html.Document.SameWithin`.
-/

set_option autoImplicit false

namespace PageExtract

open Html (Document NodeId)
open Json (Value)

namespace Html.Document

/-- A node is another one itself or lies somewhere inside of it. -/
def Encloses (d : Document) : NodeId → NodeId → Prop :=
  Relation.ReflTransGen fun parent child => child ∈ d.children parent

variable {d : Document}

theorem encloses_of_mem_below {depth : Nat} {e n : NodeId} (member : n ∈ d.below depth e) :
    d.Encloses e n := by
  induction depth generalizing e with
  | zero => cases member
  | succ depth ih =>
      obtain ⟨child, inside, here⟩ := List.mem_flatMap.mp member
      rcases List.mem_cons.mp here with rfl | deeper
      · exact .single inside
      · exact .head inside (ih deeper)

theorem encloses_of_mem_descendants {e n : NodeId} (member : n ∈ d.descendants e) :
    d.Encloses e n :=
  encloses_of_mem_below member

theorem eq_of_encloses_childless {e n : NodeId} (childless : d.children e = [])
    (inside : d.Encloses e n) : n = e := by
  rcases inside.cases_head with rfl | ⟨child, first, _⟩
  · rfl
  · rw [childless] at first
    cases first

/-- The two documents are the same inside of an element, and what selectors find there is the same
although they may look at what is around it. -/
structure SameWithin (d other : Document) (e : NodeId) : Prop where
  size : other.nodes.size = d.nodes.size
  nodes : ∀ n, d.Encloses e n → other.node? n = d.node? n
  selects : ∀ (sel : Css.Selector) n, d.Encloses e n →
    sel.select other (some n) = sel.select d (some n)

namespace SameWithin

variable {other : Document} {e n : NodeId}

theorem narrow (same : d.SameWithin other e) (inside : d.Encloses e n) : d.SameWithin other n where
  size := same.size
  nodes m deeper := same.nodes m (inside.trans deeper)
  selects sel m deeper := same.selects sel m (inside.trans deeper)

theorem node (same : d.SameWithin other e) : other.node? e = d.node? e :=
  same.nodes e .refl

theorem children (same : d.SameWithin other e) : other.children e = d.children e := by
  rw [Document.children, same.node]
  rfl

theorem element (same : d.SameWithin other e) : other.element? e = d.element? e := by
  rw [element?, same.node]
  rfl

theorem below (same : d.SameWithin other e) (depth : Nat) :
    other.below depth e = d.below depth e := by
  induction depth generalizing e with
  | zero => rfl
  | succ depth ih =>
      rw [Document.below, Document.below, same.children]
      refine List.flatMap_congr fun child inside => ?_
      rw [ih (same.narrow (.single inside))]

theorem textBelow (same : d.SameWithin other e) : other.textBelow e = d.textBelow e := by
  rw [Document.textBelow, Document.textBelow, descendants, descendants, same.size, same.below]
  refine List.flatMap_congr fun n inside => ?_
  rw [same.nodes n (encloses_of_mem_below inside)]

theorem nodeMarkup (same : d.SameWithin other e) (depth : Nat) (raw hidden : Bool) :
    other.nodeMarkup depth raw hidden e = d.nodeMarkup depth raw hidden e := by
  induction depth generalizing e raw hidden with
  | zero => rfl
  | succ depth ih =>
      rw [Document.nodeMarkup, Document.nodeMarkup, same.node]
      cases present : d.node? e with
      | none => rfl
      | some node =>
          have inner : ∀ raw hidden,
              node.children.flatMap (other.nodeMarkup depth raw hidden) =
                node.children.flatMap (d.nodeMarkup depth raw hidden) := by
            intro raw hidden
            refine List.flatMap_congr fun child inside => ?_
            have within : child ∈ d.children e := by rwa [Document.children, present]
            exact ih (same.narrow (.single within)) raw hidden
          simp only [inner]

theorem innerMarkup (same : d.SameWithin other e) : other.innerMarkup e = d.innerMarkup e := by
  rw [Document.innerMarkup, Document.innerMarkup, same.children, same.size]
  congr 1
  exact List.flatMap_congr fun child inside =>
    (same.narrow (.single inside)).nodeMarkup _ _ _

end SameWithin

end Html.Document

/-- A selector that is tried inside of an element finds nothing outside of it. -/
theorem Css.Selector.encloses_of_mem_select {sel : Css.Selector} {d : Document} {e n : NodeId}
    (member : n ∈ sel.select d (some e)) : d.Encloses e n :=
  Document.encloses_of_mem_descendants
    (List.mem_of_mem_filter (List.mem_of_mem_filter member))

namespace Visit

variable {v : Visit} {focus : Focus}

theorem selectAll_encloses {selector : Option String} {ns : List NodeId}
    (matched : (v.selectAll selector (some focus)).result = .ok ns) {n : NodeId} (member : n ∈ ns) :
    v.document.Encloses focus.element n := by
  cases selector with
  | none =>
      cases matched
      cases List.mem_singleton.mp member
      exact .refl
  | some text =>
      obtain ⟨sel, _, found⟩ := (Run.bind_ok_iff _ _ _).mp matched
      split at found
      · cases found
      · cases found
        exact Css.Selector.encloses_of_mem_select member

theorem selectFirst_encloses {selector : Option String} {n : NodeId}
    (found : (v.selectFirst selector (some focus)).result = .ok n) :
    v.document.Encloses focus.element n := by
  rw [selectFirst_eq_map_selectAll] at found
  obtain ⟨ns, matched, rfl⟩ := (Run.map_ok_iff _ _ _).mp found
  obtain ⟨first, others, rfl, _⟩ := selectFirst_of_selectAll matched
  exact selectAll_encloses matched List.mem_cons_self

theorem narrow_encloses {elem : Option String} {narrowed : Focus}
    (success : (v.narrow elem (some focus)).result = .ok narrowed) :
    v.document.Encloses focus.element narrowed.element := by
  cases elem with
  | none =>
      cases success
      exact .refl
  | some text =>
      obtain ⟨n, found, rfl⟩ := (Run.map_ok_iff _ _ _).mp success
      exact selectFirst_encloses found

theorem linkElement_encloses {link : Option String} {n : NodeId}
    (found : (v.linkElement focus link).result = .ok n) :
    v.document.Encloses focus.element n := by
  cases link with
  | none =>
      cases found
      exact .refl
  | some text => exact selectFirst_encloses found

end Visit

/-- The element that something was taken of, or whose link was followed. -/
def Event.place? : Event → Option (Visit × NodeId)
  | .read v n => some (v, n)
  | .request _ link => link
  | .diagnostic _ => none
  | .login _ _ => none

namespace Call

variable {fetch : Fetch} {policy : Policy}

/-- The call is for a part of an element of the page, or for a page behind that one. -/
def Within (v : Visit) (e : NodeId) (c : Call) : Prop :=
  v.depth < c.visit.depth ∨
    c.visit = v ∧ ∃ focus, c.scope = some focus ∧ v.document.Encloses e focus.element

/-- No call widens the scope. -/
theorem Makes.within {v : Visit} {e : NodeId} {c d : Call} (made : c.Makes fetch policy d)
    (within : c.Within v e) : d.Within v e := by
  rcases within with behind | ⟨rfl, focus, inScope, inside⟩
  · rcases made.visit_cases with same | ⟨h, _, here, leads⟩
    · exact .inl (same ▸ behind)
    · left
      rw [leads.depth_eq, here]
      exact Nat.lt_succ_of_lt behind
  · cases made with
    | item matched member =>
        cases inScope
        exact .inr ⟨rfl, _, rfl, inside.trans (Visit.selectAll_encloses matched member)⟩
    | field member => exact .inr ⟨rfl, focus, inScope, inside⟩
    | directedField narrowed _ _ =>
        cases inScope
        exact .inr ⟨rfl, _, rfl, inside.trans (Visit.narrow_encloses narrowed)⟩
    | followingField narrowed _ _ =>
        cases inScope
        exact .inr ⟨rfl, _, rfl, inside.trans (Visit.narrow_encloses narrowed)⟩
    | target _ _ _ arrived =>
        obtain ⟨_, _, _, leads⟩ := Visit.exists_linksTo_of_linked arrived
        exact .inl (Nat.lt_of_lt_of_eq (Nat.lt_succ_self _) leads.depth_eq.symm)

theorem Reaches.within {v : Visit} {e : NodeId} {c d : Call} (reached : c.Reaches fetch policy d)
    (within : c.Within v e) : d.Within v e := by
  induction reached with
  | refl => exact within
  | tail _ made ih => exact made.within ih

/-- A call reads nothing outside of its scope. -/
theorem Reads.encloses {c : Call} {focus : Focus} {n : NodeId} (reads : c.Reads n)
    (inScope : c.scope = some focus) : c.visit.document.Encloses focus.element n := by
  cases reads with
  | select found =>
      cases inScope
      exact Visit.selectFirst_encloses found
  | directed narrowed _ =>
      cases inScope
      exact Visit.narrow_encloses narrowed
  | following narrowed _ =>
      cases inScope
      exact Visit.narrow_encloses narrowed
  | link narrowed found =>
      cases inScope
      exact (Visit.narrow_encloses narrowed).trans (Visit.linkElement_encloses found)

/-- A link that is followed is one that was read. -/
theorem Asks.reads {c : Call} {h : Hop} (asks : c.Asks fetch policy h) :
    h.visit = c.visit ∧ c.Reads h.element := by
  cases asks with
  | link narrowed _ _ links => exact ⟨rfl, .link narrowed links.found⟩

/-- What happens in a call is about elements that it reads. -/
theorem Shows.reads {c : Call} {e : Event} {v : Visit} {n : NodeId} (shows : c.Shows fetch policy e)
    (about : e.place? = some (v, n)) : c.visit = v ∧ c.Reads n := by
  cases shows with
  | note f kind => cases about
  | miss raises => cases about
  | read reads =>
      cases about
      exact ⟨rfl, reads⟩
  | ask asks same =>
      cases same
      cases about
      exact ⟨asks.reads.1.symm, asks.reads.2⟩

/-- All that an evaluation takes from the page in an element is of that element or inside of it. -/
theorem encloses_of_event {plan : Plan} {v : Visit} {focus : Focus} {e : Event} {n : NodeId}
    (member : e ∈ (plan.evaluate fetch policy v (some focus)).events)
    (about : e.place? = some (v, n)) : v.document.Encloses focus.element n := by
  obtain ⟨d, reached, shows⟩ := exists_shows (c := ⟨plan, v, some focus⟩) member
  obtain ⟨rfl, reads⟩ := shows.reads about
  rcases Reaches.within reached (.inr ⟨rfl, focus, rfl, .refl⟩) with
    behind | ⟨_, inner, inScope, inside⟩
  · exact absurd behind (Nat.lt_irrefl _)
  · exact inside.trans (reads.encloses inScope)

end Call

/-- The page, with another document in the place of its own. -/
def Visit.showing (v : Visit) (other : Document) : Visit :=
  { v with document := other }

section

variable {fetch : Fetch} {policy : Policy} {v : Visit} {other : Document} {focus : Focus}

namespace Visit

theorem selectAll_showing (same : v.document.SameWithin other focus.element)
    (selector : Option String) :
    (v.showing other).selectAll selector (some focus) = v.selectAll selector (some focus) := by
  cases selector with
  | none => rfl
  | some text =>
      have found : ∀ sel : Css.Selector,
          sel.select (v.showing other).document (some focus.element) =
            sel.select v.document (some focus.element) := fun sel => same.selects sel _ .refl
      simp only [selectAll, Option.map_some, found]

theorem selectFirst_showing (same : v.document.SameWithin other focus.element)
    (selector : Option String) :
    (v.showing other).selectFirst selector (some focus) = v.selectFirst selector (some focus) := by
  rw [selectFirst_eq_map_selectAll, selectFirst_eq_map_selectAll, selectAll_showing same]

theorem narrow_showing (same : v.document.SameWithin other focus.element) (elem : Option String) :
    (v.showing other).narrow elem (some focus) = v.narrow elem (some focus) := by
  cases elem with
  | none => rfl
  | some text => simp only [narrow, selectFirst_showing same]

theorem readElement_showing {n : NodeId} (same : v.document.SameWithin other n)
    (how : Html.Element → Accessor) :
    ((v.showing other).readElement n how).result = (v.readElement n how).result := by
  have present : (v.showing other).document.element? n = v.document.element? n := same.element
  simp only [readElement, present]
  cases v.document.element? n with
  | none => rfl
  | some e =>
      have text : (v.showing other).document.textBelow n = v.document.textBelow n := same.textBelow
      have markup : (v.showing other).document.innerMarkup n = v.document.innerMarkup n :=
        same.innerMarkup
      dsimp only
      cases how e with
      | text => simp only [Accessor.value, Accessor.textOf, text]
      | html => simp only [Accessor.value, markup]
      | _ => rfl

theorem linked_showing (same : v.document.SameWithin other focus.element) (link : Option String) :
    ((v.showing other).linked fetch policy focus link).result =
      (v.linked fetch policy focus link).result := by
  have found : (v.showing other).linkElement focus link = v.linkElement focus link := by
    cases link with
    | none => rfl
    | some text => exact selectFirst_showing same (some text)
  refine Run.result_bind_congr (congrArg Run.result found) fun n matched => ?_
  refine Run.result_bind_congr rfl fun _ _ => ?_
  have aimed : ((v.showing other).document.element? n).bind
      (Accessor.linkTarget? (v.showing other).page) =
      (v.document.element? n).bind (Accessor.linkTarget? v.page) :=
    congrArg (Option.bind · (Accessor.linkTarget? v.page))
      (same.narrow (linkElement_encloses matched)).element
  rw [aimed]
  cases (v.document.element? n).bind (Accessor.linkTarget? v.page) with
  | none => rfl
  | some url =>
      by_cases deep : policy.maxFollowDepth ≤ v.depth
      · simp only [showing, deep, ↓reduceIte]
      · simp only [showing, deep, ↓reduceIte]
        exact Run.result_bind_congr rfl fun _ _ => rfl

end Visit

theorem Directives.extract_showing {d : Directives} {fs : List (String × Plan)}
    (same : v.document.SameWithin other focus.element)
    (fields : ∀ f ∈ fs, (f.2.evaluate fetch policy (v.showing other) (some focus)).result =
      (f.2.evaluate fetch policy v (some focus)).result) :
    (d.extract fetch policy fs (v.showing other) focus).result =
      (d.extract fetch policy fs v focus).result := by
  cases named : d.value with
  | some name =>
      simp only [Directives.extract, named]
      exact Visit.readElement_showing same _
  | none =>
      simp only [Directives.extract, named, Plan.fieldRuns_eq_map]
      exact FieldRun.assemble_result_congr fields

/-- What is outside of the element in scope has no part in what an evaluation comes to. -/
theorem Plan.evaluate_showing (plan : Plan) (same : v.document.SameWithin other focus.element) :
    (plan.evaluate fetch policy (v.showing other) (some focus)).result =
      (plan.evaluate fetch policy v (some focus)).result := by
  induction plan generalizing focus with
  | select selector =>
      rw [evaluate_select, evaluate_select, Visit.selectFirst_showing same]
      refine Run.result_bind_congr rfl fun n found => ?_
      exact Visit.readElement_showing (same.narrow (Visit.selectFirst_encloses found)) _
  | each elem item ih =>
      rw [evaluate_each, evaluate_each, Visit.selectAll_showing same]
      refine Run.result_bind_congr rfl fun ns matched => listed_result_congr fun n member => ?_
      exact ih (same.narrow (Visit.selectAll_encloses matched member))
  | fields fs ih =>
      rw [evaluate_fields, evaluate_fields]
      exact FieldRun.assemble_result_congr fun f member => ih f member same
  | directed d fs ih =>
      rw [evaluate_directed, evaluate_directed, Visit.narrow_showing same]
      refine Run.result_bind_congr rfl fun inner narrowed => ?_
      have inside := same.narrow (Visit.narrow_encloses narrowed)
      exact Run.result_bind_congr
        (Directives.extract_showing inside fun f member => ih f member inside) fun _ _ => rfl
  | following d fs link target ih _ =>
      rw [evaluate_following, evaluate_following, Visit.narrow_showing same]
      refine Run.result_bind_congr rfl fun inner narrowed => ?_
      have inside := same.narrow (Visit.narrow_encloses narrowed)
      refine Run.result_bind_congr
        (Directives.extract_showing inside fun f member => ih f member inside) fun before _ => ?_
      rw [Filter.gate_result, Filter.gate_result]
      split
      · exact Run.result_bind_congr (Visit.linked_showing inside link) fun _ _ => rfl
      · rfl
  | malformed reason => rfl

end

/-- Evaluation is confined to its scope. All that is taken from the page while an element is in
scope, the links that are followed from it included, is of that element or inside of it, and what
the page holds elsewhere has no part in what the evaluation comes to, as long as selectors find the
same. So items of a list never take anything of each other, unless one lies inside of the other. -/
theorem evaluation_confined (fetch : Fetch) (policy : Policy) (v : Visit) :
    (∀ (plan : Plan) (focus : Focus) (e : Event) (n : NodeId),
      e ∈ (plan.evaluate fetch policy v (some focus)).events → e.place? = some (v, n) →
        v.document.Encloses focus.element n) ∧
    (∀ (plan : Plan) (focus : Focus) (other : Document),
      v.document.SameWithin other focus.element →
        (plan.evaluate fetch policy (v.showing other) (some focus)).result =
          (plan.evaluate fetch policy v (some focus)).result) ∧
    ∀ (elem : Option String) (item : Plan) (s : Scope) (ns : List NodeId),
      (v.selectAll elem s).result = .ok ns → ∀ first ∈ ns, ∀ second ∈ ns,
      (∀ n, v.document.Encloses first n → ¬ v.document.Encloses second n) →
      ∀ e ∈ (item.evaluate fetch policy v (Plan.itemScope elem s first)).events,
        ∀ n, e.place? = some (v, n) → ¬ v.document.Encloses second n := by
  refine ⟨fun plan focus e n member about => Call.encloses_of_event member about,
    fun plan focus other same => plan.evaluate_showing same, ?_⟩
  intro elem item s ns _ first _ second _ disjoint e member n about
  exact disjoint n (Call.encloses_of_event member about)

/-- Of the two paragraphs that a list is made of, the link of the second is read there and is inside
of the body, and with another link in its place the first comes to the same. -/
theorem evaluation_confined_linkPage :
    let fetch := (Fetcher.ofPages []).load
    let item : Plan := .directed ⟨none, some "href", none⟩ []
    let other : Document := ⟨linkDocument.nodes.set! 5
      ⟨.element ⟨.html, "p", [⟨.none, "href", "b:"⟩]⟩, some 3, []⟩⟩
    linkDocument.Encloses 3 5 ∧ linkDocument.SameWithin other 4 ∧
      (item.evaluate fetch .standard ((linkVisit 0).showing other) (some ⟨4, some "p"⟩)).result =
        .ok .null ∧
      (item.evaluate fetch .standard ((linkVisit 0).showing other) (some ⟨5, some "p"⟩)).result =
        .ok (.string "b:") ∧
      ((linkVisit 0).selectAll (some "p") none).result = .ok [4, 5] ∧
      (∀ n, linkDocument.Encloses 5 n → ¬ linkDocument.Encloses 4 n) ∧
      ∀ e ∈ (item.evaluate fetch .standard (linkVisit 0) (some ⟨5, some "p"⟩)).events,
        ∀ n, e.place? = some (linkVisit 0, n) → ¬ linkDocument.Encloses 4 n := by
  intro fetch item other
  obtain ⟨inside, elsewhere, apart⟩ := evaluation_confined fetch .standard (linkVisit 0)
  have within : linkDocument.Encloses 3 5 :=
    inside (.directed ⟨some "p + p", some "href", none⟩ []) ⟨3, none⟩ (.read (linkVisit 0) 5) 5
      List.mem_cons_self rfl
  have same : linkDocument.SameWithin other 4 := by
    refine ⟨rfl, fun n below => ?_, fun sel n below => ?_⟩
    · cases Document.eq_of_encloses_childless rfl below
      rfl
    · cases Document.eq_of_encloses_childless rfl below
      have nothing : ∀ d : Document, d.descendants 4 = [] → sel.select d (some 4) = [] := by
        intro d barren
        rw [Css.Selector.select, Css.Selector.candidates, barren]
        rfl
      rw [nothing other rfl, nothing linkDocument rfl]
  have matched : ((linkVisit 0).selectAll (some "p") none).result = .ok [4, 5] := by rfl
  have disjoint : ∀ n, linkDocument.Encloses 5 n → ¬ linkDocument.Encloses 4 n := by
    intro n first second
    have impossible := (Document.eq_of_encloses_childless rfl first).symm.trans
      (Document.eq_of_encloses_childless rfl second)
    cases impossible
  refine ⟨within, same, (elsewhere item ⟨4, some "p"⟩ other same).trans ?_, ?_, matched, disjoint,
    apart (some "p") item none [4, 5] matched 5 ?_ 4 ?_ disjoint⟩
  · rfl
  · rfl
  · decide
  · decide

end PageExtract
