import PageExtract.Proofs.Scrapes

/-!
The calls of an evaluation. Evaluating a plan calls for further evaluations: of the item of a list
at each of its matches, of the fields of a mapping, and of the target of a follow on the page that
the link leads to. Main definitions: `Call.Makes` and `Call.Reaches`.
-/

set_option autoImplicit false

namespace PageExtract

/-- A plan with the page and the scope that it is evaluated in. -/
structure Call where
  plan : Plan
  visit : Visit
  scope : Scope

namespace Call

variable (fetch : Fetch) (policy : Policy)

def run (c : Call) : Run Json.Value :=
  c.plan.evaluate fetch policy c.visit c.scope

/-- A call makes another if evaluating the one evaluates the other. A target is called only once
the element was found, its contents passed the filter and the linked page is there. -/
inductive Makes : Call → Call → Prop where
  | item {elem : Option String} {item : Plan} {v : Visit} {s : Scope} {ns : List Html.NodeId}
      {n : Html.NodeId} (matched : (v.selectAll elem s).result = .ok ns) (member : n ∈ ns) :
      Makes ⟨.each elem item, v, s⟩ ⟨item, v, Plan.itemScope elem s n⟩
  | field {fs : List (String × Plan)} {v : Visit} {s : Scope} {f : String × Plan}
      (member : f ∈ fs) : Makes ⟨.fields fs, v, s⟩ ⟨f.2, v, s⟩
  | directedField {d : Directives} {fs : List (String × Plan)} {v : Visit} {s : Scope}
      {focus : Focus} {f : String × Plan} (narrowed : (v.narrow d.elem s).result = .ok focus)
      (valueless : d.value = none) (member : f ∈ fs) :
      Makes ⟨.directed d fs, v, s⟩ ⟨f.2, v, some focus⟩
  | followingField {d : Directives} {fs : List (String × Plan)} {link : Option String}
      {target : Plan} {v : Visit} {s : Scope} {focus : Focus} {f : String × Plan}
      (narrowed : (v.narrow d.elem s).result = .ok focus) (valueless : d.value = none)
      (member : f ∈ fs) : Makes ⟨.following d fs link target, v, s⟩ ⟨f.2, v, some focus⟩
  | target {d : Directives} {fs : List (String × Plan)} {link : Option String} {target : Plan}
      {v next : Visit} {s : Scope} {focus : Focus} {before : Json.Value}
      (narrowed : (v.narrow d.elem s).result = .ok focus)
      (extracted : (d.extract fetch policy fs v focus).result = .ok before)
      (admitted : Filter.admits (d.filterBefore fs) before = true)
      (arrived : (v.linked fetch policy focus link).result = .ok next) :
      Makes ⟨.following d fs link target, v, s⟩ ⟨target, next, none⟩

variable {fetch policy}

theorem sizeOf_field_lt {fs : List (String × Plan)} {f : String × Plan} (member : f ∈ fs) :
    sizeOf f.2 < sizeOf fs := by
  have part : sizeOf f.2 < sizeOf f := by
    obtain ⟨key, plan⟩ := f
    simp only [Prod.mk.sizeOf_spec]
    omega
  exact Nat.lt_trans part (List.sizeOf_lt_of_mem member)

/-- Called plans are parts of the calling one. -/
theorem Makes.sizeOf_lt {c d : Call} (made : Makes fetch policy c d) :
    sizeOf d.plan < sizeOf c.plan := by
  cases made with
  | item =>
      simp only [Plan.each.sizeOf_spec]
      omega
  | field member =>
      have smaller := sizeOf_field_lt member
      simp only [Plan.fields.sizeOf_spec]
      omega
  | directedField _ _ member =>
      have smaller := sizeOf_field_lt member
      simp only [Plan.directed.sizeOf_spec]
      omega
  | followingField _ _ member =>
      have smaller := sizeOf_field_lt member
      simp only [Plan.following.sizeOf_spec]
      omega
  | target =>
      simp only [Plan.following.sizeOf_spec]
      omega

/-- The calls of a call, itself among them, however many calls lie between. -/
def Reaches (fetch : Fetch) (policy : Policy) : Call → Call → Prop :=
  Relation.ReflTransGen (Makes fetch policy)

end Call

/-- The call that a scrape makes on its first page. -/
def ScrapeRequest.rootCall? (fetcher : Fetcher) (sessions : Sessions) (r : ScrapeRequest) :
    Option Call :=
  (r.firstVisit? fetcher sessions).map fun v => ⟨r.plan, v, none⟩

/-- The calls of the whole scrape, on its first page and on all followed ones. -/
def ScrapeRequest.Reaches (fetcher : Fetcher) (sessions : Sessions) (r : ScrapeRequest)
    (c : Call) : Prop :=
  ∃ root, r.rootCall? fetcher sessions = some root ∧ root.Reaches fetcher.load r.policy c

end PageExtract
