import PageExtract.Proofs.Runs

/-!
The parts of an evaluation. A mapping with directives is evaluated in up to four parts: its element
is found, its contents are taken, the filter decides, and the link is followed. The theorems on
`Plan.evaluate` put every evaluation in terms of these, and `Plan.induct` is the induction on plans
in which all fields of a mapping are at hand at once.
-/

set_option autoImplicit false

namespace PageExtract

open Json (Value)

/-- Induction on plans, with all fields of a mapping at hand. -/
@[elab_as_elim, induction_eliminator]
theorem Plan.induct {motive : Plan → Prop}
    (select : ∀ selector, motive (.select selector))
    (each : ∀ elem item, motive item → motive (.each elem item))
    (directed : ∀ d fs, (∀ f ∈ fs, motive f.2) → motive (.directed d fs))
    (following : ∀ d fs link target, (∀ f ∈ fs, motive f.2) → motive target →
      motive (.following d fs link target))
    (fields : ∀ fs, (∀ f ∈ fs, motive f.2) → motive (.fields fs))
    (malformed : ∀ reason, motive (.malformed reason)) (plan : Plan) : motive plan :=
  @Plan.rec motive (fun fs => ∀ f ∈ fs, motive f.2) (fun f => motive f.2)
    select each directed following fields malformed
    (fun f member => by cases member)
    (fun first rest head tail f member => by
      rcases List.mem_cons.mp member with rfl | later
      · exact head
      · exact tail f later)
    (fun _ _ plan => plan) plan

namespace Filter

/-- What passes where there may be no filter. -/
def admits (filter : Option Filter) (v : Value) : Bool :=
  match filter with
  | none => true
  | some f => f.passes v

theorem gate_result (filter : Option Filter) (v : Value) (next : Value → Run Value) :
    (gate filter v next).result = if admits filter v then (next v).result else .ok .null := by
  cases filter with
  | none => rfl
  | some f =>
      cases tested : f.test? v with
      | none =>
          simp only [gate, admits, passes, tested, Option.getD_none, ↓reduceIte]
          rfl
      | some kept => cases kept <;> simp [gate, admits, passes, tested]

theorem gate_isFatal_iff (filter : Option Filter) (v : Value) (next : Value → Run Value) :
    (gate filter v next).IsFatal ↔ admits filter v = true ∧ (next v).IsFatal := by
  simp only [Run.IsFatal, gate_result]
  by_cases passed : admits filter v = true
  · simp only [passed, ↓reduceIte, true_and]
  · simp [passed]

theorem gate_not_isFatal {filter : Option Filter} {v : Value} {next : Value → Run Value}
    (safe : ¬ (next v).IsFatal) : ¬ (gate filter v next).IsFatal :=
  fun fatal => safe ((gate_isFatal_iff filter v next).mp fatal).2

theorem gate_none (v : Value) (next : Value → Run Value) : gate none v next = next v := rfl

/-- What is reported about a filter that isn't for values of the kind. -/
def notes (filter : Option Filter) (v : Value) : List Event :=
  match filter with
  | none => []
  | some f => if (f.test? v).isNone then [.diagnostic (.unsupportedFilter f v.kind)] else []

theorem notes_diagnostic {filter : Option Filter} {v : Value} {e : Event}
    (member : e ∈ notes filter v) : ∃ f kind, e = .diagnostic (.unsupportedFilter f kind) := by
  cases filter with
  | none => cases member
  | some f =>
      simp only [notes] at member
      split at member
      · exact ⟨_, _, List.mem_singleton.mp member⟩
      · cases member

theorem gate_of_admitted {filter : Option Filter} {v : Value} (admitted : admits filter v = true)
    (next : Value → Run Value) :
    gate filter v next = ⟨(next v).result, notes filter v ++ (next v).events⟩ := by
  cases filter with
  | none => rfl
  | some f =>
      cases tested : f.test? v with
      | none =>
          simp only [gate, notes, tested, Option.isNone_none, ↓reduceIte]
          rfl
      | some kept =>
          obtain rfl : kept = true := by simpa [admits, passes, tested] using admitted
          simp [gate, notes, tested]

/-- A value that is rejected ends there, and nothing is reported. -/
theorem gate_of_rejected {filter : Option Filter} {v : Value} (rejected : admits filter v = false)
    (next : Value → Run Value) : gate filter v next = .pure .null := by
  cases filter with
  | none => cases rejected
  | some f =>
      cases tested : f.test? v with
      | none => simp [admits, passes, tested] at rejected
      | some kept =>
          obtain rfl : kept = false := by simpa [admits, passes, tested] using rejected
          simp only [gate, tested]

theorem gate_event {filter : Option Filter} {v : Value} {next : Value → Run Value} {e : Event}
    (member : e ∈ (gate filter v next).events) :
    (∃ f kind, e = .diagnostic (.unsupportedFilter f kind)) ∨
      admits filter v = true ∧ e ∈ (next v).events := by
  cases admitted : admits filter v with
  | false =>
      rw [gate_of_rejected admitted] at member
      cases member
  | true =>
      rw [gate_of_admitted admitted] at member
      rcases List.mem_append.mp member with noted | later
      · exact .inl (notes_diagnostic noted)
      · exact .inr ⟨rfl, later⟩

end Filter

theorem items_cons_of_error {first : Run Value} {e : Failure} (failed : first.result = .error e)
    (rest : List (Run Value)) : items (first :: rest) = .error e := by
  simp only [items, failed]

theorem items_cons_error_iff {first : Run Value} {v : Value} (success : first.result = .ok v)
    (rest : List (Run Value)) (e : Failure) :
    items (first :: rest) = .error e ↔ items rest = .error e := by
  simp only [items, success]
  cases items rest with
  | error cause => exact Iff.rfl
  | ok vs => cases v <;> simp

theorem listed_error_iff (rs : List (Run Value)) (e : Failure) :
    (listed rs).result = .error e ↔ items rs = .error e := by
  simp only [listed]
  cases items rs <;> simp [Except.map]

theorem listed_ok_iff (rs : List (Run Value)) (v : Value) :
    (listed rs).result = .ok v ↔ ∃ vs, items rs = .ok vs ∧ .array vs = v := by
  simp only [listed]
  cases items rs <;> simp [Except.map]

/-- A list fails only with a failure of one of its items. -/
theorem exists_of_items_error {rs : List (Run Value)} {e : Failure} (failed : items rs = .error e) :
    ∃ r ∈ rs, r.result = .error e := by
  induction rs with
  | nil => cases failed
  | cons first rest ih =>
      cases ended : first.result with
      | error cause =>
          rw [items_cons_of_error ended rest] at failed
          cases failed
          exact ⟨first, List.mem_cons_self, ended⟩
      | ok v =>
          obtain ⟨r, member, cause⟩ := ih ((items_cons_error_iff ended rest e).mp failed)
          exact ⟨r, List.mem_cons_of_mem _ member, cause⟩

/-- A list that comes out has no failed item. -/
theorem item_ok_of_items {rs : List (Run Value)} {vs : List Value} (success : items rs = .ok vs)
    {r : Run Value} (member : r ∈ rs) : ∃ w, r.result = .ok w := by
  induction rs generalizing vs with
  | nil => cases member
  | cons first rest ih =>
      cases ended : first.result with
      | error e =>
          rw [items_cons_of_error ended] at success
          cases success
      | ok w =>
          cases tail : items rest with
          | error e =>
              rw [(items_cons_error_iff ended rest e).mpr tail] at success
              cases success
          | ok others =>
              rcases List.mem_cons.mp member with rfl | later
              · exact ⟨w, ended⟩
              · exact ih tail later

namespace FieldRun

/-- The mapping of fields with their errors beside them. -/
def joined : List (String × Value) × List (String × Value) → Value
  | (object, []) => .object object
  | (object, errors) => .object (Entries.insert errorsKey (.object errors) object)

theorem assemble_result (policy : Policy) (fs : List FieldRun) :
    (assemble policy fs).result = (collect policy fs [] []).map joined := by
  simp only [assemble]
  cases collect policy fs [] [] with
  | error e => rfl
  | ok done =>
      obtain ⟨object, errors⟩ := done
      cases errors <;> rfl

theorem assemble_error_iff (policy : Policy) (fs : List FieldRun) (e : Failure) :
    (assemble policy fs).result = .error e ↔ collect policy fs [] [] = .error e := by
  rw [assemble_result]
  cases collect policy fs [] [] <;> simp [Except.map]

theorem assemble_ok_iff (policy : Policy) (fs : List FieldRun) (v : Value) :
    (assemble policy fs).result = .ok v ↔
      ∃ done, collect policy fs [] [] = .ok done ∧ joined done = v := by
  rw [assemble_result]
  cases collect policy fs [] [] <;> simp [Except.map]

theorem assemble_events (policy : Policy) (fs : List FieldRun) :
    (assemble policy fs).events = fs.flatMap fun f => f.run.events := rfl

theorem collect_cons_of_ok (policy : Policy) (f : FieldRun) (rest : List FieldRun)
    (object errors : List (String × Value)) (v : Value) (success : f.run.result = .ok v) :
    collect policy (f :: rest) object errors =
      collect policy rest (Entries.insert f.key v object) errors := by
  simp only [collect, success]

theorem collect_cons_of_propagated (policy : Policy) (f : FieldRun) (rest : List FieldRun)
    (object errors : List (String × Value)) (e : Failure) (failed : f.run.result = .error e)
    (propagated : f.isolated policy e = none) :
    collect policy (f :: rest) object errors = .error e := by
  simp only [collect, failed, propagated]

theorem isolated_of_fatal (policy : Policy) (f : FieldRun) (e : Failure)
    (severe : e.isRecoverable = false) : f.isolated policy e = none := by
  simp [isolated, severe]

/-- A mapping fails only with a failure of one of its fields that is not isolated. -/
theorem collect_error {policy : Policy} {fs : List FieldRun} {object errors : List (String × Value)}
    {e : Failure} (failed : collect policy fs object errors = .error e) :
    ∃ f ∈ fs, f.run.result = .error e ∧ f.isolated policy e = none := by
  induction fs generalizing object errors with
  | nil => cases failed
  | cons f rest ih =>
      simp only [collect] at failed
      split at failed
      · obtain ⟨g, member, cause⟩ := ih failed
        exact ⟨g, List.mem_cons_of_mem _ member, cause⟩
      · rename_i cause ended
        split at failed
        · rename_i propagated
          cases failed
          exact ⟨f, List.mem_cons_self, ended, propagated⟩
        · obtain ⟨g, member, cause⟩ := ih failed
          exact ⟨g, List.mem_cons_of_mem _ member, cause⟩

theorem assemble_error {policy : Policy} {fs : List FieldRun} {e : Failure}
    (failed : (assemble policy fs).result = .error e) :
    ∃ f ∈ fs, f.run.result = .error e ∧ f.isolated policy e = none :=
  collect_error ((assemble_error_iff policy fs e).mp failed)

end FieldRun

/-- What a mapping with directives holds before it is filtered: the value that it names, or its
fields. -/
def Directives.extract (fetch : Fetch) (policy : Policy) (d : Directives)
    (fs : List (String × Plan)) (v : Visit) (focus : Focus) : Run Value :=
  match d.value with
  | some name => v.readElement focus.element fun _ => Accessor.ofName name
  | none => FieldRun.assemble policy (Plan.fieldRuns fetch policy fs v (some focus))

/-- The filter before a follow. A mapping of nothing but a follow has nothing to filter yet. -/
def Directives.filterBefore (d : Directives) (fs : List (String × Plan)) : Option Filter :=
  if d.value.isNone && fs.isEmpty then none else d.filter

/-- The filter of a mapping with or without a follow. -/
def Directives.filterFor (d : Directives) (fs : List (String × Plan))
    (follow : Option (Option String × Plan)) : Option Filter :=
  if follow.isSome then d.filterBefore fs else d.filter

namespace Visit

theorem start_events (url html : String) (depth : Nat) : (start url html depth).events = [] := by
  simp only [start]
  split <;> rfl

theorem start_depth {url html : String} {depth : Nat} {next : Visit}
    (started : (start url html depth).result = .ok next) : next.depth = depth := by
  simp only [start] at started
  split at started
  · cases started
    rfl
  · cases started

theorem start_error {url html : String} {depth : Nat} {e : Failure}
    (failed : (start url html depth).result = .error e) :
    ∃ mistake, e = .configuration mistake := by
  simp only [start] at failed
  split at failed
  · cases failed
  · cases failed
    exact ⟨_, rfl⟩

/-- The element whose link is followed. -/
def linkElement (v : Visit) (focus : Focus) (link : Option String) : Run Html.NodeId :=
  match link with
  | some _ => v.selectFirst link (some focus)
  | none => .pure focus.element

/-- The page that a link leads to. -/
def linked (fetch : Fetch) (policy : Policy) (v : Visit) (focus : Focus) (link : Option String) :
    Run Visit :=
  (v.linkElement focus link).bind fun n =>
    (Run.emit (.read v n)).bind fun _ =>
      match (v.document.element? n).bind (Accessor.linkTarget? v.page) with
      | none => .fail (.missingLink ((link.or focus.selector).getD ""))
      | some url =>
        if policy.maxFollowDepth ≤ v.depth then .fail (.followDepth url policy.maxFollowDepth)
        else
          (Run.emit (.request (.get url) (some (v, n)))).bind fun _ =>
            match fetch (.get url) with
            | .error cause => .fail (.fetch cause)
            | .ok html => start url html (v.depth + 1)

end Visit

/-- A follow first reaches the linked page, whatever is to be evaluated there. -/
theorem follow_eq_bind_linked (fetch : Fetch) (policy : Policy) (v : Visit) (focus : Focus)
    (link : Option String) (before : Value) (target : Visit → Run Value) :
    follow fetch policy v focus link before target =
      (v.linked fetch policy focus link).bind fun next => (target next).map (merge before) := by
  simp only [follow, Visit.linked, Visit.linkElement, Run.bind_assoc]
  congr 1
  funext n
  congr 1
  funext _
  cases (v.document.element? n).bind (Accessor.linkTarget? v.page) with
  | none => rfl
  | some url =>
      by_cases deep : policy.maxFollowDepth ≤ v.depth
      · simp only [deep, ↓reduceIte]
        rfl
      · simp only [deep, ↓reduceIte, Run.bind_assoc]
        congr 1
        funext _
        cases fetch (.get url) <;> rfl

namespace Plan

variable (fetch : Fetch) (policy : Policy)

/-- The run of a field, with the key and the default that it has in its mapping. -/
def fieldRun (v : Visit) (s : Scope) (f : String × Plan) : FieldRun :=
  ⟨f.1, f.2.fallback, f.2.evaluate fetch policy v s⟩

theorem fieldRuns_eq_map (fs : List (String × Plan)) (v : Visit) (s : Scope) :
    fieldRuns fetch policy fs v s = fs.map (fieldRun fetch policy v s) := by
  induction fs with
  | nil => rfl
  | cons f rest ih =>
      obtain ⟨key, plan⟩ := f
      simp only [fieldRuns, ih, List.map_cons, fieldRun]

/-- The scope in which the item of a list is evaluated at a match. -/
def itemScope (elem : Option String) (s : Scope) (n : Html.NodeId) : Scope :=
  some ⟨n, elem.or (s.bind Focus.selector)⟩

theorem evaluate_select (selector : Option String) (v : Visit) (s : Scope) :
    evaluate fetch policy (.select selector) v s =
      (v.selectFirst selector s).bind fun n => v.readElement n Accessor.standard := by
  rw [evaluate]

theorem evaluate_each (elem : Option String) (item : Plan) (v : Visit) (s : Scope) :
    evaluate fetch policy (.each elem item) v s =
      (v.selectAll elem s).bind fun ns =>
        listed (ns.map fun n => item.evaluate fetch policy v (itemScope elem s n)) := by
  rw [evaluate]
  rfl

theorem evaluate_fields (fs : List (String × Plan)) (v : Visit) (s : Scope) :
    evaluate fetch policy (.fields fs) v s =
      FieldRun.assemble policy (fs.map (fieldRun fetch policy v s)) := by
  rw [evaluate, fieldRuns_eq_map]

theorem evaluate_directed (d : Directives) (fs : List (String × Plan)) (v : Visit) (s : Scope) :
    evaluate fetch policy (.directed d fs) v s =
      (v.narrow d.elem s).bind fun focus =>
        (d.extract fetch policy fs v focus).bind fun value => Filter.gate d.filter value .pure := by
  rw [evaluate]
  rfl

theorem evaluate_following (d : Directives) (fs : List (String × Plan)) (link : Option String)
    (target : Plan) (v : Visit) (s : Scope) :
    evaluate fetch policy (.following d fs link target) v s =
      (v.narrow d.elem s).bind fun focus =>
        (d.extract fetch policy fs v focus).bind fun value =>
          Filter.gate (d.filterBefore fs) value fun before =>
            (v.linked fetch policy focus link).bind fun page =>
              (target.evaluate fetch policy page none).map (merge before) := by
  rw [evaluate]
  congr 1
  funext focus
  simp only [follow_eq_bind_linked]
  cases named : d.value with
  | some name => simp [Directives.extract, Directives.filterBefore, named]
  | none =>
      cases fs with
      | nil =>
          have blank : FieldRun.assemble policy [] = Run.pure (.object []) := rfl
          simp [Directives.extract, Directives.filterBefore, named, fieldRuns, blank,
            Filter.gate_none]
      | cons f rest => simp [Directives.extract, Directives.filterBefore, named]

theorem evaluate_malformed (reason : Malformation) (v : Visit) (s : Scope) :
    evaluate fetch policy (.malformed reason) v s = .fail (.configuration (.malformed reason)) := by
  rw [evaluate]

/-- Where the filter lets it, a mapping with a follow comes to what its target comes to on the
linked page, merged into what it holds already. -/
theorem evaluate_following_of_linked {fetch : Fetch} {policy : Policy} {v : Visit} {s : Scope}
    {d : Directives} {fs : List (String × Plan)}
    {link : Option String} {target : Plan} {focus : Focus} {before : Value} {page : Visit}
    (narrowed : (v.narrow d.elem s).result = .ok focus)
    (extracted : (d.extract fetch policy fs v focus).result = .ok before)
    (admitted : Filter.admits (d.filterBefore fs) before = true)
    (arrived : (v.linked fetch policy focus link).result = .ok page) :
    ((Plan.following d fs link target).evaluate fetch policy v s).result =
      (target.evaluate fetch policy page none).result.map (merge before) := by
  simp only [evaluate_following, Run.bind_result, narrowed, extracted, Filter.gate_result, admitted,
    arrived, Except.bind, ↓reduceIte, Run.map_result]

end Plan

end PageExtract
