import PageExtract.Proofs.Entries
import PageExtract.Proofs.Evaluations

/-!
The normal form of mappings. Each directive is read by its own key, so taking one away leaves the
fields and the other directives as they are. In the scope of an element a mapping of fields alone is
one whose directives are all absent, so both kinds evaluate alike there.
-/

set_option autoImplicit false

namespace PageExtract

open Json (Value)

/-- Induction on specs, with all items of a list and all entries of a mapping at hand. -/
@[elab_as_elim, induction_eliminator]
theorem Spec.induct {motive : Spec → Prop}
    (missing : motive .missing) (selector : ∀ s, motive (.selector s))
    (list : ∀ items, (∀ s ∈ items, motive s) → motive (.list items))
    (map : ∀ entries, (∀ e ∈ entries, motive e.2) → motive (.map entries))
    (literal : ∀ v, motive (.literal v)) (pattern : ∀ p, motive (.pattern p))
    (predicate : ∀ test, motive (.predicate test)) (s : Spec) : motive s :=
  @Spec.rec motive (fun items => ∀ s ∈ items, motive s) (fun entries => ∀ e ∈ entries, motive e.2)
    (fun e => motive e.2) missing selector list map literal pattern predicate
    (fun _ member => absurd member List.not_mem_nil)
    (fun first rest head tail s member => by
      rcases List.mem_cons.mp member with rfl | later
      · exact head
      · exact tail s later)
    (fun _ member => absurd member List.not_mem_nil)
    (fun first rest head tail e member => by
      rcases List.mem_cons.mp member with rfl | later
      · exact head
      · exact tail e later)
    (fun _ _ spec => spec) s

namespace Plan

theorem stringDirective_congr {key : String} {es others : List (String × Spec)}
    (same : Entries.get? key es = Entries.get? key others) :
    stringDirective key es = stringDirective key others := by
  simp only [stringDirective, same]

theorem filterOf_congr {es others : List (String × Spec)}
    (same : Entries.get? Spec.filterKey es = Entries.get? Spec.filterKey others) :
    filterOf es = filterOf others := by
  simp only [filterOf, same]

theorem fieldsOf_eq (es : List (String × Spec)) :
    fieldsOf es =
      (es.filter fun e => !Spec.isDirective e.1).map fun e => (e.1, ofSpec e.2) := by
  induction es with
  | nil => rfl
  | cons e rest ih =>
      obtain ⟨k, s⟩ := e
      cases steers : Spec.isDirective k <;> simp [fieldsOf, steers, ih]

theorem fieldsOf_append (es others : List (String × Spec)) :
    fieldsOf (es ++ others) = fieldsOf es ++ fieldsOf others := by
  simp only [fieldsOf_eq, List.filter_append, List.map_append]

theorem fieldsOf_erase {key : String} (steers : Spec.isDirective key = true)
    (es : List (String × Spec)) : fieldsOf (Entries.erase key es) = fieldsOf es := by
  induction es with
  | nil => rfl
  | cons e rest ih =>
      obtain ⟨k, s⟩ := e
      by_cases same : k = key
      · rw [same, Entries.erase_cons_self, ih, fieldsOf, if_pos steers]
      · rw [Entries.erase_cons_of_ne same, fieldsOf, fieldsOf, ih]

/-- The follow of a mapping is that of the first entry with its key. -/
theorem followOf_eq (es : List (String × Spec)) :
    followOf es = match Entries.get? Spec.followKey es with
      | none => .ok none
      | some s => targetOf s := by
  induction es with
  | nil => rfl
  | cons e rest ih =>
      obtain ⟨k, s⟩ := e
      by_cases same : k = Spec.followKey
      · rw [followOf, if_pos same]
        simp only [Entries.get?, same, ↓reduceIte]
      · rw [followOf, if_neg same, ih]
        simp only [Entries.get?, same, ↓reduceIte]

/-- Each directive is read by its own key. -/
theorem directives_ok_iff {es : List (String × Spec)} {d : Directives} :
    directives es = .ok d ↔ stringDirective Spec.elemKey es = .ok d.elem ∧
      stringDirective Spec.valueKey es = .ok d.value ∧ filterOf es = d.filter := by
  simp only [directives]
  cases stringDirective Spec.elemKey es with
  | error m => simp
  | ok elem =>
      cases stringDirective Spec.valueKey es with
      | error m => simp
      | ok value =>
          obtain ⟨_, _, _⟩ := d
          simp

theorem directives_erase_filterKey {es : List (String × Spec)} {d : Directives}
    (formed : directives es = .ok d) :
    directives (Entries.erase Spec.filterKey es) = .ok { d with filter := none } := by
  obtain ⟨elem, value, _⟩ := directives_ok_iff.mp formed
  refine directives_ok_iff.mpr ⟨?_, ?_, ?_⟩
  · rw [← elem, stringDirective_congr (Entries.get?_erase_of_ne (by decide) es)]
  · rw [← value, stringDirective_congr (Entries.get?_erase_of_ne (by decide) es)]
  · simp only [filterOf, Entries.get?_erase_self]

theorem directives_congr {es others : List (String × Spec)}
    (elem : Entries.get? Spec.elemKey es = Entries.get? Spec.elemKey others)
    (value : Entries.get? Spec.valueKey es = Entries.get? Spec.valueKey others)
    (filter : Entries.get? Spec.filterKey es = Entries.get? Spec.filterKey others) :
    directives es = directives others := by
  simp only [directives, stringDirective_congr elem, stringDirective_congr value,
    filterOf_congr filter]

theorem directives_erase_followKey (es : List (String × Spec)) :
    directives (Entries.erase Spec.followKey es) = directives es :=
  directives_congr (Entries.get?_erase_of_ne (by decide) es)
    (Entries.get?_erase_of_ne (by decide) es) (Entries.get?_erase_of_ne (by decide) es)

theorem followOf_congr {es others : List (String × Spec)}
    (same : Entries.get? Spec.followKey es = Entries.get? Spec.followKey others) :
    followOf es = followOf others := by
  rw [followOf_eq, followOf_eq, same]

theorem followOf_erase_followKey (es : List (String × Spec)) :
    followOf (Entries.erase Spec.followKey es) = .ok none := by
  simp only [followOf_eq, Entries.get?_erase_self]

theorem followOf_erase_of_ne {key : String} (differs : Spec.followKey ≠ key)
    (es : List (String × Spec)) : followOf (Entries.erase key es) = followOf es :=
  followOf_congr (Entries.get?_erase_of_ne differs es)

theorem missing_of_no_directive {es : List (String × Spec)} (plain : hasDirective es = false)
    {key : String} (steers : Spec.isDirective key = true) {s : Spec}
    (found : Entries.get? key es = some s) : s = .missing := by
  have absent := List.any_eq_false.mp plain (key, s) (Entries.mem_of_get? found)
  cases s with
  | missing => rfl
  | _ => exact absurd (by simp [steers, Spec.isMissing]) absent

theorem followOf_of_no_directive {es : List (String × Spec)} (plain : hasDirective es = false) :
    followOf es = .ok none := by
  rw [followOf_eq]
  cases found : Entries.get? Spec.followKey es with
  | none => rfl
  | some s =>
      rw [missing_of_no_directive plain rfl found]
      rfl

theorem directives_of_no_directive {es : List (String × Spec)} (plain : hasDirective es = false) :
    directives es = .ok ⟨none, none, none⟩ := by
  have nothing : ∀ key, Spec.isDirective key = true → stringDirective key es = .ok none := by
    intro key steers
    cases found : Entries.get? key es with
    | none => simp only [stringDirective, found]
    | some s =>
        rw [missing_of_no_directive plain steers found] at found
        simp only [stringDirective, found]
  have unfiltered : filterOf es = none := by
    cases found : Entries.get? Spec.filterKey es with
    | none => simp only [filterOf, found]
    | some s =>
        rw [missing_of_no_directive plain rfl found] at found
        simp only [filterOf, found]
  simp only [directives, nothing Spec.elemKey rfl, nothing Spec.valueKey rfl, unfiltered]

variable (fetch : Fetch) (policy : Policy)

/-- At an element, a mapping without a follow is what its directives make of its fields, whether or
not there are any. -/
theorem evaluate_ofMapping (es : List (String × Spec)) (fs : List (String × Plan)) (v : Visit)
    (focus : Focus) :
    (ofMapping es fs (.ok none)).evaluate fetch policy v (some focus) =
      match directives es with
      | .error m => .fail (.configuration (.malformed m))
      | .ok d => (Plan.directed d fs).evaluate fetch policy v (some focus) := by
  cases plain : hasDirective es with
  | true =>
      simp only [ofMapping, plain, Bool.not_true, Bool.false_eq_true, ↓reduceIte]
      cases directives es with
      | error m => exact evaluate_malformed fetch policy m v (some focus)
      | ok d => rfl
  | false =>
      simp only [ofMapping, plain, Bool.not_false, ↓reduceIte, directives_of_no_directive plain]
      rw [evaluate_fields, evaluate_directed]
      simp only [Visit.narrow, Run.pure_bind, Directives.extract, fieldRuns_eq_map, Filter.gate]
      exact (Run.bind_pure _).symm

theorem directives_withoutElem (es : List (String × Spec)) :
    directives (withoutElem es) =
      (stringDirective Spec.valueKey es).map fun value => ⟨none, value, filterOf es⟩ := by
  have noElem : stringDirective Spec.elemKey (withoutElem es) = .ok none := by
    simp only [stringDirective, withoutElem, Entries.get?_erase_self]
  have sameValue : stringDirective Spec.valueKey (withoutElem es) =
      stringDirective Spec.valueKey es :=
    stringDirective_congr (Entries.get?_erase_of_ne (by decide) es)
  have sameFilter : filterOf (withoutElem es) = filterOf es :=
    filterOf_congr (Entries.get?_erase_of_ne (by decide) es)
  simp only [directives, noElem, sameValue, sameFilter]
  cases stringDirective Spec.valueKey es <;> rfl

theorem directives_withoutElem_of_ok {es : List (String × Spec)} {d : Directives}
    (formed : directives es = .ok d) :
    directives (withoutElem es) = .ok { d with elem := none } := by
  obtain ⟨_, value, filter⟩ := directives_ok_iff.mp formed
  rw [directives_withoutElem, value, filter]
  rfl

theorem fieldsOf_withoutElem (es : List (String × Spec)) :
    fieldsOf (withoutElem es) = fieldsOf es := fieldsOf_erase rfl es

theorem followOf_withoutElem (es : List (String × Spec)) :
    followOf (withoutElem es) = followOf es := followOf_erase_of_ne (by decide) es

/-- Taking a directive away commutes with taking the element away. -/
theorem withoutElem_erase (key : String) (es : List (String × Spec)) :
    withoutElem (Entries.erase key es) = Entries.erase key (withoutElem es) := by
  simp only [withoutElem, Entries.erase, List.filter_filter]
  exact List.filter_congr fun _ _ => Bool.and_comm _ _

/-- What is evaluated at each match is the mapping without the `_elem` that finds the matches. -/
theorem itemOf_map (es : List (String × Spec)) :
    itemOf (.map es) = ofSpec (.map (withoutElem es)) := by
  rw [itemOf, ofSpec, fieldsOf_withoutElem, followOf_withoutElem]

theorem targetOf_eq_ofFollow (es : List (String × Spec)) :
    targetOf (.map es) = ofFollow es (itemOf (.map es)) := by
  rw [targetOf, itemOf]

/-- A target is what is left of its mapping without the link. -/
theorem targetOf_map {es : List (String × Spec)} {link : Option String}
    (linked : stringDirective Spec.elemKey es = .ok link) :
    targetOf (.map es) = .ok (some (link, ofSpec (.map (withoutElem es)))) := by
  rw [targetOf_eq_ofFollow, ofFollow, linked, itemOf_map]

theorem evaluate_list {es : List (String × Spec)} {elem : Option String}
    (formed : stringDirective Spec.elemKey es = .ok elem) (v : Visit) (s : Scope) :
    (ofSpec (.list [.map es])).evaluate fetch policy v s =
      (v.selectAll elem s).bind fun ns => listed (ns.map fun n =>
        (ofSpec (.map (withoutElem es))).evaluate fetch policy v (itemScope elem s n)) := by
  simp only [ofSpec, ofTemplate, formed, itemOf_map]
  exact evaluate_each fetch policy elem _ v s

/-- The item of a list at a match: what the value and the filter of its mapping make of it. -/
theorem evaluate_itemOf {es : List (String × Spec)} (unfollowed : followOf es = .ok none)
    (v : Visit) (focus : Focus) :
    (itemOf (.map es)).evaluate fetch policy v (some focus) =
      match stringDirective Spec.valueKey es with
      | .error m => .fail (.configuration (.malformed m))
      | .ok value =>
        (Directives.extract fetch policy ⟨none, value, filterOf es⟩ (fieldsOf es) v focus).bind
          fun value => Filter.gate (filterOf es) value .pure := by
  rw [itemOf, unfollowed, evaluate_ofMapping, directives_withoutElem]
  cases stringDirective Spec.valueKey es with
  | error m => rfl
  | ok value =>
      simp only [Except.map, evaluate_directed, Visit.narrow, Run.pure_bind]

theorem steered_of_followOf {es : List (String × Spec)} {follow : Option (Option String × Plan)}
    (followed : followOf es = .ok follow) : follow = none ∨ hasDirective es = true := by
  cases plain : hasDirective es with
  | true => exact .inr rfl
  | false =>
      rw [followOf_of_no_directive plain] at followed
      exact .inl (Except.ok.inj followed).symm

theorem ofSpec_map_of_followed {es : List (String × Spec)} {link : Option String} {target : Plan}
    (followed : followOf es = .ok (some (link, target))) :
    ofSpec (.map es) = match directives es with
      | .error m => .malformed m
      | .ok d => .following d (fieldsOf es) link target := by
  have steered : hasDirective es = true := (steered_of_followOf followed).resolve_left nofun
  cases formed : directives es <;>
    simp only [ofSpec, ofMapping, steered, followed, formed, Bool.not_true, Bool.false_eq_true,
      ↓reduceIte]

/-- What a mapping does with its contents: it follows its link, if it has one. -/
def goOn (follow : Option (Option String × Plan)) (v : Visit) (focus : Focus) (before : Value) :
    Run Value :=
  match follow with
  | none => .pure before
  | some (link, target) =>
    (v.linked fetch policy focus link).bind fun page =>
      (target.evaluate fetch policy page none).map (merge before)

/-- At an element, a mapping takes its contents, filters them and goes on with them. -/
theorem evaluate_map_of_located {es : List (String × Spec)} {d : Directives}
    {follow : Option (Option String × Plan)} {s : Scope} (formed : directives es = .ok d)
    (followed : followOf es = .ok follow) (located : d.elem.isSome = true ∨ s.isSome = true)
    (v : Visit) :
    (ofSpec (.map es)).evaluate fetch policy v s =
      (v.narrow d.elem s).bind fun focus =>
        (d.extract fetch policy (fieldsOf es) v focus).bind fun value =>
          Filter.gate (d.filterFor (fieldsOf es) follow) value
            (goOn fetch policy follow v focus) := by
  cases plain : hasDirective es with
  | true =>
      simp only [ofSpec, followed, ofMapping, plain, Bool.not_true, Bool.false_eq_true, ↓reduceIte,
        formed]
      cases follow with
      | none => exact evaluate_directed fetch policy d (fieldsOf es) v s
      | some f => exact evaluate_following fetch policy d (fieldsOf es) f.1 f.2 v s
  | false =>
      -- a mapping of fields alone looks nowhere else than at the element in scope
      obtain rfl : follow = none := (steered_of_followOf followed).resolve_right (by simp [plain])
      obtain rfl : ⟨none, none, none⟩ = d := by
        rwa [directives_of_no_directive plain, Except.ok.injEq] at formed
      obtain ⟨focus, rfl⟩ := Option.isSome_iff_exists.mp (located.resolve_left nofun)
      rw [ofSpec, followed, evaluate_ofMapping, formed]
      exact evaluate_directed fetch policy _ (fieldsOf es) v (some focus)

end Plan

end PageExtract
