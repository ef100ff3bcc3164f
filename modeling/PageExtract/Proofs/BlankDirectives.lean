import PageExtract.Proofs.MissingElements

/-!
Directives that say nothing. One that is missing is no directive. One that is blank is read as none,
but it makes its mapping one with directives, which can't stand without an element. So it makes no
difference at an element, nor beside another directive.
-/

set_option autoImplicit false

namespace PageExtract

open Json (Value)

namespace Spec

/-- Where a spec may stand: on its own, as the template of a list, or as a field or the follow of a
mapping. -/
inductive Place where
  | alone
  | template
  | field (left : List (String × Spec)) (name : String) (right : List (String × Spec))
      (names : isDirective name = false)
  | follow (left right : List (String × Spec))

def Place.fill (s : Spec) : Place → Spec
  | .alone => s
  | .template => .list [s]
  | .field left name right _ => .map (left ++ (name, s) :: right)
  | .follow left right => .map (left ++ (followKey, s) :: right)

/-- The scopes in which a blank directive makes no difference to a mapping of other entries. -/
def Place.Indifferent (key : String) (rest : List (String × Spec)) : Place → Scope → Prop
  | .alone, s => s.isSome = true ∨ Plan.hasDirective rest = true
  | .template, _ => True
  | .field left _ right _, s =>
    (s.isSome = true ∨ Plan.hasDirective rest = true) ∨ Plan.hasDirective (left ++ right) = true
  | .follow _ _, _ =>
    key = elemKey ∨ Plan.hasDirective (Plan.withoutElem rest) = true ∨ ¬ Textual elemKey rest

/-- What stands for a directive but says nothing. -/
inductive Idle : Spec → Prop where
  | missing : Idle .missing
  | blank {text : String} (invisible : Text.isAllBlank text = true) : Idle (.selector text)

end Spec

/-- A run that ends as another does, or is refused for the lack of an element. -/
def AlikeOrRefused (r other : Run Value) : Prop :=
  r.result = other.result ∨ r.result = .error (.configuration .missingElement)

namespace AlikeOrRefused

variable {α : Type}

theorem bind (first : Run α) {next other : α → Run Value}
    (rest : ∀ a, AlikeOrRefused (next a) (other a)) :
    AlikeOrRefused (first.bind next) (first.bind other) := by
  simp only [AlikeOrRefused, Run.bind_result]
  cases first.result with
  | error e => exact .inl rfl
  | ok a => exact rest a

theorem gate (filter : Option Filter) (value : Value) {next other : Value → Run Value}
    (rest : ∀ v, AlikeOrRefused (next v) (other v)) :
    AlikeOrRefused (Filter.gate filter value next) (Filter.gate filter value other) := by
  simp only [AlikeOrRefused, Filter.gate_result]
  by_cases admitted : Filter.admits filter value = true
  · simp only [admitted, ↓reduceIte]
    exact rest value
  · simp only [admitted, Bool.false_eq_true, ↓reduceIte, true_or]

end AlikeOrRefused

namespace FieldRun

/-- A field that is refused has its mapping refused, unless an earlier one fails it. -/
theorem collect_refused (policy : Policy) {f g : FieldRun} {e : Failure}
    (refused : f.run.result = .error e) (severe : e.isRecoverable = false)
    (left right : List FieldRun) (object errors : List (String × Value)) :
    collect policy (left ++ f :: right) object errors =
        collect policy (left ++ g :: right) object errors ∨
      collect policy (left ++ f :: right) object errors = .error e := by
  induction left generalizing object errors with
  | nil =>
      exact .inr (collect_cons_of_propagated policy f right object errors e refused
        (isolated_of_fatal policy f e severe))
  | cons first rest ih =>
      simp only [List.cons_append, collect]
      cases first.run.result with
      | ok v => exact ih _ errors
      | error cause =>
          cases isolated : first.isolated policy cause with
          | none => simp only [isolated, true_or]
          | some v => simpa only [isolated] using ih _ _

end FieldRun

namespace Plan

/-- Two plans that come to the same in some scopes, and that leave the same behind where they fail. -/
structure Agree (within : Scope → Prop) (p q : Plan) : Prop where
  fallback : p.fallback = q.fallback
  evaluate : ∀ fetch policy v s, within s →
    p.evaluate fetch policy v s = q.evaluate fetch policy v s

namespace Agree

variable {within : Scope → Prop} {p q : Plan}

theorem of_eq (same : p = q) : Agree within p q := by
  subst same
  exact ⟨rfl, fun _ _ _ _ _ => rfl⟩

theorem mono {inner : Scope → Prop} (agree : Agree within p q) (inside : ∀ s, inner s → within s) :
    Agree inner p q :=
  ⟨agree.fallback, fun fetch policy v s member => agree.evaluate fetch policy v s (inside s member)⟩

theorem fieldRun (agree : Agree within p q) (name : String) (fetch : Fetch) (policy : Policy)
    (v : Visit) {s : Scope} (inside : within s) :
    Plan.fieldRun fetch policy v s (name, p) = Plan.fieldRun fetch policy v s (name, q) := by
  simp only [Plan.fieldRun, agree.fallback, agree.evaluate fetch policy v s inside]

/-- The items of a list are evaluated at elements only. -/
theorem each (agree : Agree (fun s => s.isSome = true) p q) (elem : Option String) :
    Agree within (.each elem p) (.each elem q) where
  fallback := rfl
  evaluate := by
    intro fetch policy v s _
    have same : ∀ n, p.evaluate fetch policy v (itemScope elem s n) =
        q.evaluate fetch policy v (itemScope elem s n) :=
      fun n => agree.evaluate fetch policy v _ rfl
    simp only [evaluate_each, same]

/-- The fields of a mapping with directives are evaluated at elements only. -/
theorem field (agree : Agree within p q) (located : ∀ focus, within (some focus))
    (es : List (String × Spec)) (left right : List (String × Plan)) (name : String)
    (follow : Follow) :
    Agree (fun s => within s ∨ hasDirective es = true)
      (ofMapping es (left ++ (name, p) :: right) follow)
      (ofMapping es (left ++ (name, q) :: right) follow) := by
  have extracted : ∀ (fetch : Fetch) (policy : Policy) (d : Directives) (v : Visit) (focus : Focus),
      d.extract fetch policy (left ++ (name, p) :: right) v focus =
        d.extract fetch policy (left ++ (name, q) :: right) v focus := by
    intro fetch policy d v focus
    simp only [Directives.extract, fieldRuns_eq_map, List.map_append, List.map_cons,
      agree.fieldRun name fetch policy v (located focus)]
  have filled : ∀ r : Plan, (left ++ (name, r) :: right).isEmpty = false := by
    intro r
    cases left <;> rfl
  cases plain : hasDirective es with
  | false =>
      -- only here are the fields evaluated in the scope of the mapping itself
      simp only [ofMapping, plain, Bool.not_false, ↓reduceIte]
      refine ⟨rfl, ?_⟩
      intro fetch policy v s inside
      simp only [evaluate_fields, List.map_append, List.map_cons,
        agree.fieldRun name fetch policy v (inside.resolve_right Bool.false_ne_true)]
  | true =>
      simp only [ofMapping, plain, Bool.not_true, Bool.false_eq_true, ↓reduceIte]
      cases follow with
      | error m => exact of_eq rfl
      | ok follow =>
          cases directives es with
          | error m => exact of_eq rfl
          | ok d =>
              cases follow with
              | none =>
                  refine ⟨rfl, ?_⟩
                  intro fetch policy v s _
                  simp only [evaluate_directed, extracted]
              | some f =>
                  refine ⟨rfl, ?_⟩
                  intro fetch policy v s _
                  simp only [evaluate_following, extracted, Directives.filterBefore, filled]

end Agree

section

variable {fetch : Fetch} {policy : Policy} {p : Plan}

theorem field_refused {v : Visit} {s : Scope}
    (refused : p.evaluate fetch policy v s = .fail (.configuration .missingElement)) (q : Plan)
    (left right : List (String × Plan)) (name : String) :
    AlikeOrRefused ((Plan.fields (left ++ (name, p) :: right)).evaluate fetch policy v s)
      ((Plan.fields (left ++ (name, q) :: right)).evaluate fetch policy v s) := by
  have failed : (fieldRun fetch policy v s (name, p)).run.result =
      .error (.configuration .missingElement) := congrArg Run.result refused
  simp only [AlikeOrRefused, evaluate_fields, List.map_append, List.map_cons,
    FieldRun.assemble_result]
  rcases FieldRun.collect_refused policy (g := fieldRun fetch policy v s (name, q)) failed rfl
    (left.map (fieldRun fetch policy v s)) (right.map (fieldRun fetch policy v s)) [] []
    with same | ended
  · exact .inl (congrArg (Except.map FieldRun.joined) same)
  · exact .inr (congrArg (Except.map FieldRun.joined) ended)

theorem following_refused
    (refused : ∀ page, p.evaluate fetch policy page none = .fail (.configuration .missingElement))
    (q : Plan) (d : Directives) (fs : List (String × Plan)) (link : Option String) (v : Visit)
    (s : Scope) :
    AlikeOrRefused ((Plan.following d fs link p).evaluate fetch policy v s)
      ((Plan.following d fs link q).evaluate fetch policy v s) := by
  rw [evaluate_following, evaluate_following]
  refine .bind _ fun focus => .bind _ fun value => .gate _ value fun before => .bind _ fun page => ?_
  rw [refused]
  exact .inr rfl

end

/-! ## Follows -/

section

variable (es others : List (String × Spec)) (left right : List (String × Spec))

/-- The follow of a mapping is an earlier entry, or it is the target of the entry at hand. -/
theorem followOf_placed : (∃ follow, ∀ s, followOf (left ++ (Spec.followKey, s) :: right) = follow) ∨
    ∀ s, followOf (left ++ (Spec.followKey, s) :: right) = targetOf s := by
  induction left with
  | nil => exact .inr fun _ => rfl
  | cons e rest ih =>
      obtain ⟨k, t⟩ := e
      by_cases same : k = Spec.followKey
      · exact .inl ⟨targetOf t, fun _ => by rw [List.cons_append, followOf, if_pos same]⟩
      · simpa only [List.cons_append, followOf, if_neg same] using ih

/-- Besides its follow, a mapping has nothing of what its follow is. -/
theorem ofSpec_placed : ofSpec (.map (left ++ (Spec.followKey, .map es) :: right)) =
    ofMapping (left ++ (Spec.followKey, .map others) :: right) (fieldsOf left ++ fieldsOf right)
      (followOf (left ++ (Spec.followKey, .map es) :: right)) := by
  have unaffected : ∀ key, Spec.followKey ≠ key →
      Entries.get? key (left ++ (Spec.followKey, .map es) :: right) =
        Entries.get? key (left ++ (Spec.followKey, .map others) :: right) := by
    intro key differs
    rw [Entries.get?_middle_of_ne differs, Entries.get?_middle_of_ne differs]
  have steered : hasDirective (left ++ (Spec.followKey, .map es) :: right) =
      hasDirective (left ++ (Spec.followKey, .map others) :: right) := by
    simp only [hasDirective, List.any_append, List.any_cons]
    rfl
  have directed : directives (left ++ (Spec.followKey, .map es) :: right) =
      directives (left ++ (Spec.followKey, .map others) :: right) :=
    directives_congr (unaffected _ (by decide)) (unaffected _ (by decide))
      (unaffected _ (by decide))
  have fields : fieldsOf (left ++ (Spec.followKey, .map es) :: right) =
      fieldsOf left ++ fieldsOf right := by
    simp only [fieldsOf_append, fieldsOf, show Spec.isDirective Spec.followKey = true from rfl,
      ↓reduceIte]
  simp only [ofSpec, ofMapping, steered, directed, fields]

variable {es others}

/-- Two mappings with the same target may take each other's place as a follow. -/
theorem ofSpec_follow_congr (same : targetOf (.map es) = targetOf (.map others)) :
    ofSpec (.map (left ++ (Spec.followKey, .map es) :: right)) =
      ofSpec (.map (left ++ (Spec.followKey, .map others) :: right)) := by
  rw [ofSpec_placed es others, ofSpec_placed others others]
  rcases followOf_placed left right with ⟨follow, earlier⟩ | here
  · rw [earlier, earlier]
  · rw [here, here, same]

theorem follow_refused {fetch : Fetch} {policy : Policy}
    (sameLink : stringDirective Spec.elemKey es = stringDirective Spec.elemKey others)
    (refused : ∀ page, (itemOf (.map es)).evaluate fetch policy page none =
      .fail (.configuration .missingElement)) (v : Visit) (s : Scope) :
    AlikeOrRefused
      ((ofSpec (.map (left ++ (Spec.followKey, .map es) :: right))).evaluate fetch policy v s)
      ((ofSpec (.map (left ++ (Spec.followKey, .map others) :: right))).evaluate fetch policy v s)
    := by
  rw [ofSpec_placed es others, ofSpec_placed others others]
  rcases followOf_placed left right with ⟨follow, earlier⟩ | here
  · rw [earlier, earlier]
    exact .inl rfl
  · rw [here, here, targetOf_eq_ofFollow, targetOf_eq_ofFollow, ofFollow, ofFollow, sameLink]
    cases stringDirective Spec.elemKey others with
    | error m => exact .inl rfl
    | ok link =>
        simp only [ofMapping]
        split
        · exact .inl rfl
        · cases directives (left ++ (Spec.followKey, .map others) :: right) with
          | error m => exact .inl rfl
          | ok d => exact following_refused refused _ d _ link v s

end

/-! ## Idle directives -/

section

variable {key : String} (which : key = Spec.elemKey ∨ key = Spec.valueKey)
  {before after : List (String × Spec)} (absent : key ∉ Entries.keys (before ++ after))
  {s : Spec} (idle : s.Idle)

include absent idle in
theorem stringDirective_idle (other : String) :
    stringDirective other (before ++ (key, s) :: after) =
      stringDirective other (before ++ after) := by
  by_cases same : key = other
  · subst same
    have none : Entries.get? key (before ++ after) = none := Entries.get?_eq_none_iff.mpr absent
    have first : key ∉ Entries.keys before := by
      intro member
      exact absent (Entries.keys_append before after ▸ List.mem_append_left _ member)
    simp only [stringDirective, none, Entries.get?_middle_self first]
    cases idle with
    | missing => rfl
    | blank invisible => simp only [nonBlank?, invisible, ↓reduceIte]
  · exact stringDirective_congr (Entries.get?_middle_of_ne same before s after)

include which absent idle in
theorem directives_idle : directives (before ++ (key, s) :: after) = directives (before ++ after) := by
  have differs : key ≠ Spec.filterKey := by
    rcases which with rfl | rfl <;> decide
  simp only [directives, stringDirective_idle absent idle,
    filterOf_congr (Entries.get?_middle_of_ne differs before s after)]

include which in
theorem fieldsOf_idle : fieldsOf (before ++ (key, s) :: after) = fieldsOf (before ++ after) := by
  have steers : Spec.isDirective key = true := by
    rcases which with rfl | rfl <;> rfl
  simp only [fieldsOf_append, fieldsOf, steers, ↓reduceIte]

include which in
theorem followOf_idle : followOf (before ++ (key, s) :: after) = followOf (before ++ after) := by
  have differs : key ≠ Spec.followKey := by
    rcases which with rfl | rfl <;> decide
  exact followOf_congr (Entries.get?_middle_of_ne differs before s after)

include which in
theorem hasDirective_idle : hasDirective (before ++ (key, s) :: after) =
    (!s.isMissing || hasDirective (before ++ after)) := by
  have steers : Spec.isDirective key = true := by
    rcases which with rfl | rfl <;> rfl
  simp only [hasDirective, List.any_append, List.any_cons, steers, Bool.true_and,
    Bool.or_left_comm]

include which absent idle in
/-- An idle directive makes no difference where there is another one, or if it is missing. -/
theorem ofSpec_idle (steered : s = .missing ∨ hasDirective (before ++ after) = true) :
    ofSpec (.map (before ++ (key, s) :: after)) = ofSpec (.map (before ++ after)) := by
  have marked : hasDirective (before ++ (key, s) :: after) = hasDirective (before ++ after) := by
    rw [hasDirective_idle which]
    rcases steered with rfl | other
    · rfl
    · simp only [other, Bool.or_true]
  simp only [ofSpec, ofMapping, marked, directives_idle which absent idle, fieldsOf_idle which,
    followOf_idle which]

include which absent idle in
/-- At an element, a mapping with an idle directive is one without it. -/
theorem agree_idle : Agree
    (fun scope => scope.isSome = true ∨ hasDirective (before ++ after) = true)
    (ofSpec (.map (before ++ (key, s) :: after))) (ofSpec (.map (before ++ after))) := by
  cases plain : hasDirective (before ++ after) with
  | true => exact .of_eq (ofSpec_idle which absent idle (.inr plain))
  | false =>
      -- the plans are of different kinds, but at an element both come to the fields
      have unfollowed : followOf (before ++ after) = .ok none := followOf_of_no_directive plain
      have undirected : directives (before ++ after) = .ok ⟨none, none, none⟩ :=
        directives_of_no_directive plain
      simp only [ofSpec, fieldsOf_idle which, followOf_idle which, unfollowed]
      constructor
      · simp only [ofMapping, plain, directives_idle which absent idle, undirected]
        cases hasDirective (before ++ (key, s) :: after) <;> rfl
      · intro fetch policy v scope inside
        obtain ⟨focus, rfl⟩ := Option.isSome_iff_exists.mp (inside.resolve_right Bool.false_ne_true)
        simp only [evaluate_ofMapping, directives_idle which absent idle]

include which absent in
/-- Taking `_elem` away takes an idle one away, and leaves an idle `_value` in its place. -/
theorem withoutElem_idle (s : Spec) :
    key = Spec.elemKey ∧
      withoutElem (before ++ (key, s) :: after) = withoutElem (before ++ after) ∨
    key = Spec.valueKey ∧ ∃ left right, key ∉ Entries.keys (left ++ right) ∧
      withoutElem (before ++ (key, s) :: after) = left ++ (key, s) :: right ∧
      withoutElem (before ++ after) = left ++ right := by
  rcases which with rfl | rfl
  · refine .inl ⟨rfl, ?_⟩
    simp only [withoutElem, Entries.erase_append, Entries.erase_cons_self]
  · have split : withoutElem (before ++ after) = withoutElem before ++ withoutElem after :=
      Entries.erase_append _ before after
    refine .inr ⟨rfl, withoutElem before, withoutElem after, ?_, ?_, split⟩
    · rw [← split, ← Entries.get?_eq_none_iff, withoutElem,
        Entries.get?_erase_of_ne (by decide), Entries.get?_eq_none_iff]
      exact absent
    · rw [withoutElem, Entries.erase_append, Entries.erase_cons_of_ne (by decide)]
      rfl

include which absent idle in
theorem itemOf_idle (steered : s = .missing ∨ key = Spec.elemKey ∨
      hasDirective (withoutElem (before ++ after)) = true) :
    itemOf (.map (before ++ (key, s) :: after)) = itemOf (.map (before ++ after)) := by
  rw [itemOf_map, itemOf_map]
  rcases withoutElem_idle which absent s with ⟨-, same⟩ | ⟨value, left, right, fresh, given, rest⟩
  · rw [same]
  · have other : key ≠ Spec.elemKey := by
      rw [value]
      decide
    rw [rest] at steered
    rw [given, rest]
    exact ofSpec_idle which fresh idle (steered.imp_right fun found => found.resolve_left other)

include which absent idle in
theorem agree_item : Agree (fun scope => scope.isSome = true)
    (itemOf (.map (before ++ (key, s) :: after))) (itemOf (.map (before ++ after))) := by
  rw [itemOf_map, itemOf_map]
  rcases withoutElem_idle which absent s with ⟨-, same⟩ | ⟨-, left, right, fresh, given, rest⟩
  · exact .of_eq (congrArg (fun es => ofSpec (.map es)) same)
  · rw [given, rest]
    exact (agree_idle which fresh idle).mono fun _ located => .inl located

include which absent idle in
theorem targetOf_idle (steered : s = .missing ∨ key = Spec.elemKey ∨
      hasDirective (withoutElem (before ++ after)) = true ∨
      ¬ Spec.Textual Spec.elemKey (before ++ after)) :
    targetOf (.map (before ++ (key, s) :: after)) = targetOf (.map (before ++ after)) := by
  simp only [targetOf_eq_ofFollow, ofFollow, stringDirective_idle absent idle]
  cases read : stringDirective Spec.elemKey (before ++ after) with
  | error m => rfl
  | ok link =>
      have textual : Spec.Textual Spec.elemKey (before ++ after) :=
        stringDirective_isOk_iff.mp ⟨link, read⟩
      have item := itemOf_idle which absent idle (steered.imp_right fun others =>
        others.imp_right fun found => found.resolve_right (not_not_intro textual))
      simp only [item]

include which absent idle in
/-- An idle directive of a template makes no difference to its list. -/
theorem agree_list {within : Scope → Prop} : Agree within
    (ofSpec (.list [.map (before ++ (key, s) :: after)]))
    (ofSpec (.list [.map (before ++ after)])) := by
  simp only [ofSpec, ofTemplate, stringDirective_idle absent idle]
  cases stringDirective Spec.elemKey (before ++ after) with
  | error m => exact .of_eq rfl
  | ok elem => exact (agree_item which absent idle).each elem

include which absent in
/-- A blank directive that is the only one makes its mapping one that needs an element. -/
theorem evaluate_blank_alone (given : s.isMissing = false) (idle : s.Idle)
    (alone : hasDirective (before ++ after) = false) (fetch : Fetch) (policy : Policy) (v : Visit) :
    (ofSpec (.map (before ++ (key, s) :: after))).evaluate fetch policy v none =
      .fail (.configuration .missingElement) := by
  have undirected : directives (before ++ after) = .ok ⟨none, none, none⟩ :=
    directives_of_no_directive alone
  have steered : hasDirective (before ++ (key, s) :: after) = true := by
    simp only [hasDirective_idle which, given, Bool.not_false, Bool.true_or]
  have unplaced : stringDirective Spec.elemKey (before ++ (key, s) :: after) = .ok none := by
    rw [stringDirective_idle absent idle]
    exact (directives_ok_iff.mp undirected).1
  have mistake : refusal (before ++ (key, s) :: after) = .missingElement := by
    simp only [refusal, followOf_idle which, followOf_of_no_directive alone,
      directives_idle which absent idle, undirected]
  rw [evaluate_refused steered unplaced, mistake]

include which absent in
/-- A blank directive that is the only one of a target is refused on every page. -/
theorem evaluate_itemOf_blank (given : s.isMissing = false) (idle : s.Idle)
    (value : key = Spec.valueKey) (alone : hasDirective (withoutElem (before ++ after)) = false)
    (fetch : Fetch) (policy : Policy) (v : Visit) :
    (itemOf (.map (before ++ (key, s) :: after))).evaluate fetch policy v none =
      .fail (.configuration .missingElement) := by
  rcases withoutElem_idle which absent s with ⟨elem, -⟩ | ⟨-, left, right, fresh, marked, rest⟩
  · rw [value] at elem
    exact absurd elem (by decide)
  · rw [rest] at alone
    rw [itemOf_map, marked]
    exact evaluate_blank_alone which fresh given idle alone fetch policy v

/-! ## Places -/

include which absent in
/-- A missing directive is as one that is left out. -/
theorem ofSpec_fill_missing (place : Spec.Place) :
    ofSpec (place.fill (.map (before ++ (key, .missing) :: after))) =
      ofSpec (place.fill (.map (before ++ after))) := by
  have idle : Spec.missing.Idle := .missing
  cases place with
  | alone => exact ofSpec_idle which absent idle (.inl rfl)
  | template =>
      simp only [Spec.Place.fill, ofSpec, ofTemplate, stringDirective_idle absent idle,
        itemOf_idle which absent idle (.inl rfl)]
  | field left name right names =>
      simp only [Spec.Place.fill, ofSpec_named names]
      rw [ofSpec_idle which absent idle (.inl rfl)]
  | follow left right =>
      exact ofSpec_follow_congr left right (targetOf_idle which absent idle (.inl rfl))

include which absent idle in
theorem evaluate_fill_idle (place : Spec.Place) (fetch : Fetch) (policy : Policy) (v : Visit)
    {scope : Scope} (indifferent : place.Indifferent key (before ++ after) scope) :
    (ofSpec (place.fill (.map (before ++ (key, s) :: after)))).evaluate fetch policy v scope =
      (ofSpec (place.fill (.map (before ++ after)))).evaluate fetch policy v scope := by
  cases place with
  | alone => exact (agree_idle which absent idle).evaluate fetch policy v scope indifferent
  | template => exact (agree_list which absent idle).evaluate fetch policy v scope indifferent
  | field left name right names =>
      have agree := (agree_idle which absent idle).field (fun _ => .inl rfl) (left ++ right)
        (fieldsOf left) (fieldsOf right) name (followOf (left ++ right))
      simp only [Spec.Place.fill, ofSpec_named names]
      exact agree.evaluate fetch policy v scope indifferent
  | follow left right =>
      have target := targetOf_idle which absent idle (.inr indifferent)
      exact congrArg (fun plan : Plan => plan.evaluate fetch policy v scope)
        (ofSpec_follow_congr left right target)

include which absent in
/-- Where a blank directive makes a difference, it has its mapping refused. -/
theorem fill_alikeOrRefused (given : s.isMissing = false) (idle : s.Idle) (place : Spec.Place)
    (fetch : Fetch) (policy : Policy) (v : Visit) (scope : Scope) : AlikeOrRefused
      ((ofSpec (place.fill (.map (before ++ (key, s) :: after)))).evaluate fetch policy v scope)
      ((ofSpec (place.fill (.map (before ++ after)))).evaluate fetch policy v scope) := by
  by_cases indifferent : place.Indifferent key (before ++ after) scope
  · exact .inl (congrArg Run.result (evaluate_fill_idle which absent idle place fetch policy v
      indifferent))
  · -- the rest is without any other directive, and evaluated with nothing in scope
    cases place with
    | alone =>
        simp only [Spec.Place.Indifferent, not_or, Bool.not_eq_true, Option.isSome_eq_false_iff,
          Option.isNone_iff_eq_none] at indifferent
        obtain ⟨rfl, alone⟩ := indifferent
        exact .inr (congrArg Run.result
          (evaluate_blank_alone which absent given idle alone fetch policy v))
    | template => exact absurd trivial indifferent
    | field left name right names =>
        simp only [Spec.Place.Indifferent, not_or, Bool.not_eq_true, Option.isSome_eq_false_iff,
          Option.isNone_iff_eq_none] at indifferent
        obtain ⟨⟨rfl, alone⟩, plain⟩ := indifferent
        simp only [Spec.Place.fill, ofSpec_named names, ofMapping, plain, Bool.not_false, ↓reduceIte]
        exact field_refused (evaluate_blank_alone which absent given idle alone fetch policy v) _ _ _
          name
    | follow left right =>
        simp only [Spec.Place.Indifferent, not_or, Bool.not_eq_true] at indifferent
        obtain ⟨other, alone, -⟩ := indifferent
        exact follow_refused left right (stringDirective_idle absent idle _)
          (evaluate_itemOf_blank which absent given idle (which.resolve_left other) alone fetch policy)
          v scope

end

end Plan

/-- A directive that is missing is one that is left out, in every place of its mapping. A blank
`_elem` or `_value` comes to the same, except where it is the only directive of a mapping that is
evaluated with nothing in scope: there it is refused for the lack of an element. -/
theorem blank_directive_agrees {key : String} (which : key = Spec.elemKey ∨ key = Spec.valueKey)
    (before after : List (String × Spec)) (absent : key ∉ Entries.keys (before ++ after))
    {blank : String} (invisible : Text.isAllBlank blank = true) :
    let rest := before ++ after
    let given (s : Spec) : Spec := .map (before ++ (key, s) :: after)
    (∀ place : Spec.Place,
      Plan.ofSpec (place.fill (given .missing)) = Plan.ofSpec (place.fill (.map rest)) ∧
      ∀ fetch policy v s, place.Indifferent key rest s →
        (Plan.ofSpec (place.fill (given (.selector blank)))).evaluate fetch policy v s =
          (Plan.ofSpec (place.fill (.map rest))).evaluate fetch policy v s) ∧
    (Plan.hasDirective rest = false → ∀ fetch policy v,
      (Plan.ofSpec (given (.selector blank))).evaluate fetch policy v none =
        .fail (.configuration .missingElement)) ∧
    ∀ (place : Spec.Place) (fetch : Fetch) (policy : Policy) (v : Visit) (s : Scope),
      let result (mapping : Spec) :=
        ((Plan.ofSpec (place.fill mapping)).evaluate fetch policy v s).result
      result (given (.selector blank)) = result (.map rest) ∨
        result (given (.selector blank)) = .error (.configuration .missingElement) := by
  intro rest given
  have idle : (Spec.selector blank).Idle := .blank invisible
  refine ⟨?_, Plan.evaluate_blank_alone which absent rfl idle,
    Plan.fill_alikeOrRefused which absent rfl idle⟩
  intro place
  refine ⟨Plan.ofSpec_fill_missing which absent place, ?_⟩
  intro fetch policy v s indifferent
  exact Plan.evaluate_fill_idle which absent idle place fetch policy v indifferent

/-- At the body of the page a blank `_elem` makes no difference to a field. -/
theorem blank_directive_agrees_linkPage :
    let rest : List (String × Spec) := [("t", .selector "p")]
    let blank : Spec := .map [("_elem", .selector " "), ("t", .selector "p")]
    let fetch := (Fetcher.ofPages [("a:", linkPage)]).load
    let body : Focus := ⟨3, some "body"⟩
    Spec.elemKey ∉ Entries.keys rest ∧ Text.isAllBlank " " = true ∧
    ((Plan.ofSpec blank).evaluate fetch .standard (linkVisit 0) (some body)).result =
      .ok (.object [("t", .string "")]) ∧
    ((Plan.ofSpec blank).evaluate fetch .standard (linkVisit 0) none).result =
      .error (.configuration .missingElement) := by
  intro rest blank fetch body
  have absent : Spec.elemKey ∉ Entries.keys rest := by decide
  have invisible : Text.isAllBlank " " = true := by decide
  obtain ⟨agrees, refused, -⟩ := blank_directive_agrees (.inl rfl) [] rest absent invisible
  have same := (agrees .alone).2 fetch .standard (linkVisit 0) (some body) (.inl rfl)
  have alone := refused rfl fetch .standard (linkVisit 0)
  refine ⟨absent, invisible, ?_, ?_⟩
  · exact (congrArg Run.result same).trans rfl
  · exact congrArg Run.result alone

/-- A blank `_elem` on its own is refused for a page as a whole, which has the field without it. -/
theorem blank_elem_alone_differs :
    let fetch := (Fetcher.ofPages []).load
    let run (s : Spec) := ((Plan.ofSpec s).evaluate fetch .standard (linkVisit 0) none).result
    let blank : Spec := .map [("_elem", .selector ""), ("t", .selector "p")]
    let undefined : Spec := .map [("_elem", .missing), ("t", .selector "p")]
    let leftOut : Spec := .map [("t", .selector "p")]
    Text.isAllBlank "" = true ∧ run blank = .error (.configuration .missingElement) ∧
    run undefined = .ok (.object [("t", .string "")]) ∧
    run leftOut = .ok (.object [("t", .string "")]) ∧ run blank ≠ run leftOut := by
  intro fetch run blank undefined leftOut
  have refused : run blank = .error (.configuration .missingElement) := rfl
  have kept : run leftOut = .ok (.object [("t", .string "")]) := rfl
  refine ⟨rfl, refused, rfl, kept, ?_⟩
  rw [refused, kept]
  nofun

end PageExtract
