import Mathlib.Logic.Basic
import PageExtract.Proofs.Mappings

/-!
The grammar of specs. A spec that lies in it has a plan without malformed parts, and any other has
one. What is wrong with a field stays in that field: its neighbours, and the directives beside it,
have the plans that they have without it.
-/

set_option autoImplicit false

namespace PageExtract

open Json (Value)

namespace Spec

/-- What may be the template of a list. -/
def isTemplate : Spec → Bool
  | .missing => true
  | .selector _ => true
  | .map _ => true
  | _ => false

/-- The directive is left out, missing or a string. -/
def Textual (key : String) (entries : List (String × Spec)) : Prop :=
  ∀ s, Entries.get? key entries = some s → s = .missing ∨ ∃ text, s = .selector text

/-- Specs that can be evaluated. A filter may be anything; of several entries with the key of a
directive the first counts. -/
inductive Formed : Spec → Prop where
  | missing : Formed .missing
  | selector (s : String) : Formed (.selector s)
  | list {template : Spec} (kind : template.isTemplate = true) (formed : Formed template) :
      Formed (.list [template])
  | map {entries : List (String × Spec)} (elem : Textual elemKey entries)
      (value : Textual valueKey entries)
      (follow : ∀ s, Entries.get? followKey entries = some s → Formed s)
      (named : ∀ e ∈ entries, isDirective e.1 = false → Formed e.2) : Formed (.map entries)

theorem formed_list_iff {template : Spec} :
    Formed (.list [template]) ↔ template.isTemplate = true ∧ Formed template := by
  constructor
  · intro formed
    cases formed with
    | list kind formed => exact ⟨kind, formed⟩
  · rintro ⟨kind, formed⟩
    exact .list kind formed

theorem formed_map_iff {entries : List (String × Spec)} :
    Formed (.map entries) ↔ Textual elemKey entries ∧ Textual valueKey entries ∧
      (∀ s, Entries.get? followKey entries = some s → Formed s) ∧
      ∀ e ∈ entries, isDirective e.1 = false → Formed e.2 := by
  constructor
  · intro formed
    cases formed with
    | map elem value follow named => exact ⟨elem, value, follow, named⟩
  · rintro ⟨elem, value, follow, named⟩
    exact .map elem value follow named

end Spec

namespace Plan

/-- The plans within a plan, itself among them. -/
inductive Part (part : Plan) : Plan → Prop where
  | here : Part part part
  | item {elem : Option String} {item : Plan} (inside : Part part item) : Part part (.each elem item)
  | field {fs : List (String × Plan)} {f : String × Plan} (member : f ∈ fs)
      (inside : Part part f.2) : Part part (.fields fs)
  | directedField {d : Directives} {fs : List (String × Plan)} {f : String × Plan} (member : f ∈ fs)
      (inside : Part part f.2) : Part part (.directed d fs)
  | followingField {d : Directives} {fs : List (String × Plan)} {link : Option String}
      {target : Plan} {f : String × Plan} (member : f ∈ fs) (inside : Part part f.2) :
      Part part (.following d fs link target)
  | target {d : Directives} {fs : List (String × Plan)} {link : Option String} {target : Plan}
      (inside : Part part target) : Part part (.following d fs link target)

/-- There is a malformed part in the plan. -/
def HasMalformed (plan : Plan) : Prop :=
  ∃ reason, Part (.malformed reason) plan

/-- There is a malformed part in the follow, or it makes its whole mapping malformed. -/
def FollowMalformed : Follow → Prop
  | .error _ => True
  | .ok none => False
  | .ok (some (_, target)) => target.HasMalformed

theorem not_hasMalformed_select (selector : Option String) : ¬ HasMalformed (.select selector) := by
  rintro ⟨reason, part⟩
  cases part

theorem hasMalformed_malformed (reason : Malformation) : HasMalformed (.malformed reason) :=
  ⟨reason, .here⟩

theorem hasMalformed_each {elem : Option String} {item : Plan} :
    HasMalformed (.each elem item) ↔ item.HasMalformed := by
  constructor
  · rintro ⟨reason, part⟩
    cases part with
    | item inside => exact ⟨reason, inside⟩
  · rintro ⟨reason, inside⟩
    exact ⟨reason, .item inside⟩

theorem hasMalformed_fields {fs : List (String × Plan)} :
    HasMalformed (.fields fs) ↔ ∃ f ∈ fs, f.2.HasMalformed := by
  constructor
  · rintro ⟨reason, part⟩
    cases part with
    | field member inside => exact ⟨_, member, reason, inside⟩
  · rintro ⟨f, member, reason, inside⟩
    exact ⟨reason, .field member inside⟩

theorem hasMalformed_directed {d : Directives} {fs : List (String × Plan)} :
    HasMalformed (.directed d fs) ↔ ∃ f ∈ fs, f.2.HasMalformed := by
  constructor
  · rintro ⟨reason, part⟩
    cases part with
    | directedField member inside => exact ⟨_, member, reason, inside⟩
  · rintro ⟨f, member, reason, inside⟩
    exact ⟨reason, .directedField member inside⟩

theorem hasMalformed_following {d : Directives} {fs : List (String × Plan)} {link : Option String}
    {target : Plan} : HasMalformed (.following d fs link target) ↔
      target.HasMalformed ∨ ∃ f ∈ fs, f.2.HasMalformed := by
  constructor
  · rintro ⟨reason, part⟩
    cases part with
    | followingField member inside => exact .inr ⟨_, member, reason, inside⟩
    | target inside => exact .inl ⟨reason, inside⟩
  · rintro (⟨reason, inside⟩ | ⟨f, member, reason, inside⟩)
    · exact ⟨reason, .target inside⟩
    · exact ⟨reason, .followingField member inside⟩

/-! ## Malformed mappings -/

variable {es : List (String × Spec)}

theorem stringDirective_isOk_iff {key : String} :
    (∃ text, stringDirective key es = .ok text) ↔ Spec.Textual key es := by
  simp only [stringDirective, Spec.Textual]
  cases Entries.get? key es with
  | none => simp
  | some s => cases s <;> simp

theorem directives_isOk_iff : (∃ d, directives es = .ok d) ↔
    Spec.Textual Spec.elemKey es ∧ Spec.Textual Spec.valueKey es := by
  rw [← stringDirective_isOk_iff, ← stringDirective_isOk_iff]
  constructor
  · rintro ⟨d, formed⟩
    obtain ⟨elem, value, _⟩ := directives_ok_iff.mp formed
    exact ⟨⟨_, elem⟩, ⟨_, value⟩⟩
  · rintro ⟨⟨elem, readElem⟩, ⟨value, readValue⟩⟩
    exact ⟨⟨elem, value, filterOf es⟩, directives_ok_iff.mpr ⟨readElem, readValue, rfl⟩⟩

/-- A mapping is malformed as a whole because of its directives, or somewhere within its follow or
its fields. -/
theorem hasMalformed_map : (ofSpec (.map es)).HasMalformed ↔
    ¬ (Spec.Textual Spec.elemKey es ∧ Spec.Textual Spec.valueKey es) ∨
      FollowMalformed (followOf es) ∨ ∃ f ∈ fieldsOf es, f.2.HasMalformed := by
  rw [ofSpec, ← directives_isOk_iff]
  simp only [ofMapping]
  cases plain : hasDirective es with
  | false =>
      -- directives that are all missing are read without a mistake
      simp [hasMalformed_fields, directives_of_no_directive plain, followOf_of_no_directive plain,
        FollowMalformed]
  | true =>
      cases followOf es with
      | error m => simp [hasMalformed_malformed, FollowMalformed]
      | ok follow =>
          cases directives es with
          | error m => simp [hasMalformed_malformed]
          | ok d =>
              cases follow with
              | none => simp [hasMalformed_directed, FollowMalformed]
              | some f => simp [hasMalformed_following, FollowMalformed]

/-- The `_elem` of a template or of a follow is read apart from the rest of the mapping. -/
theorem hasMalformed_withoutElem : (ofSpec (.map es)).HasMalformed ↔
    ¬ Spec.Textual Spec.elemKey es ∨ (ofSpec (.map (withoutElem es))).HasMalformed := by
  have noElem : Spec.Textual Spec.elemKey (withoutElem es) := by
    intro s found
    rw [withoutElem, Entries.get?_erase_self] at found
    cases found
  have sameValue : Spec.Textual Spec.valueKey (withoutElem es) ↔ Spec.Textual Spec.valueKey es := by
    rw [Spec.Textual, withoutElem, Entries.get?_erase_of_ne (by decide), Spec.Textual]
  rw [hasMalformed_map, hasMalformed_map, fieldsOf_withoutElem, followOf_withoutElem, sameValue]
  simp only [noElem, true_and, not_and_or, or_assoc]

theorem hasMalformed_listOfMap :
    (ofSpec (.list [.map es])).HasMalformed ↔ (ofSpec (.map es)).HasMalformed := by
  rw [hasMalformed_withoutElem, ← stringDirective_isOk_iff, ofSpec, ofTemplate, itemOf_map]
  cases stringDirective Spec.elemKey es with
  | error m => simp [hasMalformed_malformed]
  | ok elem => simp [hasMalformed_each]

/-- A target is malformed exactly if it is so on its own. -/
theorem followMalformed_targetOf (s : Spec) :
    FollowMalformed (targetOf s) ↔ (ofSpec s).HasMalformed := by
  cases s with
  | missing => exact iff_of_false not_false (not_hasMalformed_select none)
  | list items => rcases items with _ | ⟨template, _ | ⟨_, _⟩⟩ <;> exact Iff.rfl
  | map entries =>
      rw [hasMalformed_withoutElem, ← stringDirective_isOk_iff]
      cases read : stringDirective Spec.elemKey entries with
      | error m => simp [targetOf, ofFollow, read, FollowMalformed]
      | ok link => simp [targetOf_map read, FollowMalformed]
  | _ => exact Iff.rfl

theorem mem_fieldsOf {f : String × Plan} :
    f ∈ fieldsOf es ↔ ∃ e ∈ es, Spec.isDirective e.1 = false ∧ (e.1, ofSpec e.2) = f := by
  simp [fieldsOf_eq, and_assoc]

/-- The plan of a spec has a malformed part exactly if the spec lies outside of the grammar. -/
theorem hasMalformed_iff (s : Spec) : (ofSpec s).HasMalformed ↔ ¬ s.Formed := by
  induction s with
  | missing => exact iff_of_false (not_hasMalformed_select none) (not_not_intro .missing)
  | selector s => exact iff_of_false (not_hasMalformed_select _) (not_not_intro (.selector s))
  | literal v => exact iff_of_true (hasMalformed_malformed _) nofun
  | pattern p => exact iff_of_true (hasMalformed_malformed _) nofun
  | predicate test => exact iff_of_true (hasMalformed_malformed _) nofun
  | list items ih =>
      rcases items with _ | ⟨template, _ | ⟨_, _⟩⟩
      · exact iff_of_true (hasMalformed_malformed _) nofun
      · rw [Spec.formed_list_iff]
        cases template with
        | missing =>
            refine iff_of_false ?_ (not_not_intro ⟨rfl, .missing⟩)
            exact fun bad => not_hasMalformed_select none (hasMalformed_each.mp bad)
        | selector s =>
            refine iff_of_false ?_ (not_not_intro ⟨rfl, .selector s⟩)
            exact fun bad => not_hasMalformed_select none (hasMalformed_each.mp bad)
        | map es =>
            rw [hasMalformed_listOfMap, ih (.map es) List.mem_cons_self]
            simp [Spec.isTemplate]
        | _ => exact iff_of_true (hasMalformed_malformed _) fun formed => nomatch formed.1
      · exact iff_of_true (hasMalformed_malformed _) nofun
  | map es ih =>
      have follow : FollowMalformed (followOf es) ↔
          ¬ ∀ s, Entries.get? Spec.followKey es = some s → s.Formed := by
        rw [followOf_eq]
        cases found : Entries.get? Spec.followKey es with
        | none => simp [FollowMalformed]
        | some s => simp [followMalformed_targetOf, ih _ (Entries.mem_of_get? found)]
      have named : (∃ f ∈ fieldsOf es, f.2.HasMalformed) ↔
          ¬ ∀ e ∈ es, Spec.isDirective e.1 = false → e.2.Formed := by
        simp only [not_forall, exists_prop]
        constructor
        · rintro ⟨f, member, bad⟩
          obtain ⟨e, declared, names, rfl⟩ := mem_fieldsOf.mp member
          exact ⟨e, declared, names, (ih e declared).mp bad⟩
        · rintro ⟨e, declared, names, unformed⟩
          exact ⟨_, mem_fieldsOf.mpr ⟨e, declared, names, rfl⟩, (ih e declared).mpr unformed⟩
      rw [hasMalformed_map, Spec.formed_map_iff, follow, named]
      simp only [not_and_or, or_assoc]

/-! ## Fields and their neighbours -/

/-- The plan with other fields in its mapping, which may be the template of a list. -/
def withFields (fs : List (String × Plan)) : Plan → Plan
  | .fields _ => .fields fs
  | .directed d _ => .directed d fs
  | .following d _ link target => .following d fs link target
  | .each elem item => .each elem (withFields fs item)
  | plan => plan

theorem withFields_ofMapping (es : List (String × Spec)) (fs others : List (String × Plan))
    (follow : Follow) : (ofMapping es fs follow).withFields others = ofMapping es others follow := by
  simp only [ofMapping]
  split
  · rfl
  · cases follow with
    | error m => rfl
    | ok follow =>
        cases directives es with
        | error m => rfl
        | ok d => cases follow <;> rfl

section

variable {name : String} (names : Spec.isDirective name = false)
  (before after : List (String × Spec)) (s : Spec)

include names

theorem hasDirective_named :
    hasDirective (before ++ (name, s) :: after) = hasDirective (before ++ after) := by
  simp [hasDirective, names]

theorem get?_named {key : String} (steers : Spec.isDirective key = true) :
    Entries.get? key (before ++ (name, s) :: after) = Entries.get? key (before ++ after) := by
  have differs : name ≠ key := by
    rintro rfl
    rw [names] at steers
    cases steers
  exact Entries.get?_middle_of_ne differs before s after

theorem directives_named :
    directives (before ++ (name, s) :: after) = directives (before ++ after) :=
  directives_congr (get?_named names before after s rfl) (get?_named names before after s rfl)
    (get?_named names before after s rfl)

theorem followOf_named :
    followOf (before ++ (name, s) :: after) = followOf (before ++ after) :=
  followOf_congr (get?_named names before after s rfl)

theorem fieldsOf_named : fieldsOf (before ++ (name, s) :: after) =
    fieldsOf before ++ (name, ofSpec s) :: fieldsOf after := by
  rw [fieldsOf_append, fieldsOf, if_neg (ne_true_of_eq_false names)]

theorem withoutElem_named : withoutElem (before ++ (name, s) :: after) =
    withoutElem before ++ (name, s) :: withoutElem after := by
  have differs : name ≠ Spec.elemKey := by
    rintro rfl
    cases names
  rw [withoutElem, Entries.erase_append, Entries.erase_cons_of_ne differs]
  rfl

/-- A field has no part in how its mapping is put together. -/
theorem ofMapping_named (fs : List (String × Plan)) (follow : Follow) :
    ofMapping (before ++ (name, s) :: after) fs follow = ofMapping (before ++ after) fs follow := by
  simp only [ofMapping, hasDirective_named names, directives_named names]

theorem ofSpec_named : ofSpec (.map (before ++ (name, s) :: after)) =
    ofMapping (before ++ after) (fieldsOf before ++ (name, ofSpec s) :: fieldsOf after)
      (followOf (before ++ after)) := by
  rw [ofSpec, ofMapping_named names, fieldsOf_named names, followOf_named names]

theorem itemOf_named : itemOf (.map (before ++ (name, s) :: after)) =
    (itemOf (.map (before ++ after))).withFields
      (fieldsOf before ++ (name, ofSpec s) :: fieldsOf after) := by
  rw [itemOf, itemOf, withFields_ofMapping, withoutElem_named names, ofMapping_named names,
    fieldsOf_named names, followOf_named names]
  congr 1
  exact (Entries.erase_append _ _ _).symm

end

end Plan

/-- A spec lies outside of the grammar exactly if its plan has a malformed part: an item, a field, or
something in a follow. An entry that names a field adds the plan of its own spec to the fields of the
mapping, in its place, and changes nothing else, be the mapping on its own, the template of a list,
or the target of a follow. -/
theorem malformed_iff_not_formed :
    (∀ s : Spec, (∃ reason, Plan.Part (.malformed reason) (Plan.ofSpec s)) ↔ ¬ s.Formed) ∧
    ∀ (before after : List (String × Spec)) (name : String) (s : Spec),
      Spec.isDirective name = false →
      let siblings := before ++ after
      let entries := before ++ (name, s) :: after
      let fields := Plan.fieldsOf before ++ (name, Plan.ofSpec s) :: Plan.fieldsOf after
      Plan.fieldsOf siblings = Plan.fieldsOf before ++ Plan.fieldsOf after ∧
      Plan.ofSpec (.map entries) = (Plan.ofSpec (.map siblings)).withFields fields ∧
      Plan.ofSpec (.list [.map entries]) = (Plan.ofSpec (.list [.map siblings])).withFields fields ∧
      Plan.targetOf (.map entries) = (Plan.targetOf (.map siblings)).map (Option.map fun follow =>
        (follow.1, follow.2.withFields fields)) := by
  refine ⟨Plan.hasMalformed_iff, ?_⟩
  intro before after name s names siblings entries fields
  have sameElem : Plan.stringDirective Spec.elemKey entries =
      Plan.stringDirective Spec.elemKey siblings :=
    Plan.stringDirective_congr (Plan.get?_named names before after s rfl)
  have item : Plan.itemOf (.map entries) = (Plan.itemOf (.map siblings)).withFields fields :=
    Plan.itemOf_named names before after s
  refine ⟨Plan.fieldsOf_append before after, ?_, ?_, ?_⟩
  · rw [Plan.ofSpec_named names, Plan.ofSpec, Plan.withFields_ofMapping]
  · rw [Plan.ofSpec, Plan.ofSpec, Plan.ofTemplate, Plan.ofTemplate, sameElem, item]
    cases Plan.stringDirective Spec.elemKey siblings <;> rfl
  · rw [Plan.targetOf_eq_ofFollow, Plan.targetOf_eq_ofFollow, Plan.ofFollow, Plan.ofFollow, sameElem,
      item]
    cases Plan.stringDirective Spec.elemKey siblings <;> rfl

/-- A number in the place of a field, beside a link to follow: it is malformed in its place. -/
theorem malformed_field_beside_follow :
    let siblings : List (String × Spec) :=
      [("_elem", .selector "p"), ("_follow", .list [.selector "a"]), ("y", .selector "i")]
    let n : Spec := .literal (.number (.whole 3))
    let entries : List (String × Spec) :=
      [("_elem", .selector "p"), ("x", n), ("_follow", .list [.selector "a"]), ("y", .selector "i")]
    Spec.isDirective "x" = false ∧ ¬ (Spec.map entries).Formed ∧
    (∃ reason, Plan.Part (.malformed reason) (Plan.ofSpec (.map entries))) ∧
    Plan.ofSpec (.map siblings) = .following ⟨some "p", none, none⟩ [("y", .select (some "i"))] none
      (.each (some "a") (.select none)) ∧
    Plan.ofSpec (.map entries) = .following ⟨some "p", none, none⟩
      [("x", .malformed (.literal (.number (.whole 3)))), ("y", .select (some "i"))] none
      (.each (some "a") (.select none)) := by
  intro siblings n entries
  obtain ⟨grammar, fields⟩ := malformed_iff_not_formed
  have unformed : ¬ (Spec.map entries).Formed := by
    intro formed
    have declared : ("x", n) ∈ entries := List.mem_cons_of_mem _ List.mem_cons_self
    have field := (Spec.formed_map_iff.mp formed).2.2.2 _ declared rfl
    cases field
  obtain ⟨-, plan, -⟩ := fields [("_elem", .selector "p")]
    [("_follow", .list [.selector "a"]), ("y", .selector "i")] "x" n rfl
  exact ⟨rfl, unformed, (grammar _).mpr unformed, rfl, plan⟩

end PageExtract
