import Mathlib.Data.List.Nodup
import Mathlib.Data.List.Perm.Subperm
import PageExtract.Filter
import PageExtract.Proofs.Values

/-!
Containment of objects, which filters by a mapping ask for: every member is there, an object for an
object with what it contains, and any other value equal. It orders objects up to the order of their
members. An object in an array is compared as a whole. Main result: `isSubset_order`.
-/

set_option autoImplicit false

namespace PageExtract

open Json (Value)

namespace Filter

variable {a b c : List (String × Value)} {u v w : Value}

theorem isSubset_iff : isSubset a b = true ↔
    ∀ m ∈ a, ∃ value, Entries.get? m.1 b = some value ∧ covers m.2 value = true := by
  induction a with
  | nil => simp [isSubset]
  | cons m rest ih =>
      rw [isSubset, Bool.and_eq_true, ih, List.forall_mem_cons]
      refine and_congr_left fun _ => ?_
      cases Entries.get? m.1 b <;> simp

/-- What an object covers is an object that contains it. -/
theorem covers_object_iff :
    covers (.object a) v = true ↔ ∃ b, v = .object b ∧ isSubset a b = true := by
  cases v <;> simp [covers, Value.equal]

/-- Values other than objects cover their equals. -/
theorem covers_of_ne_object (other : ∀ members, u ≠ .object members) (v : Value) :
    covers u v = u.equal v := by
  cases u with
  | object members => exact absurd rfl (other members)
  | _ => cases v <;> rfl

theorem covers_of_equal (same : u.equal v = true) : covers u v = true := by
  induction u using Value.induct generalizing v with
  | object members ih =>
      obtain ⟨others, rfl, _, found⟩ := Value.equal_object_iff.mp same
      refine covers_object_iff.mpr ⟨others, rfl, isSubset_iff.mpr fun m member => ?_⟩
      obtain ⟨value, there, equal⟩ := found m member
      exact ⟨value, there, ih m member equal⟩
  | _ => exact (covers_of_ne_object (by nofun) v).trans same

theorem covers_trans (first : covers u v = true) (second : covers v w = true) :
    covers u w = true := by
  induction u using Value.induct generalizing v w with
  | object members ih =>
      obtain ⟨middle, rfl, before⟩ := covers_object_iff.mp first
      obtain ⟨last, rfl, after⟩ := covers_object_iff.mp second
      refine covers_object_iff.mpr ⟨last, rfl, isSubset_iff.mpr fun m member => ?_⟩
      obtain ⟨x, found, covered⟩ := isSubset_iff.mp before m member
      obtain ⟨y, next, also⟩ := isSubset_iff.mp after _ (Entries.mem_of_get? found)
      exact ⟨y, next, ih m member covered also⟩
  | _ =>
      have same := (covers_of_ne_object (by nofun) v).symm.trans first
      have other : ∀ members, v ≠ .object members := by
        rintro members rfl
        obtain ⟨_, impossible⟩ := Value.exists_of_equal_object same
        cases impossible
      have next := (covers_of_ne_object other w).symm.trans second
      exact (covers_of_ne_object (by nofun) w).trans (Value.equal_trans same next)

theorem keys_subset_of_isSubset (subset : isSubset a b = true) :
    Entries.keys a ⊆ Entries.keys b := by
  intro key known
  obtain ⟨m, member, rfl⟩ := List.mem_map.mp known
  obtain ⟨value, found, _⟩ := isSubset_iff.mp subset m member
  by_contra absent
  rw [Entries.get?_eq_none_iff.mpr absent] at found
  cases found

theorem covers_antisymm (distinct : u.Distinct) (also : v.Distinct) (first : covers u v = true)
    (second : covers v u = true) : u.equal v = true := by
  induction u using Value.induct generalizing v with
  | object members ih =>
      obtain ⟨others, rfl, before⟩ := covers_object_iff.mp first
      obtain ⟨_, ⟨⟩, after⟩ := covers_object_iff.mp second
      have fewer := (distinct.keys.subperm (keys_subset_of_isSubset before)).length_le
      have more := (also.keys.subperm (keys_subset_of_isSubset after)).length_le
      have size : members.length = others.length := by
        simp only [Entries.keys, List.length_map] at fewer more
        omega
      refine Value.equal_object_iff.mpr ⟨others, rfl, size, fun m member => ?_⟩
      obtain ⟨value, found, covered⟩ := isSubset_iff.mp before m member
      have inside := Entries.mem_of_get? found
      obtain ⟨origin, there, covering⟩ := isSubset_iff.mp after _ inside
      have same : some m.2 = some origin :=
        (Entries.get?_of_mem distinct.keys member).symm.trans there
      cases same
      exact ⟨value, found,
        ih m member (distinct.member member) (also.member inside) covered covering⟩
  | _ => exact (covers_of_ne_object (by nofun) v).symm.trans first

theorem isSubset_refl (distinct : (Value.object a).Distinct) : isSubset a a = true := by
  have whole := covers_of_equal distinct.equal_refl
  exact whole

theorem isSubset_trans (first : isSubset a b = true) (second : isSubset b c = true) :
    isSubset a c = true := by
  have whole : covers (.object a) (.object c) = true :=
    covers_trans (v := .object b) first second
  exact whole

theorem isSubset_of_reordered (distinct : (Value.object a).Distinct)
    (reordered : (Value.object a).Reordered (.object b)) :
    isSubset a b = true ∧ isSubset b a = true := by
  have forth := covers_of_equal (reordered.equal distinct)
  have back := covers_of_equal (reordered.symm.equal (reordered.distinct distinct))
  exact ⟨forth, back⟩

/-- From an object to one with further members in it, or in objects that are reached from it through
objects alone. -/
inductive Grows : List (String × Value) → List (String × Value) → Prop where
  | refl (members : List (String × Value)) : Grows members members
  | trans {a b c : List (String × Value)} (first : Grows a b) (second : Grows b c) : Grows a c
  | add {before after : List (String × Value)} {key : String} {value : Value}
      (fresh : key ∉ Entries.keys (before ++ after)) (distinct : value.Distinct) :
      Grows (before ++ after) (before ++ (key, value) :: after)
  | inside (before after : List (String × Value)) (key : String) {a b : List (String × Value)}
      (grown : Grows a b) :
      Grows (before ++ (key, .object a) :: after) (before ++ (key, .object b) :: after)

theorem Grows.distinct (grown : Grows a b) (distinct : (Value.object a).Distinct) :
    (Value.object b).Distinct := by
  induction grown with
  | refl members => exact distinct
  | trans _ _ first second => exact second (first distinct)
  | @add before after key value fresh added =>
      have keys := distinct.keys
      rw [Entries.keys_append] at fresh keys
      refine .object ?_ fun m member => ?_
      · rw [Entries.keys_append, Entries.keys_cons]
        exact List.nodup_middle.mpr (List.nodup_cons.mpr ⟨fresh, keys⟩)
      · rcases List.mem_append.mp member with early | late
        · exact distinct.member (List.mem_append_left _ early)
        · rcases List.mem_cons.mp late with rfl | later
          · exact added
          · exact distinct.member (List.mem_append_right _ later)
  | inside before after key _ ih =>
      exact distinct.replace (ih (distinct.member (List.mem_append_right _ List.mem_cons_self)))

theorem isSubset_of_mem (distinct : (Value.object b).Distinct)
    (each : ∀ m ∈ a, ∃ value, (m.1, value) ∈ b ∧ covers m.2 value = true) :
    isSubset a b = true := by
  refine isSubset_iff.mpr fun m member => ?_
  obtain ⟨value, inside, covered⟩ := each m member
  exact ⟨value, Entries.get?_of_mem distinct.keys inside, covered⟩

/-- An object is contained in what has grown from it. -/
theorem Grows.isSubset (grown : Grows a b) (distinct : (Value.object a).Distinct) :
    Filter.isSubset a b = true := by
  have kept : ∀ {members : List (String × Value)}, (Value.object members).Distinct →
      ∀ m ∈ members, covers m.2 m.2 = true := fun distinct m member =>
    covers_of_equal (distinct.member member).equal_refl
  induction grown with
  | refl members => exact isSubset_refl distinct
  | trans before _ first second =>
      exact isSubset_trans (first distinct) (second (before.distinct distinct))
  | add fresh added =>
      refine isSubset_of_mem ((Grows.add fresh added).distinct distinct) fun m member => ?_
      refine ⟨m.2, ?_, kept distinct m member⟩
      rcases List.mem_append.mp member with early | later
      · exact List.mem_append_left _ early
      · exact List.mem_append_right _ (List.mem_cons_of_mem _ later)
  | @inside before after key old new grown ih =>
      have inner := distinct.member (List.mem_append_right _ List.mem_cons_self)
      refine isSubset_of_mem ((Grows.inside before after key grown).distinct distinct)
        fun m member => ?_
      rcases List.mem_append.mp member with early | late
      · exact ⟨m.2, List.mem_append_left _ early, kept distinct m member⟩
      · rcases List.mem_cons.mp late with rfl | later
        · exact ⟨.object new, List.mem_append_right _ List.mem_cons_self, ih inner⟩
        · exact ⟨m.2, List.mem_append_right _ (List.mem_cons_of_mem _ later),
            kept distinct m member⟩

/-- Containment orders objects: it is reflexive and transitive, objects that contain each other are
equal but for the order of members, and this order never counts, on either side and however deep in
the object. What passes a filter still passes it with more members, and what a filter rejects is
rejected by a filter with more. -/
theorem isSubset_order (first : (Value.object a).Distinct) (second : (Value.object b).Distinct) :
    isSubset a a = true ∧
    (isSubset a b = true → isSubset b c = true → isSubset a c = true) ∧
    (isSubset a b = true → isSubset b a = true →
      (Value.object a).equal (.object b) = true) ∧
    (∀ a' b', (Value.object a).Reordered (.object a') → (Value.object b).Reordered (.object b') →
      isSubset a' b' = isSubset a b) ∧
    (∀ b', Grows b b' → (Filter.subset a).passes (.object b) = true →
      (Filter.subset a).passes (.object b') = true) ∧
    (∀ a', Grows a a' → (Filter.subset a).passes (.object b) = false →
      (Filter.subset a').passes (.object b) = false) := by
  refine ⟨isSubset_refl first, isSubset_trans, fun forth back => ?_, ?_, ?_, ?_⟩
  · exact covers_antisymm first second forth back
  · intro a' b' moved also
    obtain ⟨forth, back⟩ := isSubset_of_reordered first moved
    obtain ⟨onward, backward⟩ := isSubset_of_reordered second also
    apply Bool.eq_iff_iff.mpr
    constructor
    · intro contained
      exact isSubset_trans forth (isSubset_trans contained backward)
    · intro contained
      exact isSubset_trans back (isSubset_trans contained onward)
  · intro b' grown contained
    exact isSubset_trans contained (grown.isSubset second)
  · intro a' grown rejected
    apply Bool.eq_false_iff.mpr
    intro contained
    have passed : (Filter.subset a).passes (.object b) = true :=
      isSubset_trans (grown.isSubset first) contained
    rw [rejected] at passed
    cases passed

/-- In an array an object is compared as a whole. -/
example : isSubset [("a", .array [.object [("x", .null)]])]
    [("a", .array [.object [("x", .null), ("y", .null)]])] = false := by decide

/-- An object within an object that grows, and one whose members change places. -/
theorem isSubset_order_nested :
    let a : List (String × Value) := [("c", .object [("x", .null)])]
    let b : List (String × Value) := [("d", .null), ("c", .object [("y", .null), ("x", .null)])]
    (Value.object a).Distinct ∧ (Value.object b).Distinct ∧
    (Filter.subset a).passes (.object (b ++ [("e", .bool true)])) = true ∧
    isSubset a b.reverse = true := by
  intro a b
  have first : (Value.object a).Distinct := by
    refine .object (by decide) fun m member => ?_
    rw [List.mem_singleton.mp member]
    exact .object (by decide) fun n inside => by
      rw [List.mem_singleton.mp inside]
      exact .null
  have second : (Value.object b).Distinct := by
    refine .object (by decide) fun m member => ?_
    rcases List.mem_cons.mp member with rfl | later
    · exact .null
    · rw [List.mem_singleton.mp later]
      refine .object (by decide) fun n inside => ?_
      rcases List.mem_cons.mp inside with rfl | last
      · exact .null
      · rw [List.mem_singleton.mp last]
        exact .null
  obtain ⟨_, _, _, reordered, grown, _⟩ := isSubset_order (c := b) first second
  refine ⟨first, second, ?_, ?_⟩
  · exact grown _ (@Grows.add b [] "e" (.bool true) (by decide) (.bool true)) (by decide)
  · rw [reordered a b.reverse (.refl _) (.members b.reverse_perm.symm)]
    decide

end Filter

end PageExtract
