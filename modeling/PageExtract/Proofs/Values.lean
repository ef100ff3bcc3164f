import Mathlib.Data.List.Forall2
import PageExtract.Json.Value
import PageExtract.Proofs.Entries

/-!
JSON values and their equality, in which the order of members does not count. On values without
repeated keys it is reflexive, and members may change places anywhere in a value.
-/

set_option autoImplicit false

namespace PageExtract.Json

/-! ## Numbers -/

theorem Binary64.equal_refl (x : Binary64) : x.equal x = true := by
  simp [equal]

theorem Binary64.equal_trans {x y z : Binary64} (first : x.equal y = true)
    (second : y.equal z = true) : x.equal z = true := by
  simp only [equal, Bool.or_eq_true, Bool.and_eq_true, beq_iff_eq] at first second ⊢
  rcases first with ⟨zero, middle⟩ | rfl
  · rcases second with ⟨_, last⟩ | rfl
    · exact .inl ⟨zero, last⟩
    · exact .inl ⟨zero, middle⟩
  · exact second

theorem Number.equal_refl (n : Number) : n.equal n = true := by
  cases n with
  | whole n => exact beq_self_eq_true n
  | real x => exact x.equal_refl

theorem Number.equal_trans {k m n : Number} (first : k.equal m = true)
    (second : m.equal n = true) : k.equal n = true := by
  cases k with
  | whole k =>
      cases m with
      | whole m =>
          have same : k = m := beq_iff_eq.mp first
          rw [same]
          exact second
      | real => cases first
  | real x =>
      cases m with
      | whole => cases first
      | real y =>
          cases n with
          | whole => cases second
          | real z => exact Binary64.equal_trans first second

namespace Value

/-- Induction on values, with all items of an array and all members of an object at hand. -/
@[elab_as_elim]
theorem induct {motive : Value → Prop} (null : motive .null) (bool : ∀ b, motive (.bool b))
    (number : ∀ n, motive (.number n)) (string : ∀ s, motive (.string s))
    (array : ∀ items, (∀ v ∈ items, motive v) → motive (.array items))
    (object : ∀ members, (∀ m ∈ members, motive m.2) → motive (.object members)) (v : Value) :
    motive v :=
  @Value.rec motive (fun items => ∀ v ∈ items, motive v) (fun members => ∀ m ∈ members, motive m.2)
    (fun m => motive m.2) null bool number string array object
    (fun _ member => absurd member List.not_mem_nil)
    (fun first rest head tail v member => by
      rcases List.mem_cons.mp member with rfl | later
      · exact head
      · exact tail v later)
    (fun _ member => absurd member List.not_mem_nil)
    (fun first rest head tail m member => by
      rcases List.mem_cons.mp member with rfl | later
      · exact head
      · exact tail m later)
    (fun _ _ value => value) v

/-! ## Equality -/

theorem equalItems_iff {xs ys : List Value} :
    equalItems xs ys = true ↔ List.Forall₂ (fun x y => x.equal y = true) xs ys := by
  induction xs generalizing ys with
  | nil => cases ys <;> simp [equalItems]
  | cons x rest ih => cases ys <;> simp [equalItems, ih]

theorem equalMembers_iff {ms ns : List (String × Value)} :
    equalMembers ms ns = true ↔
      ∀ m ∈ ms, ∃ w, Entries.get? m.1 ns = some w ∧ m.2.equal w = true := by
  induction ms with
  | nil => simp [equalMembers]
  | cons m rest ih =>
      rw [equalMembers, Bool.and_eq_true, ih, List.forall_mem_cons]
      refine and_congr_left fun _ => ?_
      cases Entries.get? m.1 ns <;> simp

/-- What equals an array is an array of equal items. -/
theorem equal_array_iff {xs : List Value} {v : Value} : equal (.array xs) v = true ↔
    ∃ ys, v = .array ys ∧ List.Forall₂ (fun x y => x.equal y = true) xs ys := by
  cases v <;> simp [equal, equalItems_iff]

/-- What equals an object is an object with as many members, among them an equal one for each. -/
theorem equal_object_iff {ms : List (String × Value)} {v : Value} :
    equal (.object ms) v = true ↔ ∃ ns, v = .object ns ∧ ms.length = ns.length ∧
      ∀ m ∈ ms, ∃ w, Entries.get? m.1 ns = some w ∧ m.2.equal w = true := by
  cases v <;> simp [equal, equalMembers_iff]

/-- What an object equals is an object. -/
theorem exists_of_equal_object {v : Value} {ns : List (String × Value)}
    (same : v.equal (.object ns) = true) : ∃ ms, v = .object ms := by
  cases v with
  | object ms => exact ⟨ms, rfl⟩
  | _ => cases same

theorem equal_trans {u v w : Value} (first : u.equal v = true) (second : v.equal w = true) :
    u.equal w = true := by
  induction u using induct generalizing v w with
  | null =>
      cases v with
      | null => exact second
      | _ => cases first
  | bool b =>
      cases v with
      | bool c =>
          have same : b = c := beq_iff_eq.mp first
          rw [same]
          exact second
      | _ => cases first
  | number n =>
      cases v with
      | number m =>
          cases w with
          | number k => exact Number.equal_trans first second
          | _ => cases second
      | _ => cases first
  | string s =>
      cases v with
      | string t =>
          have same : s = t := beq_iff_eq.mp first
          rw [same]
          exact second
      | _ => cases first
  | array xs ih =>
      obtain ⟨ys, rfl, before⟩ := equal_array_iff.mp first
      obtain ⟨zs, rfl, after⟩ := equal_array_iff.mp second
      refine equal_array_iff.mpr ⟨zs, rfl, ?_⟩
      clear first second
      induction before generalizing zs with
      | nil => exact after
      | cons head _ rest =>
          cases after with
          | cons next later =>
              refine .cons (ih _ List.mem_cons_self head next) ?_
              exact rest (fun x member => ih x (List.mem_cons_of_mem _ member)) _ later
  | object ms ih =>
      obtain ⟨ns, rfl, size, before⟩ := equal_object_iff.mp first
      obtain ⟨ps, rfl, nextSize, after⟩ := equal_object_iff.mp second
      refine equal_object_iff.mpr ⟨ps, rfl, size.trans nextSize, fun m member => ?_⟩
      obtain ⟨x, found, same⟩ := before m member
      obtain ⟨y, next, also⟩ := after _ (Entries.mem_of_get? found)
      exact ⟨y, next, ih m member same also⟩

/-! ## Distinct keys -/

/-- No object in the value has a key twice. -/
inductive Distinct : Value → Prop where
  | null : Distinct .null
  | bool (b : Bool) : Distinct (.bool b)
  | number (n : Number) : Distinct (.number n)
  | string (s : String) : Distinct (.string s)
  | array {items : List Value} (each : ∀ v ∈ items, Distinct v) : Distinct (.array items)
  | object {members : List (String × Value)} (keys : (Entries.keys members).Nodup)
      (each : ∀ m ∈ members, Distinct m.2) : Distinct (.object members)

theorem Distinct.keys {members : List (String × Value)} (distinct : Distinct (.object members)) :
    (Entries.keys members).Nodup := by
  cases distinct with
  | object keys each => exact keys

theorem Distinct.member {members : List (String × Value)} (distinct : Distinct (.object members))
    {m : String × Value} (inside : m ∈ members) : m.2.Distinct := by
  cases distinct with
  | object keys each => exact each m inside

theorem Distinct.item {items : List Value} (distinct : Distinct (.array items)) {v : Value}
    (inside : v ∈ items) : v.Distinct := by
  cases distinct with
  | array each => exact each v inside

/-- Keys stay distinct where a member gets another value. -/
theorem Distinct.replace {before after : List (String × Value)} {key : String} {v w : Value}
    (distinct : Distinct (.object (before ++ (key, v) :: after))) (changed : w.Distinct) :
    Distinct (.object (before ++ (key, w) :: after)) := by
  have keys := distinct.keys
  rw [Entries.keys_append, Entries.keys_cons] at keys
  refine .object (by rwa [Entries.keys_append, Entries.keys_cons]) fun m member => ?_
  rcases List.mem_append.mp member with early | late
  · exact distinct.member (List.mem_append_left _ early)
  · rcases List.mem_cons.mp late with rfl | later
    · exact changed
    · exact distinct.member (List.mem_append_right _ (List.mem_cons_of_mem _ later))

theorem Distinct.equal_refl {v : Value} (distinct : v.Distinct) : v.equal v = true := by
  induction distinct with
  | null => rfl
  | bool b => exact beq_self_eq_true b
  | number n => exact n.equal_refl
  | string s => exact beq_self_eq_true s
  | array _ ih => exact equal_array_iff.mpr ⟨_, rfl, List.forall₂_same.mpr ih⟩
  | object keys _ ih =>
      refine equal_object_iff.mpr ⟨_, rfl, rfl, fun m member => ?_⟩
      exact ⟨m.2, Entries.get?_of_mem keys member, ih m member⟩

/-! ## The order of members -/

/-- From one value to another by moving members to other places, in any object within. -/
inductive Reordered : Value → Value → Prop where
  | refl (v : Value) : Reordered v v
  | trans {u v w : Value} (first : Reordered u v) (second : Reordered v w) : Reordered u w
  | members {ms ns : List (String × Value)} (permuted : ms.Perm ns) :
      Reordered (.object ms) (.object ns)
  | item (before after : List Value) {v w : Value} (inside : Reordered v w) :
      Reordered (.array (before ++ v :: after)) (.array (before ++ w :: after))
  | member (before after : List (String × Value)) (key : String) {v w : Value}
      (inside : Reordered v w) :
      Reordered (.object (before ++ (key, v) :: after)) (.object (before ++ (key, w) :: after))

theorem Reordered.symm {v w : Value} (reordered : Reordered v w) : Reordered w v := by
  induction reordered with
  | refl v => exact .refl v
  | trans _ _ first second => exact second.trans first
  | members permuted => exact .members permuted.symm
  | item before after _ ih => exact .item before after ih
  | member before after key _ ih => exact .member before after key ih

theorem Reordered.distinct {v w : Value} (reordered : Reordered v w) (distinct : v.Distinct) :
    w.Distinct := by
  induction reordered with
  | refl v => exact distinct
  | trans _ _ first second => exact second (first distinct)
  | members permuted =>
      refine .object ((permuted.map Prod.fst).nodup distinct.keys) fun m member => ?_
      exact distinct.member (permuted.mem_iff.mpr member)
  | item before after _ ih =>
      have changed := ih (distinct.item (List.mem_append_right _ List.mem_cons_self))
      refine .array fun v member => ?_
      rcases List.mem_append.mp member with early | late
      · exact distinct.item (List.mem_append_left _ early)
      · rcases List.mem_cons.mp late with rfl | later
        · exact changed
        · exact distinct.item (List.mem_append_right _ (List.mem_cons_of_mem _ later))
  | member before after key _ ih =>
      exact distinct.replace (ih (distinct.member (List.mem_append_right _ List.mem_cons_self)))

/-- A value equals what is left of it after its members have changed places. -/
theorem Reordered.equal {v w : Value} (reordered : Reordered v w) (distinct : v.Distinct) :
    v.equal w = true := by
  induction reordered with
  | refl v => exact distinct.equal_refl
  | trans before _ first second => exact equal_trans (first distinct) (second (before.distinct distinct))
  | members permuted =>
      refine equal_object_iff.mpr ⟨_, rfl, permuted.length_eq, fun m member => ?_⟩
      have keys := (permuted.map Prod.fst).nodup distinct.keys
      have found := Entries.get?_of_mem keys (permuted.mem_iff.mp member)
      exact ⟨m.2, found, (distinct.member member).equal_refl⟩
  | item before after _ ih =>
      have changed := ih (distinct.item (List.mem_append_right _ List.mem_cons_self))
      refine equal_array_iff.mpr ⟨_, rfl, ?_⟩
      refine List.rel_append ?_ (.cons changed ?_)
      · exact List.forall₂_same.mpr fun v member =>
          (distinct.item (List.mem_append_left _ member)).equal_refl
      · exact List.forall₂_same.mpr fun v member =>
          (distinct.item (List.mem_append_right _ (List.mem_cons_of_mem _ member))).equal_refl
  | @member before after key v w inside ih =>
      have keys := (Reordered.member before after key inside).distinct distinct |>.keys
      have changed := ih (distinct.member (List.mem_append_right _ List.mem_cons_self))
      refine equal_object_iff.mpr ⟨_, rfl, by simp, fun m member => ?_⟩
      rcases List.mem_append.mp member with early | late
      · exact ⟨m.2, Entries.get?_of_mem keys (List.mem_append_left _ early),
          (distinct.member member).equal_refl⟩
      · rcases List.mem_cons.mp late with rfl | later
        · exact ⟨w, Entries.get?_of_mem keys (List.mem_append_right _ List.mem_cons_self), changed⟩
        · exact ⟨m.2, Entries.get?_of_mem keys
            (List.mem_append_right _ (List.mem_cons_of_mem _ later)),
            (distinct.member member).equal_refl⟩

end Value

end PageExtract.Json
