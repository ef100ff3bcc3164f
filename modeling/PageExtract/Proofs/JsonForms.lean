import PageExtract.Proofs.Placeholders
import PageExtract.Proofs.Values

/-!
The JSON form of specs. Values whose objects have distinct keys and specs without patterns and
predicates are two views of the same data, so a filter that is given as an object compares with this
object. Main result: `json_round_trip`.
-/

set_option autoImplicit false

namespace PageExtract.Spec

open Json (Value)

/-- Specs that JSON has a form for: no patterns or predicates, only numbers and booleans as literals,
and no key twice in a mapping. -/
inductive Plain : Spec → Prop where
  | missing : Plain .missing
  | selector (s : String) : Plain (.selector s)
  | list {items : List Spec} (each : ∀ s ∈ items, Plain s) : Plain (.list items)
  | map {entries : List (String × Spec)} (keys : (Entries.keys entries).Nodup)
      (each : ∀ e ∈ entries, Plain e.2) : Plain (.map entries)
  | bool (b : Bool) : Plain (.literal (.bool b))
  | number (n : Json.Number) : Plain (.literal (.number n))

theorem toItems_eq_map (items : List Spec) : toItems items = items.map toValue := by
  induction items with
  | nil => rfl
  | cons s rest ih => rw [toItems, ih, List.map_cons]

theorem toMembers_eq_map (entries : List (String × Spec)) :
    toMembers entries = entries.map fun e => (e.1, e.2.toValue) := by
  induction entries with
  | nil => rfl
  | cons e rest ih => rw [toMembers, ih, List.map_cons]

theorem keys_ofMembers (members : List (String × Value)) :
    Entries.keys (ofMembers members) = Entries.keys members := by
  rw [ofMembers_eq_map, Entries.keys_map]

theorem keys_toMembers (entries : List (String × Spec)) :
    Entries.keys (toMembers entries) = Entries.keys entries := by
  rw [toMembers_eq_map, Entries.keys_map]

/-- Where members are back from their specs, so are all of them, in their order. -/
theorem toMembers_ofMembers {members : List (String × Value)}
    (back : ∀ m ∈ members, (ofValue m.2).toValue = m.2) :
    toMembers (ofMembers members) = members := by
  rw [ofMembers_eq_map, toMembers_eq_map, List.map_map]
  have same : ∀ m ∈ members, (m.1, (ofValue m.2).toValue) = m := fun m member =>
    Prod.ext rfl (back m member)
  exact (List.map_congr_left same).trans (List.map_id' members)

theorem ofMembers_toMembers {entries : List (String × Spec)}
    (back : ∀ e ∈ entries, ofValue e.2.toValue = e.2) :
    ofMembers (toMembers entries) = entries := by
  rw [toMembers_eq_map, ofMembers_eq_map, List.map_map]
  have same : ∀ e ∈ entries, (e.1, ofValue e.2.toValue) = e := fun e member =>
    Prod.ext rfl (back e member)
  exact (List.map_congr_left same).trans (List.map_id' entries)

theorem toValue_ofValue {v : Value} (distinct : v.Distinct) : (ofValue v).toValue = v := by
  induction distinct with
  | array _ ih =>
      rw [ofValue, toValue, ofItems_eq_map, toItems_eq_map, List.map_map]
      exact congrArg Value.array ((List.map_congr_left ih).trans (List.map_id' _))
  | object keys _ ih =>
      rw [ofValue, toValue, toMembers_ofMembers ih, Entries.ofList_of_distinct keys]
  | _ => rfl

theorem plain_ofValue {v : Value} (distinct : v.Distinct) : (ofValue v).Plain := by
  induction distinct with
  | null => exact .missing
  | bool b => exact .bool b
  | number n => exact .number n
  | string s => exact .selector s
  | array _ ih =>
      rw [ofValue, ofItems_eq_map]
      refine .list fun s member => ?_
      obtain ⟨v, inside, rfl⟩ := List.mem_map.mp member
      exact ih v inside
  | @object members keys _ ih =>
      have fresh : (Entries.keys (ofMembers members)).Nodup := by rwa [keys_ofMembers]
      rw [ofMembers_eq_map] at fresh
      rw [ofValue, ofMembers_eq_map]
      refine .map fresh fun e member => ?_
      obtain ⟨m, inside, rfl⟩ := List.mem_map.mp member
      exact ih m inside

/-- No key is lost in the view of a mapping without repeated keys. -/
theorem toValue_map {entries : List (String × Spec)} (keys : (Entries.keys entries).Nodup) :
    (Spec.map entries).toValue = .object (toMembers entries) := by
  rw [toValue, Entries.ofList_of_distinct]
  rwa [keys_toMembers]

theorem ofValue_toValue {s : Spec} (plain : s.Plain) : ofValue s.toValue = s := by
  induction plain with
  | list _ ih =>
      rw [toValue, ofValue, toItems_eq_map, ofItems_eq_map, List.map_map]
      exact congrArg Spec.list ((List.map_congr_left ih).trans (List.map_id' _))
  | map keys _ ih => rw [toValue_map keys, ofValue, ofMembers_toMembers ih]
  | _ => rfl

theorem distinct_toValue {s : Spec} (plain : s.Plain) : s.toValue.Distinct := by
  induction plain with
  | missing => exact .null
  | selector s => exact .string s
  | bool b => exact .bool b
  | number n => exact .number n
  | list _ ih =>
      rw [toValue, toItems_eq_map]
      refine .array fun v member => ?_
      obtain ⟨s, inside, rfl⟩ := List.mem_map.mp member
      exact ih s inside
  | @map entries keys _ ih =>
      rw [toValue_map keys]
      refine .object (by rwa [keys_toMembers]) fun m member => ?_
      rw [toMembers_eq_map] at member
      obtain ⟨e, inside, rfl⟩ := List.mem_map.mp member
      exact ih e inside

/-- The filter of a mapping, given as an object, is that object. -/
theorem filterOf_ofValue {entries : List (String × Spec)} {wanted : List (String × Value)}
    (distinct : (Value.object wanted).Distinct)
    (given : Entries.get? filterKey entries = some (ofValue (.object wanted))) :
    Plan.filterOf entries = some (.subset wanted) := by
  have back : toMembers (ofMembers wanted) = wanted :=
    toMembers_ofMembers fun m member => toValue_ofValue (distinct.member member)
  simp only [Plan.filterOf, given, ofValue, Filter.ofSpec, back,
    Entries.ofList_of_distinct distinct.keys]

/-- A value whose objects have distinct keys becomes a plain spec and comes back from it as it was,
the order of members included, and a plain spec comes back from its view. So a filter that is given
as an object lets those objects pass that contain just this object, whatever is in it. -/
theorem json_round_trip :
    (∀ v : Value, v.Distinct → (ofValue v).Plain ∧ (ofValue v).toValue = v) ∧
    (∀ s : Spec, s.Plain → s.toValue.Distinct ∧ ofValue s.toValue = s) ∧
    ∀ (entries : List (String × Spec)) (wanted : List (String × Value)),
      (Value.object wanted).Distinct →
      Entries.get? filterKey entries = some (ofValue (.object wanted)) →
      Plan.filterOf entries = some (.subset wanted) ∧
      ∀ (data : List (String × Value)) (next : Value → Run Value),
        Filter.gate (Plan.filterOf entries) (.object data) next =
          if Filter.isSubset wanted data then next (.object data) else .pure .null := by
  refine ⟨fun v distinct => ⟨plain_ofValue distinct, toValue_ofValue distinct⟩,
    fun s plain => ⟨distinct_toValue plain, ofValue_toValue plain⟩, ?_⟩
  intro entries wanted distinct given
  have filter := filterOf_ofValue distinct given
  refine ⟨filter, fun data next => ?_⟩
  rw [filter]
  cases contained : Filter.isSubset wanted data with
  | true => simp [Filter.gate, Filter.test?, contained]
  | false => simp [Filter.gate, Filter.test?, contained]

/-- An object with a null, an array and an object in it, as a value and as the filter of a mapping. -/
theorem json_round_trip_nested :
    let wanted : List (String × Value) :=
      [("b", .null), ("a", .array [.null, .string "x"]), ("c", .object [("d", .bool true)])]
    (Value.object wanted).Distinct ∧
    (ofValue (.object wanted)).toValue = .object wanted ∧
    Filter.gate (Plan.filterOf [("t", .selector "p"), (filterKey, ofValue (.object wanted))])
      (.object wanted.reverse) .pure = .pure (.object wanted.reverse) ∧
    Filter.gate (Plan.filterOf [("t", .selector "p"), (filterKey, ofValue (.object wanted))])
      (.object wanted.tail) .pure = .pure .null := by
  intro wanted
  have distinct : (Value.object wanted).Distinct := by
    refine .object (by decide) fun m member => ?_
    simp only [wanted, List.mem_cons, List.not_mem_nil, or_false] at member
    rcases member with rfl | rfl | rfl
    · exact .null
    · refine .array fun v inside => ?_
      simp only [List.mem_cons, List.not_mem_nil, or_false] at inside
      rcases inside with rfl | rfl
      · exact .null
      · exact .string "x"
    · refine .object (by decide) fun n inside => ?_
      rw [List.mem_singleton.mp inside]
      exact .bool true
  obtain ⟨values, _, filters⟩ := json_round_trip
  obtain ⟨_, gated⟩ := filters [("t", .selector "p"), (filterKey, ofValue (.object wanted))] wanted
    distinct rfl
  refine ⟨distinct, (values _ distinct).2, ?_, ?_⟩
  · rw [gated]
    rfl
  · rw [gated]
    rfl

end PageExtract.Spec
