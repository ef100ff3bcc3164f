import Mathlib.Data.Option.Defs
import PageExtract.Proofs.Placeholders
import PageExtract.Proofs.Values

/-!
The forms that a tree of parameters can have: a JSON value, groups within groups, or a spec. What a
path finds is the same in each, as long as it goes through objects; a group gives its entries in the
order of their keys, and only in JSON values a path can go through an array as well. Main result:
`lookup_of_forms`.
-/

set_option autoImplicit false

namespace PageExtract

open Json (Value)

namespace Param

mutual

/-- A group for the value and for each object that is reached from it through objects. -/
def grouped : Value → Param
  | .object members => .group (Entries.sorted (groupedMembers members))
  | .null => .value .null
  | .bool b => .value (.bool b)
  | .number n => .value (.number n)
  | .string s => .value (.string s)
  | .array items => .value (.array items)
  termination_by structural v => v

def groupedMembers : List (String × Value) → List (String × Param)
  | [] => []
  | (k, v) :: ms => (k, grouped v) :: groupedMembers ms
  termination_by structural ms => ms

end

theorem groupedMembers_eq_map (members : List (String × Value)) :
    groupedMembers members = members.map fun m => (m.1, grouped m.2) := by
  induction members with
  | nil => rfl
  | cons m rest ih => rw [groupedMembers, ih, List.map_cons]

theorem keys_groupedMembers (members : List (String × Value)) :
    Entries.keys (groupedMembers members) = Entries.keys members := by
  rw [groupedMembers_eq_map, Entries.keys_map]

theorem get?_groupedMembers (key : String) (members : List (String × Value)) :
    Entries.get? key (groupedMembers members) = (Entries.get? key members).map grouped := by
  rw [groupedMembers_eq_map, Entries.get?_map]

end Param

namespace Spec

/-- From one spec to another by moving the entries of a mapping to other places, and those of
mappings that are reached from it through mappings. -/
inductive Reordered : Spec → Spec → Prop where
  | refl (s : Spec) : Reordered s s
  | trans {s t u : Spec} (first : Reordered s t) (second : Reordered t u) : Reordered s u
  | entries {es others : List (String × Spec)} (permuted : es.Perm others) :
      Reordered (.map es) (.map others)
  | entry (before after : List (String × Spec)) (key : String) {s t : Spec}
      (inside : Reordered s t) :
      Reordered (.map (before ++ (key, s) :: after)) (.map (before ++ (key, t) :: after))

theorem Reordered.each {α : Type} {f g : α → Spec} {es : List (String × α)}
    (inside : ∀ e ∈ es, Reordered (f e.2) (g e.2)) :
    Reordered (.map (es.map fun e => (e.1, f e.2))) (.map (es.map fun e => (e.1, g e.2))) := by
  -- entries are replaced from the left, so those before are replaced already
  suffices whole : ∀ before : List (String × Spec),
      Reordered (.map (before ++ es.map fun e => (e.1, f e.2)))
        (.map (before ++ es.map fun e => (e.1, g e.2))) from whole []
  induction es with
  | nil => exact fun before => .refl _
  | cons e rest ih =>
      intro before
      have head := Reordered.entry before (rest.map fun e => (e.1, f e.2)) e.1
        (inside e List.mem_cons_self)
      have tail := ih (fun later member => inside later (List.mem_cons_of_mem _ member))
        (before ++ [(e.1, g e.2)])
      rw [List.append_assoc, List.append_assoc] at tail
      exact head.trans tail

/-- The entries of the spec of a value are the members of the value. -/
theorem get?_ofValue (key : String) (v : Value) :
    (ofValue v).get? key = (v.member? key).map ofValue := by
  cases v with
  | object members =>
      change Entries.get? key (ofMembers members) = (Entries.get? key members).map ofValue
      rw [ofMembers_eq_map, Entries.get?_map]
  | _ => rfl

end Spec

theorem Param.toSpec_grouped {v : Value} (distinct : v.Distinct) :
    (Spec.ofValue v).Reordered (grouped v).toSpec := by
  induction v using Value.induct with
  | object members ih =>
      have inside : ∀ m ∈ members, (Spec.ofValue m.2).Reordered (grouped m.2).toSpec :=
        fun m member => ih m member (distinct.member member)
      have keys : (Entries.keys (groupedMembers members)).Nodup := by
        rw [keys_groupedMembers]
        exact distinct.keys
      have placed := ((Entries.sorted_perm keys).map fun e => (e.1, toSpec e.2)).symm
      rw [groupedMembers_eq_map, List.map_map] at placed
      rw [Spec.ofValue, Spec.ofMembers_eq_map, grouped, toSpec, toEntries_eq_map,
        groupedMembers_eq_map]
      exact (Spec.Reordered.each (g := fun v => (grouped v).toSpec) inside).trans (.entries placed)
  | _ => exact .refl _

namespace Params

/-- What a path finds further on. -/
def walk (found : Found) (segments : List (List Char)) : Option Found :=
  segments.foldl (fun found segment => found.bind (child? · segment)) (some found)

theorem walk_cons (found : Found) (segment : List Char) (rest : List (List Char)) :
    walk found (segment :: rest) = (child? found segment).bind (walk · rest) := by
  have lost : rest.foldl (fun found segment => found.bind (child? · segment)) none = none := by
    induction rest with
    | nil => rfl
    | cons next rest ih => exact ih
  rw [walk, List.foldl_cons, Option.bind_some]
  cases child? found segment with
  | none => exact lost
  | some next => rfl

/-- What the segments lead to in a JSON value, through objects and arrays. -/
def reached? : Value → List (List Char) → Option Value
  | v, [] => some v
  | v, segment :: rest => (jsonChild? v segment).bind (reached? · rest)

/-- What the segments lead to in a JSON value, through objects alone. -/
def inside? : Value → List (List Char) → Option Value
  | v, [] => some v
  | v, segment :: rest => (v.member? (String.ofList segment)).bind (inside? · rest)

/-- The values met on the way, before the last step, are objects. -/
def ThroughObjects : Value → List (List Char) → Prop
  | _, [] => True
  | v, segment :: rest => v.kind = .object ∧
      ∀ w, v.member? (String.ofList segment) = some w → ThroughObjects w rest

theorem jsonChild?_of_member? {v w : Value} {segment : List Char}
    (found : v.member? (String.ofList segment) = some w) : jsonChild? v segment = some w := by
  cases v with
  | object members => exact found
  | _ => cases found

theorem reached?_of_inside? {segments : List (List Char)} {v w : Value}
    (found : inside? v segments = some w) : reached? v segments = some w := by
  induction segments generalizing v with
  | nil => exact found
  | cons segment rest ih =>
      obtain ⟨child, next, later⟩ := Option.bind_eq_some_iff.mp found
      rw [reached?, jsonChild?_of_member? next]
      exact ih later

theorem inside?_eq_reached? {segments : List (List Char)} {v : Value}
    (objects : ThroughObjects v segments) : inside? v segments = reached? v segments := by
  induction segments generalizing v with
  | nil => rfl
  | cons segment rest ih =>
      obtain ⟨kind, further⟩ := objects
      cases v with
      | object members =>
          change ((Value.object members).member? (String.ofList segment)).bind _ =
            ((Value.object members).member? (String.ofList segment)).bind _
          cases found : (Value.object members).member? (String.ofList segment) with
          | none => rfl
          | some w => exact ih (further w found)
      | _ => cases kind

theorem walk_json (segments : List (List Char)) (v : Value) :
    walk (.json v) segments = (reached? v segments).map .json := by
  induction segments generalizing v with
  | nil => rfl
  | cons segment rest ih =>
      rw [walk_cons, reached?]
      change ((jsonChild? v segment).map Found.json).bind _ = _
      cases jsonChild? v segment with
      | none => rfl
      | some w => exact ih w

/-- What has the same children and stands for the same spec is walked to the same. -/
theorem walk_congr (found other : Found) (children : child? found = child? other)
    (same : found.toSpec = other.toSpec) (segments : List (List Char)) :
    (walk found segments).map Found.toSpec = (walk other segments).map Found.toSpec := by
  cases segments with
  | nil => exact congrArg some same
  | cons segment rest => rw [walk_cons, walk_cons, children]

/-- A value that is a parameter is walked as any other. -/
theorem walk_value (segments : List (List Char)) (v : Value) :
    (walk (.param (.value v)) segments).map Found.toSpec =
      (reached? v segments).map Spec.ofValue := by
  rw [walk_congr (.param (.value v)) (.json v) rfl rfl, walk_json, Option.map_map]
  rfl

theorem walk_spec (segments : List (List Char)) (v : Value) :
    walk (.spec (Spec.ofValue v)) segments =
      (inside? v segments).map fun w => .spec (Spec.ofValue w) := by
  induction segments generalizing v with
  | nil => rfl
  | cons segment rest ih =>
      rw [walk_cons, inside?]
      change (((Spec.ofValue v).get? (String.ofList segment)).map Found.spec).bind _ = _
      rw [Spec.get?_ofValue]
      cases v.member? (String.ofList segment) with
      | none => rfl
      | some w => exact ih w

theorem walk_paramSpec (segments : List (List Char)) (v : Value) :
    (walk (.param (.spec (Spec.ofValue v))) segments).map Found.toSpec =
      (inside? v segments).map Spec.ofValue := by
  rw [walk_congr (.param (.spec (Spec.ofValue v))) (.spec (Spec.ofValue v)) rfl rfl, walk_spec,
    Option.map_map]
  rfl

theorem rel_refl (found : Option Spec) : Option.Rel Spec.Reordered found found := by
  cases found with
  | none => exact .none
  | some s => exact .some (.refl s)

/-- Groups are walked as the objects that they stand for, and give up what isn't an object. -/
theorem walk_grouped (segments : List (List Char)) {v : Value} (distinct : v.Distinct) :
    Option.Rel Spec.Reordered ((reached? v segments).map Spec.ofValue)
      ((walk (.param (Param.grouped v)) segments).map Found.toSpec) := by
  induction segments generalizing v with
  | nil => exact .some (Param.toSpec_grouped distinct)
  | cons segment rest ih =>
      cases v with
      | object members =>
          have keys : (Entries.keys (Param.groupedMembers members)).Nodup := by
            rw [Param.keys_groupedMembers]
            exact distinct.keys
          have child : child? (.param (Param.grouped (.object members))) segment =
              ((Entries.get? (String.ofList segment) members).map Param.grouped).map .param := by
            rw [Param.grouped]
            change (Entries.get? _ (Entries.sorted _)).map Found.param = _
            rw [Entries.get?_of_perm keys (Entries.sorted_perm keys).symm,
              Param.get?_groupedMembers]
          rw [walk_cons, child, reached?]
          change Option.Rel _ (((Entries.get? _ members).bind _).map _) _
          cases found : Entries.get? (String.ofList segment) members with
          | none => exact .none
          | some w => exact ih (distinct.member (Entries.mem_of_get? found))
      | _ =>
          rw [Param.grouped, walk_value]
          exact rel_refl _

variable {others : Params} {name : String} {path first : List Char} {rest : List (List Char)}

theorem lookup?_insertSorted_self (p : Param) (parts : segments path = first :: rest)
    (named : name = String.ofList first) : lookup? (Entries.insertSorted name p others) path =
      (walk (.param p) rest).map Found.toSpec := by
  rw [lookup?, parts, find?, Entries.get?_insertSorted, if_pos named]
  rfl

theorem lookup?_insertSorted_of_ne (p : Param) (parts : segments path = first :: rest)
    (other : name ≠ String.ofList first) :
    lookup? (Entries.insertSorted name p others) path = lookup? others path := by
  rw [lookup?, lookup?, parts, find?, Entries.get?_insertSorted, if_neg other]
  rfl

end Params

open Params (lookup? segments ThroughObjects)

/-- Whether a parameter is given as a JSON value, as groups within groups or as a spec, a path finds
the same, but for the order in which a group gives its entries. Through arrays a path goes in JSON
values and what groups hold of them, and finds nothing in a spec; all else that a spec lets it find
is what it finds in the JSON value. -/
theorem lookup_of_forms (others : Params) (name : String) {v : Value} (distinct : v.Distinct)
    (path : List Char) :
    let asValue := lookup? (Entries.insertSorted name (.value v) others) path
    let asGroups := lookup? (Entries.insertSorted name (.grouped v) others) path
    let asSpec := lookup? (Entries.insertSorted name (.spec (.ofValue v)) others) path
    Option.Rel Spec.Reordered asValue asGroups ∧
    ((∀ first rest, segments path = first :: rest → name = String.ofList first →
      ThroughObjects v rest) → asSpec = asValue) ∧
    ∀ s, asSpec = some s → asValue = some s := by
  cases parts : segments path with
  | nil =>
      have missed : ∀ params : Params, lookup? params path = none := by
        intro params
        rw [lookup?, parts]
        rfl
      simp only [missed]
      exact ⟨.none, fun _ => trivial, fun _ => nofun⟩
  | cons first rest =>
      by_cases named : name = String.ofList first
      · simp only [Params.lookup?_insertSorted_self _ parts named, Params.walk_value,
          Params.walk_paramSpec]
        refine ⟨Params.walk_grouped rest distinct, fun objects => ?_, fun s found => ?_⟩
        · rw [Params.inside?_eq_reached? (objects first rest rfl named)]
        · obtain ⟨w, inside, rfl⟩ := Option.map_eq_some_iff.mp found
          rw [Params.reached?_of_inside? inside]
          rfl
      · simp only [Params.lookup?_insertSorted_of_ne _ parts named]
        exact ⟨Params.rel_refl _, fun _ => trivial, fun _ found => found⟩

/-- An object within an object, whose group gives its entries in another order. -/
theorem lookup_of_forms_nested :
    let v : Value := .object [("z", .object [("y", .null), ("x", .string "s")])]
    let path : List Char := ['p', '.', ' ', 'z']
    v.Distinct ∧
    Option.Rel Spec.Reordered (lookup? (Entries.insertSorted "p" (.value v) []) path)
      (lookup? (Entries.insertSorted "p" (.grouped v) []) path) ∧
    lookup? (Entries.insertSorted "p" (.grouped v) []) path =
      some (.map [("x", .selector "s"), ("y", .missing)]) ∧
    lookup? (Entries.insertSorted "p" (.spec (.ofValue v)) []) path =
      some (.map [("y", .missing), ("x", .selector "s")]) := by
  intro v path
  have inner : (Value.object [("y", .null), ("x", .string "s")]).Distinct := by
    refine .object (by decide) fun m member => ?_
    rcases List.mem_cons.mp member with rfl | later
    · exact .null
    · rw [List.mem_singleton.mp later]
      exact .string "s"
  have distinct : v.Distinct := by
    refine .object (by decide) fun m member => ?_
    rw [List.mem_singleton.mp member]
    exact inner
  obtain ⟨groups, same, _⟩ := lookup_of_forms [] "p" distinct path
  refine ⟨distinct, groups, by rfl, (same ?_).trans (by rfl)⟩
  intro first rest parts _
  have two : segments path = [['p'], ['z']] := by decide
  obtain ⟨_, rfl⟩ := List.cons.inj (parts.symm.trans two)
  exact ⟨rfl, fun _ _ => trivial⟩

end PageExtract
