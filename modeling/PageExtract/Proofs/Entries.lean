import PageExtract.Entries

/-!
Laws of ordered entries. Inserting keeps keys distinct and the order in which they came first, so
new keys are appended; extending by further entries lets these win where they share a key.
-/

set_option autoImplicit false

namespace PageExtract

namespace Entries

universe u
variable {α : Type u}

theorem mem_of_get? {key : String} {v : α} {es : List (String × α)}
    (found : get? key es = some v) : (key, v) ∈ es := by
  induction es with
  | nil => cases found
  | cons e rest ih =>
      obtain ⟨k, w⟩ := e
      by_cases same : k = key
      · simp only [get?, same, ↓reduceIte, Option.some.injEq] at found
        rw [same, found]
        exact List.mem_cons_self
      · simp only [get?, same, ↓reduceIte] at found
        exact List.mem_cons_of_mem _ (ih found)

theorem erase_cons_self (key : String) (v : α) (rest : List (String × α)) :
    erase key ((key, v) :: rest) = erase key rest := by
  simp only [erase, ne_eq, not_true_eq_false, decide_false, Bool.false_eq_true,
    not_false_eq_true, List.filter_cons_of_neg]

theorem erase_cons_of_ne {k key : String} (differs : k ≠ key) (v : α)
    (rest : List (String × α)) : erase key ((k, v) :: rest) = (k, v) :: erase key rest := by
  simp [erase, differs]

theorem erase_append (key : String) (es others : List (String × α)) :
    erase key (es ++ others) = erase key es ++ erase key others := List.filter_append es others

theorem get?_erase_self (key : String) (es : List (String × α)) :
    get? key (erase key es) = none := by
  induction es with
  | nil => rfl
  | cons e rest ih =>
      obtain ⟨k, v⟩ := e
      by_cases same : k = key
      · rw [same, erase_cons_self, ih]
      · rw [erase_cons_of_ne same]
        simp only [get?, same, ↓reduceIte, ih]

theorem get?_erase_of_ne {key other : String} (differs : other ≠ key) (es : List (String × α)) :
    get? other (erase key es) = get? other es := by
  induction es with
  | nil => rfl
  | cons e rest ih =>
      obtain ⟨k, v⟩ := e
      by_cases same : k = key
      · have skipped : k ≠ other := fun named => differs (named.symm.trans same)
        rw [same, erase_cons_self, ih]
        simp only [get?, ← same, skipped, ↓reduceIte]
      · rw [erase_cons_of_ne same]
        simp only [get?, ih]

@[simp] theorem keys_nil : keys ([] : List (String × α)) = [] := rfl

@[simp] theorem keys_cons (key : String) (v : α) (rest : List (String × α)) :
    keys ((key, v) :: rest) = key :: keys rest := rfl

@[simp] theorem keys_append (es others : List (String × α)) :
    keys (es ++ others) = keys es ++ keys others := List.map_append

theorem mem_keys_of_mem {e : String × α} {es : List (String × α)} (member : e ∈ es) :
    e.1 ∈ keys es := List.mem_map_of_mem member

theorem get?_eq_none_iff {key : String} {es : List (String × α)} :
    get? key es = none ↔ key ∉ keys es := by
  induction es with
  | nil => simp [get?]
  | cons e rest ih =>
      obtain ⟨k, v⟩ := e
      by_cases same : k = key
      · simp [get?, same]
      · simp [get?, same, Ne.symm same, ih]

/-- An entry is passed by where another key is looked up. -/
theorem get?_middle_of_ne {key other : String} (differs : key ≠ other) (before : List (String × α))
    (v : α) (after : List (String × α)) :
    get? other (before ++ (key, v) :: after) = get? other (before ++ after) := by
  induction before with
  | nil => simp only [List.nil_append, get?, differs, ↓reduceIte]
  | cons e rest ih => simp only [List.cons_append, get?, ih]

/-- An entry is found by its key where no earlier one has it. -/
theorem get?_middle_self {key : String} {before : List (String × α)} (first : key ∉ keys before)
    (v : α) (after : List (String × α)) : get? key (before ++ (key, v) :: after) = some v := by
  induction before with
  | nil => simp only [List.nil_append, get?, ↓reduceIte]
  | cons e rest ih =>
      obtain ⟨k, w⟩ := e
      rw [keys_cons, List.mem_cons, not_or] at first
      have differs : k ≠ key := Ne.symm first.1
      simp only [List.cons_append, get?, differs, ↓reduceIte, ih first.2]

/-- Of distinct keys each finds its own value. -/
theorem get?_of_mem {key : String} {v : α} {es : List (String × α)} (distinct : (keys es).Nodup)
    (member : (key, v) ∈ es) : get? key es = some v := by
  induction es with
  | nil => cases member
  | cons e rest ih =>
      obtain ⟨k, w⟩ := e
      obtain ⟨fresh, distinctRest⟩ := List.nodup_cons.mp distinct
      rcases List.mem_cons.mp member with here | later
      · cases here
        simp only [get?, ↓reduceIte]
      · have known : key ∈ keys rest := mem_keys_of_mem later
        have differs : k ≠ key := fun named => fresh (named ▸ known)
        simp only [get?, differs, ↓reduceIte, ih distinctRest later]

theorem insert_of_notMem {key : String} (value : α) {es : List (String × α)}
    (fresh : key ∉ keys es) : insert key value es = es ++ [(key, value)] := by
  induction es with
  | nil => rfl
  | cons e rest ih =>
      obtain ⟨k, v⟩ := e
      rw [keys_cons, List.mem_cons, not_or] at fresh
      have differs : k ≠ key := Ne.symm fresh.1
      simp only [insert, differs, ↓reduceIte, ih fresh.2, List.cons_append]

theorem erase_of_notMem {key : String} {es : List (String × α)} (absent : key ∉ keys es) :
    erase key es = es := by
  rw [erase, List.filter_eq_self]
  intro e member
  have differs : e.1 ≠ key := fun named => absent (named ▸ mem_keys_of_mem member)
  exact decide_eq_true differs

/-- Taking out an entry that was new leaves what was there before it. -/
theorem erase_insert_of_notMem {key : String} (value : α) {es : List (String × α)}
    (fresh : key ∉ keys es) : erase key (insert key value es) = es := by
  have alone : erase key [(key, value)] = [] := erase_cons_self key value []
  rw [insert_of_notMem value fresh, erase, List.filter_append]
  change erase key es ++ erase key [(key, value)] = es
  rw [alone, List.append_nil, erase_of_notMem fresh]

theorem keys_insert_of_mem {key : String} (value : α) {es : List (String × α)}
    (known : key ∈ keys es) : keys (insert key value es) = keys es := by
  induction es with
  | nil => cases known
  | cons e rest ih =>
      obtain ⟨k, v⟩ := e
      by_cases same : k = key
      · simp [insert, same]
      · have later : key ∈ keys rest := by
          rcases List.mem_cons.mp known with first | later
          · exact absurd first.symm same
          · exact later
        simp only [insert, same, ↓reduceIte, keys_cons, ih later]

theorem mem_keys_insert {key other : String} (value : α) {es : List (String × α)} :
    other ∈ keys (insert key value es) ↔ other = key ∨ other ∈ keys es := by
  by_cases known : key ∈ keys es
  · rw [keys_insert_of_mem value known]
    constructor
    · exact Or.inr
    · rintro (rfl | member)
      · exact known
      · exact member
  · rw [insert_of_notMem value known]
    simp [or_comm]

theorem nodup_keys_insert (key : String) (value : α) {es : List (String × α)}
    (distinct : (keys es).Nodup) : (keys (insert key value es)).Nodup := by
  by_cases known : key ∈ keys es
  · rw [keys_insert_of_mem value known]
    exact distinct
  · rw [insert_of_notMem value known, keys_append, List.nodup_append]
    refine ⟨distinct, by simp, ?_⟩
    intro k member other last same
    rw [keys_cons, keys_nil, List.mem_singleton] at last
    exact known (last ▸ same ▸ member)

theorem mem_insert {key : String} {value : α} {es : List (String × α)} {e : String × α}
    (member : e ∈ insert key value es) : e = (key, value) ∨ e ∈ es := by
  induction es with
  | nil => exact .inl (List.mem_singleton.mp member)
  | cons first rest ih =>
      obtain ⟨k, v⟩ := first
      by_cases same : k = key
      · simp only [insert, same, ↓reduceIte, List.mem_cons] at member ⊢
        rcases member with here | later
        · exact .inl here
        · exact .inr (.inr later)
      · simp only [insert, same, ↓reduceIte, List.mem_cons] at member ⊢
        rcases member with here | later
        · exact .inr (.inl here)
        · rcases ih later with new | old
          · exact .inl new
          · exact .inr (.inr old)

@[simp] theorem extend_nil (es : List (String × α)) : extend es [] = es := rfl

@[simp] theorem extend_cons (es : List (String × α)) (key : String) (v : α)
    (more : List (String × α)) : extend es ((key, v) :: more) = extend (insert key v es) more := rfl

theorem mem_keys_extend {key : String} {es more : List (String × α)} :
    key ∈ keys (extend es more) ↔ key ∈ keys es ∨ key ∈ keys more := by
  induction more generalizing es with
  | nil => simp
  | cons e rest ih =>
      obtain ⟨k, v⟩ := e
      rw [extend_cons, ih, mem_keys_insert, keys_cons, List.mem_cons, or_comm (a := key = k),
        or_assoc]

theorem nodup_keys_extend {es : List (String × α)} (distinct : (keys es).Nodup)
    (more : List (String × α)) : (keys (extend es more)).Nodup := by
  induction more generalizing es with
  | nil => exact distinct
  | cons e rest ih => exact ih (nodup_keys_insert e.1 e.2 distinct)

theorem mem_extend {es more : List (String × α)} {e : String × α} (member : e ∈ extend es more) :
    e ∈ es ∨ e ∈ more := by
  induction more generalizing es with
  | nil => exact .inl member
  | cons first rest ih =>
      rcases ih member with early | late
      · rcases mem_insert early with rfl | old
        · exact .inr List.mem_cons_self
        · exact .inl old
      · exact .inr (List.mem_cons_of_mem _ late)

/-- A key that no further entry has keeps its value. -/
theorem get?_extend_of_notMem {key : String} {more : List (String × α)}
    (absent : key ∉ keys more) (es : List (String × α)) :
    get? key (extend es more) = get? key es := by
  induction more generalizing es with
  | nil => rfl
  | cons e rest ih =>
      rw [keys_cons, List.mem_cons, not_or] at absent
      rw [extend_cons, ih absent.2, get?_insert_of_ne absent.1]

theorem nodup_keys_ofList (es : List (String × α)) : (keys (ofList es)).Nodup := by
  have blank : (keys ([] : List (String × α))).Nodup := List.nodup_nil
  exact nodup_keys_extend blank es

theorem mem_ofList {es : List (String × α)} {e : String × α} (member : e ∈ ofList es) : e ∈ es :=
  (mem_extend member).resolve_left List.not_mem_nil

theorem mem_keys_ofList {key : String} {es : List (String × α)} :
    key ∈ keys (ofList es) ↔ key ∈ keys es := by
  rw [ofList, mem_keys_extend, keys_nil]
  exact or_iff_right List.not_mem_nil

/-- Entries with new keys are appended as they are. -/
theorem extend_of_fresh {es more : List (String × α)} (distinct : (keys more).Nodup)
    (fresh : ∀ key ∈ keys more, key ∉ keys es) : extend es more = es ++ more := by
  induction more generalizing es with
  | nil => simp
  | cons e rest ih =>
      obtain ⟨k, v⟩ := e
      obtain ⟨first, distinctRest⟩ := List.nodup_cons.mp distinct
      rw [extend_cons, insert_of_notMem v (fresh k List.mem_cons_self), ih distinctRest]
      · rw [List.append_assoc, List.singleton_append]
      · intro key later known
        rw [keys_append, keys_cons, keys_nil, List.mem_append, List.mem_singleton] at known
        rcases known with old | rfl
        · exact fresh key (List.mem_cons_of_mem _ later) old
        · exact first later

theorem ofList_of_distinct {es : List (String × α)} (distinct : (keys es).Nodup) : ofList es = es :=
  extend_of_fresh distinct fun _ _ => List.not_mem_nil

/-- The further entries win over those that were there. -/
theorem get?_extend (key : String) {es more : List (String × α)}
    (distinct : (keys more).Nodup) :
    get? key (extend es more) = (get? key more).or (get? key es) := by
  induction more generalizing es with
  | nil => rfl
  | cons e rest ih =>
      obtain ⟨k, v⟩ := e
      obtain ⟨first, distinctRest⟩ := List.nodup_cons.mp distinct
      rw [extend_cons, ih distinctRest]
      by_cases same : k = key
      · have absent : get? key rest = none := get?_eq_none_iff.mpr (same ▸ first)
        simp [get?, same, absent, get?_insert_self]
      · rw [get?_insert_of_ne (Ne.symm same)]
        simp only [get?, same, ↓reduceIte]

/-- Keys that are new come after those that were there, in the order in which they came first. -/
theorem keys_extend (es more : List (String × α)) :
    keys (extend es more) =
      keys es ++ ((keys more).filter fun key => key ∉ keys es).eraseDups := by
  induction more generalizing es with
  | nil => simp
  | cons e rest ih =>
      obtain ⟨k, v⟩ := e
      rw [extend_cons, ih, keys_cons]
      by_cases known : k ∈ keys es
      · rw [keys_insert_of_mem v known, List.filter_cons_of_neg (by simpa using known)]
      · rw [insert_of_notMem v known, List.filter_cons_of_pos (by simpa using known),
          List.eraseDups_cons, List.filter_filter, keys_append, List.append_assoc, keys_cons,
          keys_nil, List.singleton_append]
        congr 3
        refine List.filter_congr fun key _ => ?_
        simp only [List.mem_append, List.mem_singleton, not_or]
        grind

/-- The last of the further entries with a key wins. -/
theorem get?_extend_last {key : String} {after : List (String × α)} (last : key ∉ keys after)
    (es before : List (String × α)) (v : α) :
    get? key (extend es (before ++ (key, v) :: after)) = some v := by
  rw [extend, List.foldl_append]
  change get? key (extend (insert key v (extend es before)) after) = some v
  exact (get?_extend_of_notMem last _).trans (get?_insert_self key v _)

@[simp] theorem keys_map {β : Type} (f : α → β) (es : List (String × α)) :
    keys (es.map fun e => (e.1, f e.2)) = keys es := List.map_map

/-- A lookup where every value was mapped. -/
theorem get?_map {β : Type} (f : α → β) (key : String) (es : List (String × α)) :
    get? key (es.map fun e => (e.1, f e.2)) = (get? key es).map f := by
  induction es with
  | nil => rfl
  | cons e rest ih =>
      simp only [List.map_cons, get?]
      split
      · rfl
      · exact ih

/-- Where keys are distinct, the order of entries doesn't count for a lookup. -/
theorem get?_of_perm {es others : List (String × α)} (distinct : (keys es).Nodup)
    (permuted : es.Perm others) (key : String) : get? key others = get? key es := by
  have also : (keys others).Nodup := (permuted.map Prod.fst).nodup distinct
  cases found : get? key es with
  | none =>
      rw [get?_eq_none_iff] at found ⊢
      exact fun known => found ((permuted.map Prod.fst).mem_iff.mpr known)
  | some v => exact get?_of_mem also (permuted.mem_iff.mp (mem_of_get? found))

/-! ## Sorted entries -/

theorem get?_insertSorted (key : String) (v : α) (es : List (String × α)) (other : String) :
    get? other (insertSorted key v es) = if key = other then some v else get? other es := by
  induction es with
  | nil => rfl
  | cons e rest ih =>
      obtain ⟨k, w⟩ := e
      simp only [insertSorted]
      split
      · rename_i same
        rw [← same]
        simp only [get?]
        split <;> rfl
      · rename_i differs
        split
        · simp only [get?]
        · simp only [get?, ih]
          split
          · rename_i named
            have elsewhere : ¬ key = other := fun here => differs (here.trans named.symm)
            rw [if_neg elsewhere]
          · rfl

theorem insertSorted_perm {key : String} (v : α) {es : List (String × α)} (fresh : key ∉ keys es) :
    (insertSorted key v es).Perm ((key, v) :: es) := by
  induction es with
  | nil => exact .refl _
  | cons e rest ih =>
      obtain ⟨k, w⟩ := e
      rw [keys_cons, List.mem_cons, not_or] at fresh
      simp only [insertSorted, fresh.1, ↓reduceIte]
      split
      · exact .refl _
      · exact ((ih fresh.2).cons (k, w)).trans (.swap _ _ _)

/-- Entries with distinct keys are all kept where they are sorted. -/
theorem sorted_perm {es : List (String × α)} (distinct : (keys es).Nodup) :
    (sorted es).Perm es := by
  -- the entries that are sorted already stand before those that are still to come
  suffices whole : ∀ acc : List (String × α), (keys (acc ++ es)).Nodup →
      (es.foldl (fun acc e => insertSorted e.1 e.2 acc) acc).Perm (acc ++ es) from whole [] distinct
  clear distinct
  induction es with
  | nil =>
      intro acc _
      rw [List.append_nil]
      exact .refl acc
  | cons e rest ih =>
      intro acc distinct
      have fresh : e.1 ∉ keys acc := by
        rw [keys_append, List.nodup_append] at distinct
        exact fun known => distinct.2.2 e.1 known e.1 List.mem_cons_self rfl
      have placed : (insertSorted e.1 e.2 acc ++ rest).Perm (acc ++ e :: rest) :=
        ((insertSorted_perm e.2 fresh).append_right rest).trans List.perm_middle.symm
      have next : (keys (insertSorted e.1 e.2 acc ++ rest)).Nodup :=
        (placed.map Prod.fst).symm.nodup distinct
      exact (ih _ next).trans placed

end Entries

end PageExtract
