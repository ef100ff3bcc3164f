import PageExtract.Proofs.Assembly

/-!
Shapes of results. The kind of what a plan yields is known before it is evaluated: text from a
selector, a list from a list, and from a mapping what its value, its fields or the page that it
follows a link to make of it. The theorems on successful evaluations say what a value is made of.
-/

set_option autoImplicit false

namespace PageExtract

open Json (Value)

namespace Json.Value

/-- The values within a value, itself among them. -/
inductive Occurs : Value → Value → Prop where
  | here {v : Value} : Occurs v v
  | item {w v : Value} {items : List Value} (member : v ∈ items) (inside : Occurs w v) :
      Occurs w (.array items)
  | field {w : Value} {m : String × Value} {members : List (String × Value)} (member : m ∈ members)
      (inside : Occurs w m.2) : Occurs w (.object members)

/-- No number and no boolean, no null among the items of an array, no key twice in an object. -/
def Plain : Value → Prop
  | .null => True
  | .bool _ => False
  | .number _ => False
  | .string _ => True
  | .array items => .null ∉ items
  | .object members => (Entries.keys members).Nodup

/-- Plain down to the last value in it. -/
def Tidy (v : Value) : Prop :=
  ∀ w, Occurs w v → w.Plain

theorem tidy_null : Tidy .null := by
  intro w occurs
  cases occurs
  trivial

theorem tidy_string (s : String) : Tidy (.string s) := by
  intro w occurs
  cases occurs
  trivial

theorem tidy_array {items : List Value} (full : .null ∉ items) (tidy : ∀ v ∈ items, v.Tidy) :
    Tidy (.array items) := by
  intro w occurs
  cases occurs with
  | here => exact full
  | item member inside => exact tidy _ member w inside

theorem tidy_object {members : List (String × Value)} (distinct : (Entries.keys members).Nodup)
    (tidy : ∀ m ∈ members, m.2.Tidy) : Tidy (.object members) := by
  intro w occurs
  cases occurs with
  | here => exact distinct
  | field member inside => exact tidy _ member w inside

theorem tidy_object_nil : Tidy (.object []) :=
  tidy_object .nil fun _ member => absurd member List.not_mem_nil

theorem Tidy.distinct {members : List (String × Value)} (tidy : Tidy (.object members)) :
    (Entries.keys members).Nodup := tidy _ .here

theorem Tidy.field {members : List (String × Value)} (tidy : Tidy (.object members))
    {m : String × Value} (member : m ∈ members) : m.2.Tidy :=
  fun w inside => tidy w (.field member inside)

end Json.Value

/-- A merge is of the kind of what came last. -/
theorem merge_kind (before result : Value) : (merge before result).kind = result.kind := by
  cases before <;> cases result <;> rfl

theorem merge_eq_of_kind_ne {before result : Value} (other : result.kind ≠ .object) :
    merge before result = result := by
  cases result with
  | object _ => exact absurd rfl other
  | _ => cases before <;> rfl

theorem merge_tidy {before result : Value} (tidy : before.Tidy) (also : result.Tidy) :
    (merge before result).Tidy := by
  cases before with
  | object base =>
      cases result with
      | object extra =>
          refine Value.tidy_object (Entries.nodup_keys_extend tidy.distinct extra) ?_
          intro m member
          rcases Entries.mem_extend member with old | new
          · exact tidy.field old
          · exact also.field new
      | _ => exact also
  | _ => exact also

/-- What an accessor takes is a text, or null where the element doesn't have it. -/
theorem Accessor.value_text (page : Page) (d : Html.Document) (n : Html.NodeId) (e : Html.Element)
    (how : Accessor) :
    how.value page d n e = .null ∨ ∃ text, how.value page d n e = .string text := by
  have optional : ∀ found : Option String, ofOption found = .null ∨
      ∃ text, ofOption found = .string text := by
    intro found
    cases found with
    | none => exact .inl rfl
    | some text => exact .inr ⟨text, rfl⟩
  cases how with
  | text => exact .inr ⟨_, rfl⟩
  | href => exact optional _
  | html => exact .inr ⟨_, rfl⟩
  | tag => exact .inr ⟨_, rfl⟩
  | attr name => exact optional _

theorem Visit.readElement_ok {v : Visit} {n : Html.NodeId} {how : Html.Element → Accessor}
    {value : Value} (success : (v.readElement n how).result = .ok value) :
    value = .null ∨ ∃ text, value = .string text := by
  simp only [readElement, Except.ok.injEq] at success
  subst success
  cases v.document.element? n with
  | none => exact .inl rfl
  | some e => exact Accessor.value_text v.page v.document n e (how e)

/-- The items of a list are those values of its elements that are not null. -/
theorem mem_items {rs : List (Run Value)} {vs : List Value} (success : items rs = .ok vs)
    {w : Value} (member : w ∈ vs) : w ≠ .null ∧ ∃ r ∈ rs, r.result = .ok w := by
  induction rs generalizing vs with
  | nil =>
      cases success
      cases member
  | cons first rest ih =>
      cases ended : first.result with
      | error e =>
          rw [items_cons_of_error ended] at success
          cases success
      | ok value =>
          simp only [items, ended] at success
          cases tail : items rest with
          | error e => rw [tail] at success; cases success
          | ok others =>
              have later : w ∈ others → w ≠ .null ∧ ∃ r ∈ first :: rest, r.result = .ok w := by
                intro inside
                obtain ⟨kept, r, among, came⟩ := ih tail inside
                exact ⟨kept, r, List.mem_cons_of_mem _ among, came⟩
              rw [tail] at success
              by_cases hole : value = .null
              · subst hole
                cases success
                exact later member
              · have all : vs = value :: others := by
                  cases value with
                  | null => exact absurd rfl hole
                  | _ => exact (Except.ok.inj success).symm
                rw [all] at member
                rcases List.mem_cons.mp member with rfl | inside
                · exact ⟨hole, first, List.mem_cons_self, ended⟩
                · exact later inside

namespace Plan

/-- The kind of what a plan yields, unless it is null. -/
def kind? : Plan → Option Value.Kind
  | .select _ => some .string
  | .each _ _ => some .array
  | .directed d _ => some (if d.value.isSome then .string else .object)
  | .following _ _ _ target => target.kind?
  | .fields _ => some .object
  | .malformed _ => none
  termination_by structural plan => plan

/-- What the items of the list come from, for a plan that yields a list. -/
def item? : Plan → Option Plan
  | .each _ item => some item
  | .following _ _ _ target => target.item?
  | _ => none
  termination_by structural plan => plan

theorem fallback_tidy (plan : Plan) : plan.fallback.Tidy := by
  induction plan with
  | select _ => exact Value.tidy_string ""
  | each _ _ => exact Value.tidy_array List.not_mem_nil fun _ => nofun
  | directed d fs _ =>
      rw [fallback]
      split
      · exact Value.tidy_string ""
      · exact Value.tidy_object_nil
  | following d fs link target _ ih =>
      rw [fallback]
      split
      · exact Value.tidy_string ""
      · exact ih
  | fields _ _ => exact Value.tidy_object_nil
  | malformed _ => exact Value.tidy_string ""

variable {fetch : Fetch} {policy : Policy} {v : Visit} {s : Scope} {value : Value}

/-- What a successful list is made of. -/
theorem evaluate_each_ok {elem : Option String} {item : Plan}
    (success : ((Plan.each elem item).evaluate fetch policy v s).result = .ok value) :
    ∃ vs, value = .array vs ∧ ∀ w ∈ vs, w ≠ .null ∧
      ∃ n, (item.evaluate fetch policy v (itemScope elem s n)).result = .ok w := by
  rw [evaluate_each] at success
  obtain ⟨ns, _, built⟩ := (Run.bind_ok_iff _ _ _).mp success
  obtain ⟨vs, all, rfl⟩ := (listed_ok_iff _ _).mp built
  refine ⟨vs, rfl, fun w member => ?_⟩
  obtain ⟨kept, r, among, came⟩ := mem_items all member
  obtain ⟨n, _, rfl⟩ := List.mem_map.mp among
  exact ⟨kept, n, came⟩

/-- What a successful mapping with directives holds before it is filtered. -/
theorem extract_ok {d : Directives} {fs : List (String × Plan)} {focus : Focus}
    (success : (d.extract fetch policy fs v focus).result = .ok value) :
    (d.value.isSome = true ∧ (value = .null ∨ ∃ text, value = .string text)) ∨
      (d.value = none ∧
        (FieldRun.assemble policy (fs.map (fieldRun fetch policy v (some focus)))).result =
          .ok value) := by
  simp only [Directives.extract] at success
  cases named : d.value with
  | some name =>
      rw [named] at success
      exact .inl ⟨rfl, Visit.readElement_ok success⟩
  | none =>
      rw [named, fieldRuns_eq_map] at success
      exact .inr ⟨rfl, success⟩

theorem evaluate_directed_ok {d : Directives} {fs : List (String × Plan)}
    (success : ((Plan.directed d fs).evaluate fetch policy v s).result = .ok value) :
    ∃ focus extracted, (v.narrow d.elem s).result = .ok focus ∧
      (d.extract fetch policy fs v focus).result = .ok extracted ∧
        (value = .null ∨ value = extracted) := by
  rw [evaluate_directed] at success
  obtain ⟨focus, narrowed, rest⟩ := (Run.bind_ok_iff _ _ _).mp success
  obtain ⟨extracted, came, gated⟩ := (Run.bind_ok_iff _ _ _).mp rest
  refine ⟨focus, extracted, narrowed, came, ?_⟩
  rw [Filter.gate_result] at gated
  split at gated
  · exact .inr (Except.ok.inj gated).symm
  · exact .inl (Except.ok.inj gated).symm

/-- A successful follow either was kept from its link by the filter, or merges what it held with
what the target yields on the linked page. -/
theorem evaluate_following_ok {d : Directives} {fs : List (String × Plan)} {link : Option String}
    {target : Plan}
    (success : ((Plan.following d fs link target).evaluate fetch policy v s).result = .ok value) :
    ∃ focus before, (v.narrow d.elem s).result = .ok focus ∧
      (d.extract fetch policy fs v focus).result = .ok before ∧
        (value = .null ∨ ∃ page result, (v.linked fetch policy focus link).result = .ok page ∧
          (target.evaluate fetch policy page none).result = .ok result ∧
            value = merge before result) := by
  rw [evaluate_following] at success
  obtain ⟨focus, narrowed, rest⟩ := (Run.bind_ok_iff _ _ _).mp success
  obtain ⟨before, came, gated⟩ := (Run.bind_ok_iff _ _ _).mp rest
  refine ⟨focus, before, narrowed, came, ?_⟩
  rw [Filter.gate_result] at gated
  split at gated
  · obtain ⟨page, arrived, merged⟩ := (Run.bind_ok_iff _ _ _).mp gated
    obtain ⟨result, yielded, same⟩ := (Run.map_ok_iff _ _ _).mp merged
    exact .inr ⟨page, result, arrived, yielded, same.symm⟩
  · exact .inl (Except.ok.inj gated).symm

end Plan

namespace FieldRun

/-- A mapping is an object, with whatever errors. -/
theorem assemble_object {policy : Policy} {fs : List FieldRun} {value : Value}
    (success : (assemble policy fs).result = .ok value) : ∃ members, value = .object members := by
  obtain ⟨_, rfl⟩ := of_assemble_ok success
  exact ⟨_, joined_eq _ _⟩

theorem complaints_tidy (policy : Policy) (fs : List FieldRun) :
    (Value.object (complaints policy fs)).Tidy := by
  rw [complaints]
  split
  · refine Value.tidy_object (Entries.nodup_keys_ofList _) fun m member => ?_
    obtain ⟨f, _, complained⟩ := List.mem_filterMap.mp (Entries.mem_ofList member)
    simp only [complaint?] at complained
    split at complained
    · cases complained
    · cases complained
      exact Value.tidy_string _
  · exact Value.tidy_object_nil

/-- A mapping is tidy if its fields and their defaults are. -/
theorem assemble_tidy {policy : Policy} {fs : List FieldRun} {value : Value}
    (success : (assemble policy fs).result = .ok value)
    (tidy : ∀ f ∈ fs, f.fallback.Tidy ∧ ∀ w, f.run.result = .ok w → w.Tidy) : value.Tidy := by
  obtain ⟨_, rfl⟩ := of_assemble_ok success
  have entries : (Value.object (Entries.ofList (fs.map (entry policy)))).Tidy := by
    refine Value.tidy_object (Entries.nodup_keys_ofList _) fun m member => ?_
    obtain ⟨f, among, rfl⟩ := List.mem_map.mp (Entries.mem_ofList member)
    obtain ⟨standIn, own⟩ := tidy f among
    simp only [entry]
    split
    · rename_i w came
      exact own w came
    · split
      · exact Value.tidy_string _
      · exact standIn
  rw [joined_eq]
  split
  · exact entries
  · refine Value.tidy_object (Entries.nodup_keys_insert _ _ entries.distinct) fun m member => ?_
    rcases Entries.mem_insert member with rfl | old
    · exact complaints_tidy policy fs
    · exact entries.field old

end FieldRun

namespace Plan

variable {fetch : Fetch} {policy : Policy}

/-- Nulls are dropped from lists, merges keep keys distinct, and what stands for a failed field is
tidy too. -/
theorem evaluate_tidy {plan : Plan} {v : Visit} {s : Scope} {value : Value}
    (success : (plan.evaluate fetch policy v s).result = .ok value) : value.Tidy := by
  have assembled : ∀ (fs : List (String × Plan)) (v : Visit) (s : Scope) (value : Value),
      (∀ f ∈ fs, ∀ {v s value}, (f.2.evaluate fetch policy v s).result = .ok value → value.Tidy) →
      (FieldRun.assemble policy (fs.map (fieldRun fetch policy v s))).result = .ok value →
      value.Tidy := by
    intro fs v s value tidy success
    refine FieldRun.assemble_tidy success fun g member => ?_
    obtain ⟨f, among, rfl⟩ := List.mem_map.mp member
    exact ⟨fallback_tidy f.2, fun w came => tidy f among came⟩
  have scalar : ∀ {value : Value}, value = .null ∨ (∃ text, value = .string text) → value.Tidy := by
    rintro value (rfl | ⟨text, rfl⟩)
    · exact Value.tidy_null
    · exact Value.tidy_string text
  have extracted : ∀ (d : Directives) (fs : List (String × Plan)) (v : Visit) (focus : Focus)
      (value : Value),
      (∀ f ∈ fs, ∀ {v s value}, (f.2.evaluate fetch policy v s).result = .ok value → value.Tidy) →
      (d.extract fetch policy fs v focus).result = .ok value → value.Tidy := by
    intro d fs v focus value tidy success
    rcases extract_ok success with ⟨_, read⟩ | ⟨_, built⟩
    · exact scalar read
    · exact assembled fs v (some focus) value tidy built
  induction plan generalizing v s value with
  | select selector =>
      rw [evaluate_select] at success
      obtain ⟨n, _, read⟩ := (Run.bind_ok_iff _ _ _).mp success
      exact scalar (Visit.readElement_ok read)
  | each elem item ih =>
      obtain ⟨vs, rfl, came⟩ := evaluate_each_ok success
      refine Value.tidy_array (fun hole => (came _ hole).1 rfl) fun w member => ?_
      obtain ⟨_, n, yielded⟩ := came w member
      exact ih yielded
  | directed d fs ih =>
      obtain ⟨focus, contents, _, came, rfl | rfl⟩ := evaluate_directed_ok success
      · exact Value.tidy_null
      · exact extracted d fs v focus _ ih came
  | following d fs link target ih next =>
      obtain ⟨focus, before, _, came, rfl | ⟨page, result, _, yielded, rfl⟩⟩ :=
        evaluate_following_ok success
      · exact Value.tidy_null
      · exact merge_tidy (extracted d fs v focus before ih came) (next yielded)
  | fields fs ih =>
      rw [evaluate_fields] at success
      exact assembled fs v s value ih success
  | malformed reason =>
      rw [evaluate_malformed] at success
      cases success

/-- The kind of a result is known from the plan; only the end of a chain of follows counts. -/
theorem evaluate_kind {plan : Plan} {v : Visit} {s : Scope} {value : Value}
    (success : (plan.evaluate fetch policy v s).result = .ok value) :
    value = .null ∨ plan.kind? = some value.kind := by
  induction plan generalizing v s value with
  | select selector =>
      rw [evaluate_select] at success
      obtain ⟨n, _, read⟩ := (Run.bind_ok_iff _ _ _).mp success
      rcases Visit.readElement_ok read with absent | ⟨text, rfl⟩
      · exact .inl absent
      · exact .inr rfl
  | each elem item _ =>
      obtain ⟨vs, rfl, _⟩ := evaluate_each_ok success
      exact .inr rfl
  | directed d fs _ =>
      obtain ⟨focus, contents, _, came, rejected | rfl⟩ := evaluate_directed_ok success
      · exact .inl rejected
      · rcases extract_ok came with ⟨named, absent | ⟨text, rfl⟩⟩ | ⟨valueless, built⟩
        · exact .inl absent
        · exact .inr (by simp [kind?, named, Value.kind])
        · obtain ⟨members, rfl⟩ := FieldRun.assemble_object built
          exact .inr (by simp [kind?, valueless, Value.kind])
  | following d fs link target _ next =>
      obtain ⟨focus, before, _, _, rejected | ⟨page, result, _, yielded, rfl⟩⟩ :=
        evaluate_following_ok success
      · exact .inl rejected
      · rw [kind?, merge_kind]
        rcases next yielded with rfl | known
        · exact .inl (merge_eq_of_kind_ne nofun)
        · exact .inr known
  | fields fs _ =>
      rw [evaluate_fields] at success
      obtain ⟨members, rfl⟩ := FieldRun.assemble_object success
      exact .inr rfl
  | malformed reason =>
      rw [evaluate_malformed] at success
      cases success

/-- The items of a list are of the kind of what they come from, the list itself or one that is found
at the end of a follow. -/
theorem evaluate_items {plan : Plan} {v : Visit} {s : Scope} {vs : List Value}
    (success : (plan.evaluate fetch policy v s).result = .ok (.array vs)) {item : Plan}
    (listed : plan.item? = some item) {w : Value} (member : w ∈ vs) :
    w ≠ .null ∧ item.kind? = some w.kind := by
  induction plan generalizing v s with
  | each elem each _ =>
      cases listed
      obtain ⟨_, same, came⟩ := evaluate_each_ok success
      cases same
      obtain ⟨kept, n, yielded⟩ := came w member
      exact ⟨kept, (evaluate_kind yielded).resolve_left kept⟩
  | following d fs link target _ next =>
      obtain ⟨focus, before, _, _, rejected | ⟨page, result, _, yielded, merged⟩⟩ :=
        evaluate_following_ok success
      · cases rejected
      · have isArray : result.kind = .array := by rw [← merge_kind before, ← merged]; rfl
        rw [merge_eq_of_kind_ne (by rw [isArray]; nofun)] at merged
        exact next (merged ▸ yielded) listed
  | _ => cases listed

end Plan

/-- What an evaluation yields is null or of the kind of its plan, and not null for a list or a
mapping of fields. The items of a list are of the kind of what they come from. Nowhere in it does an
array hold a null, and there is no number and no boolean in it. -/
theorem evaluate_shape (fetch : Fetch) (policy : Policy) (plan : Plan) (v : Visit) (s : Scope)
    (value : Value) (success : (plan.evaluate fetch policy v s).result = .ok value) :
    (value = .null ∨ plan.kind? = some value.kind) ∧
    ((∃ elem item, plan = .each elem item) ∨ (∃ fs, plan = .fields fs) → value ≠ .null) ∧
    (∀ item vs, plan.item? = some item → value = .array vs →
      ∀ w ∈ vs, w ≠ .null ∧ item.kind? = some w.kind) ∧
    (∀ vs, Value.Occurs (.array vs) value → .null ∉ vs) ∧
    ∀ w, Value.Occurs w value → w.kind ≠ .number ∧ w.kind ≠ .boolean := by
  have tidy := Plan.evaluate_tidy success
  refine ⟨Plan.evaluate_kind success, ?_, ?_, fun vs occurs => tidy _ occurs, ?_⟩
  · rintro (⟨elem, item, rfl⟩ | ⟨fs, rfl⟩)
    · obtain ⟨vs, rfl, _⟩ := Plan.evaluate_each_ok success
      exact nofun
    · rw [Plan.evaluate_fields] at success
      obtain ⟨members, rfl⟩ := FieldRun.assemble_object success
      exact nofun
  · rintro item vs listed rfl w member
    exact Plan.evaluate_items success listed member
  · intro w occurs
    have plain := tidy w occurs
    cases w with
    | bool _ => exact absurd plain id
    | number _ => exact absurd plain id
    | _ => exact ⟨nofun, nofun⟩

/-- The links of the page that its only link leads to; the first paragraph there has none. -/
theorem evaluate_shape_linkPage :
    let plan : Plan := .following ⟨some "p + p", none, none⟩ [] none
      (.each (some "p") (.directed ⟨none, some "href", none⟩ []))
    let fetch := (Fetcher.ofPages [("a:", linkPage)]).load
    let value : Value := .array [.string "a:"]
    (plan.evaluate fetch .standard (linkVisit 0) none).result = .ok value ∧
      plan.kind? = some value.kind ∧ ∀ w, Value.Occurs w value → w.kind ≠ .number := by
  intro plan fetch value
  have narrowed : ((linkVisit 0).narrow (some "p + p") none).result = .ok ⟨5, some "p + p"⟩ := by
    rfl
  have success : (plan.evaluate fetch .standard (linkVisit 0) none).result = .ok value := by
    rw [Plan.evaluate_following_of_linked narrowed rfl rfl
      (linked_linkPage .standard 0 (some "p + p") (by decide))]
    rfl
  obtain ⟨kind, _, _, _, texts⟩ :=
    evaluate_shape fetch .standard plan (linkVisit 0) none value success
  exact ⟨success, kind.resolve_left nofun, fun w occurs => (texts w occurs).1⟩

end PageExtract
