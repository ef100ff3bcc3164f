import PageExtract.Proofs.Assembly
import PageExtract.Proofs.Calls

/-!
Whether fatal failures survive. A mapping hands on a fatal failure of any of its fields, whatever
else failed, but a list ends with its first failure: where that is recoverable, a fatal one of a
later item is masked. A scrape fails fatally exactly if some fatal failure has no such list on the
way to it.
-/

set_option autoImplicit false

namespace PageExtract

open Json (Value)

/-- The first failure of a list is recoverable, and a later one is fatal. -/
inductive Masked : List (Run Value) → Prop where
  | here {first late : Run Value} {rest : List (Run Value)} (mild : first.IsRecoverable)
      (member : late ∈ rest) (fatal : late.IsFatal) : Masked (first :: rest)
  | later {first : Run Value} {rest : List (Run Value)} {v : Value}
      (success : first.result = .ok v) (tail : Masked rest) : Masked (first :: rest)

theorem Masked.listed_isRecoverable {rs : List (Run Value)} (masked : Masked rs) :
    (listed rs).IsRecoverable := by
  simp only [Run.IsRecoverable, listed_error_iff]
  induction masked with
  | here mild _ _ =>
      obtain ⟨e, failed, recoverable⟩ := mild
      exact ⟨e, items_cons_of_error failed _, recoverable⟩
  | later success _ ih =>
      obtain ⟨e, failed, recoverable⟩ := ih
      exact ⟨e, (items_cons_error_iff success _ e).mpr failed, recoverable⟩

theorem Masked.exists_isFatal {rs : List (Run Value)} (masked : Masked rs) :
    ∃ r ∈ rs, r.IsFatal := by
  induction masked with
  | here _ member fatal => exact ⟨_, List.mem_cons_of_mem _ member, fatal⟩
  | later _ _ ih =>
      obtain ⟨r, member, fatal⟩ := ih
      exact ⟨r, List.mem_cons_of_mem _ member, fatal⟩

theorem listed_isFatal_of_unmasked {rs : List (Run Value)} {r : Run Value} (member : r ∈ rs)
    (fatal : r.IsFatal) (unmasked : ¬ Masked rs) : (listed rs).IsFatal := by
  simp only [Run.IsFatal, listed_error_iff]
  induction rs with
  | nil => cases member
  | cons first rest ih =>
      rcases first.ok_or_recoverable_or_fatal with ⟨v, success⟩ | mild | ⟨e, failed, severe⟩
      · rcases List.mem_cons.mp member with rfl | inside
        · exact absurd success (fatal.not_ok v)
        · obtain ⟨e, failed, severe⟩ := ih inside fun masked => unmasked (.later success masked)
          exact ⟨e, (items_cons_error_iff success rest e).mpr failed, severe⟩
      · rcases List.mem_cons.mp member with rfl | inside
        · exact absurd mild fatal.not_recoverable
        · exact absurd (.here mild inside fatal) unmasked
      · exact ⟨e, items_cons_of_error failed rest, severe⟩

namespace FieldRun

/-- Where failures are isolated, a mapping fails fatally with any fatal failure of its fields. -/
theorem assemble_isFatal {policy : Policy} (lenient : policy.allowsErrors = true)
    {fs : List FieldRun} {f : FieldRun} (member : f ∈ fs) (fatal : f.run.IsFatal) :
    (assemble policy fs).IsFatal := by
  cases ended : (assemble policy fs).result with
  | error e =>
      obtain ⟨g, _, _, propagated⟩ := assemble_error ended
      refine ⟨e, ended, ?_⟩
      cases severity : e.isRecoverable with
      | false => rfl
      | true => simp [isolated, severity, lenient] at propagated
  | ok value =>
      -- a mapping that came out has isolated all failures of its fields
      obtain ⟨unended, _⟩ := of_assemble_ok ended
      obtain ⟨e, failed, severe⟩ := fatal
      have isolated := ending?_eq_none_iff.mp (unended f member) e failed
      rw [severe] at isolated
      cases isolated

end FieldRun

namespace Call

variable {fetch : Fetch} {policy : Policy}

/-- A list whose first failure is recoverable while a later item fails fatally. -/
def Masks (fetch : Fetch) (policy : Policy) (c : Call) : Prop :=
  ∃ elem item ns, c.plan = .each elem item ∧ (c.visit.selectAll elem c.scope).result = .ok ns ∧
    Masked (ns.map fun n =>
      Call.run fetch policy ⟨item, c.visit, Plan.itemScope elem c.scope n⟩)

theorem Masks.run_isRecoverable {c : Call} (masks : c.Masks fetch policy) :
    (c.run fetch policy).IsRecoverable := by
  obtain ⟨plan, v, s⟩ := c
  obtain ⟨elem, item, ns, rfl, matched, masked⟩ := masks
  obtain ⟨e, failed, recoverable⟩ := masked.listed_isRecoverable
  refine ⟨e, ?_, recoverable⟩
  simp only [run, Plan.evaluate_each]
  exact (Run.bind_error_iff _ _ _).mpr (.inr ⟨ns, matched, failed⟩)

theorem extract_isFatal (lenient : policy.allowsErrors = true) {d : Directives}
    (valueless : d.value = none) {fs : List (String × Plan)} {f : String × Plan} (member : f ∈ fs)
    {v : Visit} {focus : Focus}
    (fatal : (f.2.evaluate fetch policy v (some focus)).IsFatal) :
    (d.extract fetch policy fs v focus).IsFatal := by
  simp only [Directives.extract, valueless, Plan.fieldRuns_eq_map]
  exact FieldRun.assemble_isFatal lenient (List.mem_map_of_mem member) fatal

/-- A fatal failure goes up one call, unless the calling list masks it. -/
theorem Makes.run_isFatal (lenient : policy.allowsErrors = true) {c d : Call}
    (made : Makes fetch policy c d) (unmasked : ¬ c.Masks fetch policy)
    (fatal : (d.run fetch policy).IsFatal) : (c.run fetch policy).IsFatal := by
  cases made with
  | @item elem item v s ns n matched member =>
      simp only [run, Plan.evaluate_each, Run.bind_isFatal_iff]
      refine .inr ⟨ns, matched, listed_isFatal_of_unmasked (List.mem_map_of_mem member) fatal ?_⟩
      exact fun masked => unmasked ⟨elem, item, ns, rfl, matched, masked⟩
  | field member =>
      simp only [run, Plan.evaluate_fields]
      exact FieldRun.assemble_isFatal lenient (List.mem_map_of_mem member) fatal
  | directedField narrowed valueless member =>
      simp only [run, Plan.evaluate_directed, Run.bind_isFatal_iff]
      exact .inr ⟨_, narrowed, .inl (extract_isFatal lenient valueless member fatal)⟩
  | followingField narrowed valueless member =>
      simp only [run, Plan.evaluate_following, Run.bind_isFatal_iff]
      exact .inr ⟨_, narrowed, .inl (extract_isFatal lenient valueless member fatal)⟩
  | target narrowed extracted admitted arrived =>
      simp only [run, Plan.evaluate_following, Run.bind_isFatal_iff, Filter.gate_isFatal_iff,
        Run.map_isFatal_iff]
      exact .inr ⟨_, narrowed, .inr ⟨_, extracted, admitted, .inr ⟨_, arrived, fatal⟩⟩⟩

/-- A call that fails fatally although none of the calls that it makes does. -/
def Originates (fetch : Fetch) (policy : Policy) (c : Call) : Prop :=
  (c.run fetch policy).IsFatal ∧ ∀ d, c.Makes fetch policy d → ¬ (d.run fetch policy).IsFatal

/-- Calls that are reached without a list that masks a failure on the way. -/
def Exposes (fetch : Fetch) (policy : Policy) : Call → Call → Prop :=
  Relation.ReflTransGen fun c d => c.Makes fetch policy d ∧ ¬ c.Masks fetch policy

theorem Exposes.reaches {c d : Call} (exposed : c.Exposes fetch policy d) :
    c.Reaches fetch policy d := by
  induction exposed with
  | refl => exact .refl
  | tail _ step ih => exact ih.tail step.1

theorem Exposes.run_isFatal (lenient : policy.allowsErrors = true) {c d : Call}
    (exposed : c.Exposes fetch policy d) (fatal : (d.run fetch policy).IsFatal) :
    (c.run fetch policy).IsFatal := by
  induction exposed using Relation.ReflTransGen.head_induction_on with
  | refl => exact fatal
  | head step _ ih => exact step.1.run_isFatal lenient step.2 ih

/-- A fatal failure can be traced to where it comes from, always through calls that are unmasked:
a list that masks does not fail fatally. -/
theorem exists_originates_of_isFatal (c : Call) (fatal : (c.run fetch policy).IsFatal) :
    ∃ o, c.Exposes fetch policy o ∧ o.Originates fetch policy := by
  induction size : sizeOf c.plan using Nat.strongRecOn generalizing c with
  | _ n ih =>
      by_cases deeper : ∃ d, c.Makes fetch policy d ∧ (d.run fetch policy).IsFatal
      · obtain ⟨d, made, below⟩ := deeper
        have unmasked : ¬ c.Masks fetch policy :=
          fun masks => fatal.not_recoverable masks.run_isRecoverable
        have smaller : sizeOf d.plan < n := size ▸ made.sizeOf_lt
        obtain ⟨o, exposed, originates⟩ := ih _ smaller d below rfl
        exact ⟨o, .head ⟨made, unmasked⟩ exposed, originates⟩
      · exact ⟨c, .refl, fatal, fun d made below => deeper ⟨d, made, below⟩⟩

theorem Masks.exists_isFatal {c : Call} (masks : c.Masks fetch policy) :
    ∃ d, c.Makes fetch policy d ∧ (d.run fetch policy).IsFatal := by
  obtain ⟨plan, v, s⟩ := c
  obtain ⟨elem, item, ns, rfl, matched, masked⟩ := masks
  obtain ⟨r, member, fatal⟩ := masked.exists_isFatal
  obtain ⟨n, inside, rfl⟩ := List.mem_map.mp member
  exact ⟨_, .item matched inside, fatal⟩

end Call

/-- The calls of a scrape whose fatal failures become its own. -/
def ScrapeRequest.Exposes (fetcher : Fetcher) (sessions : Sessions) (r : ScrapeRequest)
    (c : Call) : Prop :=
  ∃ root, r.rootCall? fetcher sessions = some root ∧ root.Exposes fetcher.load r.policy c

theorem absorb_isFatal_iff (policy : Policy) (run : Run Value) :
    (absorb policy run).IsFatal ↔ run.IsFatal := by
  refine ⟨fun ⟨e, failed, severe⟩ => ?_, absorb_isFatal⟩
  simp only [absorb] at failed
  split at failed
  · split at failed
    · cases failed
    · exact ⟨e, failed, severe⟩
  · exact ⟨e, failed, severe⟩

theorem scrape_isFatal_iff {fetcher : Fetcher} {sessions : Sessions} {r : ScrapeRequest}
    {root : Call} (called : r.rootCall? fetcher sessions = some root) :
    (scrape fetcher sessions r).1.IsFatal ↔ (root.run fetcher.load r.policy).IsFatal := by
  obtain ⟨v, opened, rfl⟩ := Option.map_eq_some_iff.mp called
  have same := scrape_result_of_firstVisit fetcher sessions r v opened
  refine Iff.trans ?_ (absorb_isFatal_iff r.policy _)
  simp only [Run.IsFatal, same, Call.run]

/-- Where failures are isolated, a fatal failure anywhere makes a scrape fail fatally exactly if one
of those there are comes from an exposed call. It makes every call around it fail fatally exactly if
no list masks. -/
theorem scrape_isFatal_of_exposed (fetcher : Fetcher) (sessions : Sessions) (r : ScrapeRequest)
    (lenient : r.policy.allowsErrors = true) :
    ((∀ d, r.Reaches fetcher sessions d → (d.run fetcher.load r.policy).IsFatal →
        (scrape fetcher sessions r).1.IsFatal) ↔
      ((∃ d, r.Reaches fetcher sessions d ∧ d.Originates fetcher.load r.policy) →
        ∃ d, r.Exposes fetcher sessions d ∧ d.Originates fetcher.load r.policy)) ∧
    ((∀ c d, r.Reaches fetcher sessions c → c.Reaches fetcher.load r.policy d →
        (d.run fetcher.load r.policy).IsFatal → (c.run fetcher.load r.policy).IsFatal) ↔
      ∀ c, r.Reaches fetcher sessions c → ¬ c.Masks fetcher.load r.policy) := by
  constructor
  · constructor
    · rintro claim ⟨d, ⟨root, called, reached⟩, originates⟩
      have fatal := claim d ⟨root, called, reached⟩ originates.1
      obtain ⟨o, exposed, origin⟩ :=
        Call.exists_originates_of_isFatal root ((scrape_isFatal_iff called).mp fatal)
      exact ⟨o, ⟨root, called, exposed⟩, origin⟩
    · rintro condition d ⟨root, called, reached⟩ fatal
      obtain ⟨o, below, origin⟩ := Call.exists_originates_of_isFatal d fatal
      obtain ⟨e, ⟨top, again, exposed⟩, originates⟩ :=
        condition ⟨o, ⟨root, called, reached.trans below.reaches⟩, origin⟩
      exact (scrape_isFatal_iff again).mpr (exposed.run_isFatal lenient originates.1)
  · constructor
    · intro claim c reached masks
      obtain ⟨d, made, fatal⟩ := masks.exists_isFatal
      exact (claim c d reached (.single made) fatal).not_recoverable masks.run_isRecoverable
    · rintro unmasked c d ⟨root, called, reached⟩ below fatal
      induction below using Relation.ReflTransGen.head_induction_on with
      | refl => exact fatal
      | @head c e made _ ih =>
          exact made.run_isFatal lenient (unmasked c ⟨root, called, reached⟩)
            (ih (reached.tail made))

/-- A mapping with a missing field and, after it, a fatal one. -/
theorem scrape_isFatal_linkPage :
    let data : Spec := .map [("title", .selector "a"), ("price", .literal (.bool true))]
    let policy : Policy := { Policy.standard with testing := true }
    policy.allowsErrors = true ∧
      (scrape (.ofPages []) .empty (linkRequest data policy)).1.IsFatal := by
  intro data policy
  let r := linkRequest data policy
  let root : Call := ⟨r.plan, linkVisit 0, none⟩
  let price : Call := ⟨.malformed (.literal (.bool true)), linkVisit 0, none⟩
  have called : r.rootCall? (.ofPages []) .empty = some root := by
    rw [ScrapeRequest.rootCall?, firstVisit_linkRequest]
    rfl
  have made : root.Makes (Fetcher.ofPages []).load policy price :=
    .field (List.mem_cons_of_mem _ List.mem_cons_self)
  have unmasked : ¬ root.Masks (Fetcher.ofPages []).load policy := by
    rintro ⟨elem, item, ns, isList, _⟩
    cases isList
  have fatal : (price.run (Fetcher.ofPages []).load policy).IsFatal := ⟨_, rfl, rfl⟩
  have origin : price.Originates (Fetcher.ofPages []).load policy :=
    ⟨fatal, fun d further => by simp only [price] at further; cases further⟩
  exact ⟨rfl, (scrape_isFatal_of_exposed (.ofPages []) .empty r rfl).1.mpr
    (fun _ => ⟨price, ⟨root, called, .single ⟨made, unmasked⟩⟩, origin⟩)
    price ⟨root, called, .single made⟩ fatal⟩

/-- The first paragraph has no link to follow. That ends the list with a recoverable failure, which
`testing` turns into a value, though the target can't be evaluated on the page that the second one
leads to. -/
theorem scrape_masks_linkPage :
    let target : Spec := .map [("_value", .selector "content")]
    let data : Spec := .list [.map [("_elem", .selector "p"), ("_follow", target)]]
    let policy : Policy := { Policy.standard with testing := true }
    let fetcher : Fetcher := .ofPages [("a:", linkPage)]
    policy.allowsErrors = true ∧
      (∃ d, (linkRequest data policy).Reaches fetcher .empty d ∧
        (d.run fetcher.load policy).IsFatal) ∧
      (scrape fetcher .empty (linkRequest data policy)).1.result =
        .ok (.string "No link to follow in 'p'") ∧
      ¬ (scrape fetcher .empty (linkRequest data policy)).1.IsFatal := by
  have matched : ((linkVisit 0).selectAll (some "p") none).result = .ok [4, 5] := by rfl
  dsimp only
  refine ⟨rfl, ⟨⟨.following ⟨none, none, none⟩ [] none
    (.directed ⟨none, some "content", none⟩ []), linkVisit 0, some ⟨5, some "p"⟩⟩,
    ⟨_, ?called, .single (.item matched (List.mem_cons_of_mem _ List.mem_cons_self))⟩,
    ⟨.configuration .missingElement, by rfl, rfl⟩⟩, ?value⟩
  case called =>
    rw [ScrapeRequest.rootCall?, firstVisit_linkRequest]
    rfl
  case value =>
    rw [and_iff_left_of_imp Run.not_isFatal_of_ok,
      scrape_result_of_firstVisit _ _ _ _ (firstVisit_linkRequest _ _ _ _)]
    rfl

end PageExtract
