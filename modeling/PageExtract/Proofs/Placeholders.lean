import Mathlib
import PageExtract.Proofs.Mappings
import PageExtract.Proofs.Pieces
import PageExtract.Scrape

/-!
Specs whose placeholders are filled in. Parameters without opening braces in their strings leave no
token behind, so such a spec takes no further parameters. Main result: `substitute_leaves_no_token`.
-/

set_option autoImplicit false

namespace PageExtract

open Json (Value)
open Substitution

namespace Json

/-- Written with digits, signs, points and the letter of an exponent. -/
def Numeral (s : List Char) : Prop :=
  ∀ c ∈ s, c.isDigit = true ∨ c ∈ ['-', '+', '.', 'e']

@[simp] theorem numeral_nil : Numeral [] := fun _ member => absurd member List.not_mem_nil

@[simp] theorem numeral_cons {c : Char} {s : List Char} : Numeral (c :: s) ↔
    (c.isDigit = true ∨ c ∈ ['-', '+', '.', 'e']) ∧ Numeral s := List.forall_mem_cons

@[simp] theorem numeral_append {s t : List Char} : Numeral (s ++ t) ↔ Numeral s ∧ Numeral t :=
  List.forall_mem_append

theorem numeral_toDigits (n : Nat) : Numeral (Nat.toDigits 10 n) := fun _ member =>
  .inl (Nat.isDigit_of_mem_toDigits (by decide) (by decide) member)

theorem numeral_zeros (n : Nat) : Numeral (List.replicate n '0') := by
  intro c member
  rw [List.eq_of_mem_replicate member]
  exact .inl rfl

namespace Number

theorem numeral_positional {digits : List Char} (numeral : Numeral digits) (point : Int) :
    Numeral (positional digits point) := by
  have front : ∀ n, Numeral (digits.take n) := fun _ c member =>
    numeral c (List.mem_of_mem_take member)
  have back : ∀ n, Numeral (digits.drop n) := fun _ c member =>
    numeral c (List.mem_of_mem_drop member)
  simp only [positional]
  split
  · simp [numeral_zeros, numeral]
  · split
    · simp [numeral_zeros, numeral]
    · simp [front, back]

theorem numeral_scientific {digits : List Char} (numeral : Numeral digits) (exponent : Int) :
    Numeral (scientific digits exponent) := by
  have sign : Numeral ((if exponent < 0 then '-' else '+') :: Nat.toDigits 10 exponent.natAbs) := by
    split
    · simp [numeral_toDigits]
    · simp [numeral_toDigits]
  match digits, numeral with
  | [], _ => simpa [scientific] using sign
  | [d], one => simpa [scientific, sign] using one
  | d :: e :: rest, more => simpa [scientific, sign] using more

theorem numeral_realText (x : Binary64) : Numeral (realText x) := by
  -- the magnitude is the same under either sign
  suffices magnitude : ∀ m, Numeral m → Numeral (if x.negative then '-' :: m else m) by
    apply magnitude
    split
    · simp
    · dsimp only
      split
      · exact numeral_positional (numeral_toDigits _) _
      · exact numeral_scientific (numeral_toDigits _) _
  intro m numeral
  split
  · simp [numeral]
  · exact numeral

theorem numeral_chars (n : Number) : Numeral n.chars := by
  cases n with
  | whole n =>
      rw [chars]
      split
      · simp [numeral_toDigits]
      · exact numeral_toDigits _
  | real x => exact numeral_realText x

end Number

/-- There is no opening brace in the strings of the value; its keys may have some. -/
inductive Value.Braceless : Value → Prop where
  | null : Braceless .null
  | bool (b : Bool) : Braceless (.bool b)
  | number (n : Number) : Braceless (.number n)
  | string {s : String} (bare : '\x7b' ∉ s.toList) : Braceless (.string s)
  | array {items : List Value} (each : ∀ v ∈ items, Braceless v) : Braceless (.array items)
  | object {members : List (String × Value)} (each : ∀ m ∈ members, Braceless m.2) :
      Braceless (.object members)

end Json

namespace Spec

/-- There is no opening brace in the selectors and patterns of the spec, and its literals are
numbers and booleans. -/
inductive Braceless : Spec → Prop where
  | missing : Braceless .missing
  | selector {s : String} (bare : '\x7b' ∉ s.toList) : Braceless (.selector s)
  | list {items : List Spec} (each : ∀ s ∈ items, Braceless s) : Braceless (.list items)
  | map {entries : List (String × Spec)} (each : ∀ e ∈ entries, Braceless e.2) :
      Braceless (.map entries)
  | bool (b : Bool) : Braceless (.literal (.bool b))
  | number (n : Json.Number) : Braceless (.literal (.number n))
  | pattern {p : Pattern} (bare : '\x7b' ∉ p.source.toList) : Braceless (.pattern p)
  | predicate (test : Value → Bool) : Braceless (.predicate test)

/-- The specs within a spec, itself among them. -/
inductive Part : Spec → Spec → Prop where
  | here {s : Spec} : Part s s
  | item {part s : Spec} {items : List Spec} (member : s ∈ items) (inside : Part part s) :
      Part part (.list items)
  | entry {part : Spec} {e : String × Spec} {entries : List (String × Spec)}
      (member : e ∈ entries) (inside : Part part e.2) : Part part (.map entries)

/-- No selector in the spec has a token in it. -/
def Tokenless (s : Spec) : Prop :=
  ∀ text, Part (.selector text) s → ¬ HasToken text.toList

theorem ofItems_eq_map (items : List Value) : ofItems items = items.map ofValue := by
  induction items with
  | nil => rfl
  | cons v rest ih => rw [ofItems, ih, List.map_cons]

theorem ofMembers_eq_map (members : List (String × Value)) :
    ofMembers members = members.map fun m => (m.1, ofValue m.2) := by
  induction members with
  | nil => rfl
  | cons m rest ih => rw [ofMembers, ih, List.map_cons]

theorem substituteItems_eq_map (params : Params) (items : List Spec) :
    substituteItems params items = items.map (substitute params) := by
  induction items with
  | nil => rfl
  | cons s rest ih => rw [substituteItems, ih, List.map_cons]

theorem substituteEntries_eq_map (params : Params) (entries : List (String × Spec)) :
    substituteEntries params entries = entries.map fun e => (e.1, e.2.substitute params) := by
  induction entries with
  | nil => rfl
  | cons e rest ih => rw [substituteEntries, ih, List.map_cons]

theorem ofValue_braceless {v : Value} (braceless : v.Braceless) : (ofValue v).Braceless := by
  induction braceless with
  | null => exact .missing
  | bool b => exact .bool b
  | number n => exact .number n
  | string bare => exact .selector bare
  | array _ ih =>
      rw [ofValue, ofItems_eq_map]
      refine .list ?_
      intro s member
      obtain ⟨v, inside, rfl⟩ := List.mem_map.mp member
      exact ih v inside
  | object _ ih =>
      rw [ofValue, ofMembers_eq_map]
      refine .map ?_
      intro e member
      obtain ⟨m, inside, rfl⟩ := List.mem_map.mp member
      exact ih m inside

theorem get?_braceless {s child : Spec} {key : String} (braceless : s.Braceless)
    (found : s.get? key = some child) : child.Braceless := by
  cases braceless with
  | map each => exact each _ (Entries.mem_of_get? found)
  | _ => cases found

end Spec

namespace Param

/-- There is no opening brace in the strings of the parameter. -/
inductive Braceless : Param → Prop where
  | value {v : Value} (braceless : v.Braceless) : Braceless (.value v)
  | pattern {p : Pattern} (bare : '\x7b' ∉ p.source.toList) : Braceless (.pattern p)
  | predicate (test : Value → Bool) : Braceless (.predicate test)
  | spec {s : Spec} (braceless : s.Braceless) : Braceless (.spec s)
  | group {params : Params} (each : ∀ e ∈ params, Braceless e.2) : Braceless (.group params)

theorem toEntries_eq_map (params : Params) :
    toEntries params = params.map fun e => (e.1, e.2.toSpec) := by
  induction params with
  | nil => rfl
  | cons e rest ih => rw [toEntries, ih, List.map_cons]

theorem toSpec_braceless {p : Param} (braceless : p.Braceless) : p.toSpec.Braceless := by
  induction braceless with
  | value braceless => exact Spec.ofValue_braceless braceless
  | pattern bare => exact .pattern bare
  | predicate test => exact .predicate test
  | spec braceless => exact braceless
  | group _ ih =>
      rw [toSpec, toEntries_eq_map]
      refine .map ?_
      intro e member
      obtain ⟨p, inside, rfl⟩ := List.mem_map.mp member
      exact ih p inside

end Param

namespace Params

/-- There is no opening brace in the strings of the parameters; their names may have some. -/
def Braceless (params : Params) : Prop :=
  ∀ e ∈ params, e.2.Braceless

/-- There is no opening brace in the strings of what was found. -/
def Found.Braceless : Found → Prop
  | .param p => p.Braceless
  | .json v => v.Braceless
  | .spec s => s.Braceless

theorem Found.toSpec_braceless {found : Found} (braceless : found.Braceless) :
    found.toSpec.Braceless := by
  cases found with
  | param p => exact Param.toSpec_braceless braceless
  | json v => exact Spec.ofValue_braceless braceless
  | spec s => exact braceless

theorem jsonChild?_braceless {v child : Value} {segment : List Char} (braceless : v.Braceless)
    (found : jsonChild? v segment = some child) : child.Braceless := by
  cases braceless with
  | object each => exact each _ (Entries.mem_of_get? found)
  | array each =>
      obtain ⟨n, _, at_⟩ := Option.bind_eq_some_iff.mp found
      exact each child (List.mem_of_getElem? at_)
  | _ => cases found

theorem child?_braceless {found child : Found} {segment : List Char} (braceless : found.Braceless)
    (next : child? found segment = some child) : child.Braceless := by
  cases found with
  | json v =>
      obtain ⟨inner, there, rfl⟩ := Option.map_eq_some_iff.mp next
      exact jsonChild?_braceless braceless there
  | spec s =>
      obtain ⟨inner, there, rfl⟩ := Option.map_eq_some_iff.mp next
      exact Spec.get?_braceless braceless there
  | param p =>
      change p.Braceless at braceless
      cases braceless with
      | value braceless =>
          obtain ⟨inner, there, rfl⟩ := Option.map_eq_some_iff.mp next
          exact jsonChild?_braceless braceless there
      | spec braceless =>
          obtain ⟨inner, there, rfl⟩ := Option.map_eq_some_iff.mp next
          exact Spec.get?_braceless braceless there
      | group each =>
          obtain ⟨inner, there, rfl⟩ := Option.map_eq_some_iff.mp next
          exact each _ (Entries.mem_of_get? there)
      | _ => cases next

/-- The walk along the segments stays within what has no opening brace. -/
theorem walk_braceless {start : Option Found} (segments : List (List Char))
    (braceless : ∀ found, start = some found → found.Braceless) {found : Found}
    (success : segments.foldl (fun found segment => found.bind (child? · segment)) start =
      some found) : found.Braceless := by
  induction segments generalizing start with
  | nil => exact braceless found success
  | cons segment rest ih =>
      refine ih ?_ success
      intro child next
      obtain ⟨parent, known, there⟩ := Option.bind_eq_some_iff.mp next
      exact child?_braceless (braceless parent known) there

theorem find?_braceless {params : Params} (braceless : params.Braceless)
    {segments : List (List Char)} {found : Found} (success : find? params segments = some found) :
    found.Braceless := by
  cases segments with
  | nil => cases success
  | cons first rest =>
      rw [find?] at success
      split at success
      · cases success
      · rename_i p named
        refine walk_braceless rest ?_ success
        rintro _ ⟨⟩
        exact braceless _ (Entries.mem_of_get? named)

theorem lookup?_braceless {params : Params} (braceless : params.Braceless) {path : List Char}
    {s : Spec} (found : params.lookup? path = some s) : s.Braceless := by
  obtain ⟨place, success, rfl⟩ := Option.map_eq_some_iff.mp found
  exact Found.toSpec_braceless (find?_braceless braceless success)

end Params

namespace Substitution

theorem textOf?_bare {s : Spec} {text : String} (braceless : s.Braceless)
    (read : textOf? s = some text) : '\x7b' ∉ text.toList := by
  cases braceless with
  | selector bare => exact Option.some.inj read ▸ bare
  | pattern bare => exact Option.some.inj read ▸ bare
  | bool b =>
      cases read
      cases b <;> decide
  | number n =>
      cases read
      rw [Value.text, String.toList_ofList]
      intro brace
      rcases n.numeral_chars _ brace with digit | sign
      · cases digit
      · revert sign
        decide
  | _ => cases read

theorem pieceText_bare {params : Params} (braceless : params.Braceless) (path : List Char) :
    '\x7b' ∉ pieceText params (.token path) := by
  rw [pieceText]
  split
  · rename_i text found
    obtain ⟨s, known, read⟩ := Option.bind_eq_some_iff.mp found
    exact textOf?_bare (Params.lookup?_braceless braceless known) read
  · exact List.not_mem_nil

end Substitution

namespace Spec

theorem tokenless_missing : Tokenless .missing := by
  intro text part
  cases part

theorem tokenless_selector {s : String} (bare : ¬ HasToken s.toList) : Tokenless (.selector s) := by
  intro text part
  cases part
  exact bare

theorem tokenless_list {items : List Spec} (each : ∀ s ∈ items, s.Tokenless) :
    Tokenless (.list items) := by
  intro text part
  cases part with
  | item member inside => exact each _ member text inside

theorem tokenless_map {entries : List (String × Spec)} (each : ∀ e ∈ entries, e.2.Tokenless) :
    Tokenless (.map entries) := by
  intro text part
  cases part with
  | entry member inside => exact each _ member text inside

theorem Braceless.tokenless {s : Spec} (braceless : s.Braceless) : s.Tokenless := by
  induction braceless with
  | selector bare => exact tokenless_selector (not_hasToken_of_bare bare)
  | list _ ih => exact tokenless_list ih
  | map _ ih => exact tokenless_map ih
  | _ =>
      intro text part
      cases part

/-- Parameters have no effect on a spec without tokens. -/
theorem substitute_of_tokenless (params : Params) {s : Spec} (tokenless : s.Tokenless) :
    s.substitute params = s := by
  induction s with
  | selector s => exact string_of_not_hasToken params (tokenless s .here)
  | list items ih =>
      have same : ∀ s ∈ items, s.substitute params = s := fun s member =>
        ih s member fun text inside => tokenless text (.item member inside)
      rw [substitute, substituteItems_eq_map, List.map_congr_left same, List.map_id']
  | map entries ih =>
      have same : ∀ e ∈ entries, (e.1, e.2.substitute params) = e := fun e member =>
        Prod.ext rfl (ih e member fun text inside => tokenless text (.entry member inside))
      rw [substitute, substituteEntries_eq_map, List.map_congr_left same, List.map_id']
  | _ => rfl

theorem substitute_tokenless {params : Params} (braceless : params.Braceless) (data : Spec) :
    (data.substitute params).Tokenless := by
  induction data with
  | selector s =>
      rw [substitute]
      rcases string_cases params s with ⟨path, _, injected⟩ | filled
      · rw [injected]
        cases found : params.lookup? path with
        | none => exact tokenless_missing
        | some spec => exact (Params.lookup?_braceless braceless found).tokenless
      · rw [filled]
        apply tokenless_selector
        rw [String.toList_ofList]
        exact not_hasToken_filled params s.toList (pieceText_bare braceless)
  | list items ih =>
      rw [substitute, substituteItems_eq_map]
      apply tokenless_list
      intro s member
      obtain ⟨s, inside, rfl⟩ := List.mem_map.mp member
      exact ih s inside
  | map entries ih =>
      rw [substitute, substituteEntries_eq_map]
      apply tokenless_map
      intro e member
      obtain ⟨e, inside, rfl⟩ := List.mem_map.mp member
      exact ih e inside
  | _ =>
      intro text part
      cases part

end Spec

/-- What is filled in from parameters without opening braces is done: there is no token left in it,
further parameters leave it as it is, and it is scraped as the spec it came from. -/
theorem substitute_leaves_no_token {params : Params} (braceless : params.Braceless) (data : Spec) :
    (data.substitute params).Tokenless ∧
    (∀ others, (data.substitute params).substitute others = data.substitute params) ∧
    ∀ (fetcher : Fetcher) (sessions : Sessions) (r : ScrapeRequest) (others : Params),
      scrape fetcher sessions { r with data := data, params := params } =
        scrape fetcher sessions { r with data := data.substitute params, params := others } := by
  have tokenless : (data.substitute params).Tokenless := Spec.substitute_tokenless braceless data
  have done : ∀ others, (data.substitute params).substitute others = data.substitute params :=
    fun others => Spec.substitute_of_tokenless others tokenless
  refine ⟨tokenless, done, ?_⟩
  intro fetcher sessions r others
  have plan : ScrapeRequest.plan { r with data := data, params := params } =
      ScrapeRequest.plan { r with data := data.substitute params, params := others } :=
    congrArg Plan.ofSpec (done others).symm
  unfold scrape scrapePage
  rw [plan]
  rfl

/-- A token begins at the first of three opening braces, so half of a second one is left over. -/
theorem substitute_leaves_half_token :
    Params.Braceless [("x", .value (.string "a"))] ∧
    (Spec.selector "\x7b\x7b\x7bx\x7d\x7d\x7by\x7d\x7d \x7b\x7bx\x7d\x7d").substitute
      [("x", .value (.string "a"))] = .selector "\x7by\x7d\x7d a" ∧
    (Spec.selector "\x7by\x7d\x7d a").Tokenless ∧
    ∀ others, (Spec.selector "\x7by\x7d\x7d a").substitute others =
      .selector "\x7by\x7d\x7d a" := by
  have braceless : Params.Braceless [("x", .value (.string "a"))] := by
    intro e member
    rw [List.mem_singleton.mp member]
    exact .value (.string (by decide))
  have filled : (Spec.selector "\x7b\x7b\x7bx\x7d\x7d\x7by\x7d\x7d \x7b\x7bx\x7d\x7d").substitute
      [("x", .value (.string "a"))] = .selector "\x7by\x7d\x7d a" := rfl
  have done := substitute_leaves_no_token braceless
    (.selector "\x7b\x7b\x7bx\x7d\x7d\x7by\x7d\x7d \x7b\x7bx\x7d\x7d")
  rw [filled] at done
  exact ⟨braceless, filled, done.1, done.2.1⟩

end PageExtract
