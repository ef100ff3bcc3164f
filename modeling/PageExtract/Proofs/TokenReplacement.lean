import Mathlib
import PageExtract.Proofs.Placeholders

/-!
What filling in does to a spec, told without the scanner: tokens are taken from the left, none
overlaps another, and each is replaced by the text of its parameter, or by the parameter itself where
the string is nothing but the token. Main result: `substituted_iff`, which says that a spec is filled
in exactly so.
-/

set_option autoImplicit false

namespace PageExtract

open Json (Value)

namespace Substitution

/-- What stands between the braces of a token: it is on one line, and no closing braces begin in
it. -/
structure IsPath (path : List Char) : Prop where
  inline : '\n' ∉ path
  unclosed : ¬ ['\x7d', '\x7d'] <:+: path ++ ['\x7d']

/-- In the text a token stands after `before`. -/
structure TokenAt (s before path after : List Char) : Prop where
  isPath : IsPath path
  parts : s = before ++ tokenText path ++ after

/-- What a parameter is inside of a longer text. -/
inductive Inserts (params : Params) (path : List Char) : List Char → Prop where
  | string {t : String} (found : params.lookup? path = some (.selector t)) :
      Inserts params path t.toList
  | literal {v : Value} (found : params.lookup? path = some (.literal v)) :
      Inserts params path v.text.toList
  | pattern {p : Pattern} (found : params.lookup? path = some (.pattern p)) :
      Inserts params path p.source.toList
  | unresolved (absent : params.lookup? path = none) : Inserts params path []
  | other {s : Spec} (found : params.lookup? path = some s) (noString : ∀ t, s ≠ .selector t)
      (noLiteral : ∀ v, s ≠ .literal v) (noPattern : ∀ p, s ≠ .pattern p) : Inserts params path []

/-- The first token of a text is replaced, then those in what comes after it. All between them is
kept, and what was inserted is not looked at again. -/
inductive Filled (params : Params) : List Char → List Char → Prop where
  | rest {s : List Char} (bare : ∀ before path after, ¬ TokenAt s before path after) :
      Filled params s s
  | token {s before path after text later : List Char} (here : TokenAt s before path after)
      (leftmost : ∀ b q a, TokenAt s b q a → before.length ≤ b.length)
      (inserts : Inserts params path text) (filled : Filled params after later) :
      Filled params s (before ++ text ++ later)

end Substitution

open Substitution

/-- A spec and what it is once it is filled in. -/
inductive Spec.Substituted (params : Params) : Spec → Spec → Prop where
  | missing : Substituted params .missing .missing
  | literal (v : Value) : Substituted params (.literal v) (.literal v)
  | pattern (p : Pattern) : Substituted params (.pattern p) (.pattern p)
  | predicate (test : Value → Bool) : Substituted params (.predicate test) (.predicate test)
  | plain {s : String} (bare : ∀ before path after, ¬ TokenAt s.toList before path after) :
      Substituted params (.selector s) (.selector s)
  | injected {s : String} {path : List Char} {found : Spec} (lone : TokenAt s.toList [] path [])
      (named : params.lookup? path = some found) : Substituted params (.selector s) found
  | unresolved {s : String} {path : List Char} (lone : TokenAt s.toList [] path [])
      (absent : params.lookup? path = none) : Substituted params (.selector s) .missing
  | text {s t : String} {before path after : List Char}
      (here : TokenAt s.toList before path after) (apart : ∀ q, ¬ TokenAt s.toList [] q [])
      (filled : Filled params s.toList t.toList) : Substituted params (.selector s) (.selector t)
  | list {items outs : List Spec} (length : outs.length = items.length)
      (each : ∀ p ∈ items.zip outs, Substituted params p.1 p.2) :
      Substituted params (.list items) (.list outs)
  | map {entries outs : List (String × Spec)} (keys : Entries.keys outs = Entries.keys entries)
      (each : ∀ p ∈ entries.zip outs, Substituted params p.1.2 p.2.2) :
      Substituted params (.map entries) (.map outs)

namespace Substitution

/-! ## Where tokens stand -/

theorem isPath_nil : IsPath [] := ⟨List.not_mem_nil, by decide⟩

theorem isPath_cons {c : Char} {path : List Char} : IsPath (c :: path) ↔
    c ≠ '\n' ∧ ¬ (c = '\x7d' ∧ (path ++ ['\x7d']).head? = some '\x7d') ∧ IsPath path := by
  have opens : ['\x7d', '\x7d'] <+: c :: (path ++ ['\x7d']) ↔
      c = '\x7d' ∧ (path ++ ['\x7d']).head? = some '\x7d' := by
    rw [List.cons_prefix_cons, eq_comm (b := c), List.singleton_prefix_iff_head?_eq_some]
  constructor
  · rintro ⟨inline, unclosed⟩
    rw [List.mem_cons, not_or] at inline
    rw [List.cons_append, List.infix_cons_iff, not_or, opens] at unclosed
    exact ⟨Ne.symm inline.1, unclosed.1, inline.2, unclosed.2⟩
  · rintro ⟨here, apart, inline, unclosed⟩
    refine ⟨?_, ?_⟩
    · rw [List.mem_cons, not_or]
      exact ⟨Ne.symm here, inline⟩
    · rw [List.cons_append, List.infix_cons_iff, not_or, opens]
      exact ⟨apart, unclosed⟩

/-- Whether the first of two closing braces stands next depends on no more than what comes before the
second. -/
theorem head?_closing (path after : List Char) :
    (path ++ ['\x7d', '\x7d'] ++ after).head? = (path ++ ['\x7d']).head? := by
  cases path <;> rfl

/-- The scanner reads a path exactly where one is closed. -/
theorem tokenPath?_eq_some_iff {s path : List Char} : tokenPath? s = some path ↔
    IsPath path ∧ ∃ after, s = path ++ ['\x7d', '\x7d'] ++ after := by
  constructor
  · intro found
    induction s generalizing path with
    | nil => cases found
    | cons c rest ih =>
        rw [tokenPath?_cons] at found
        split at found
        · cases found
        · rename_i inline
          split at found
          · rename_i closing
            obtain ⟨rfl, second⟩ := closing
            cases found
            obtain ⟨after, rfl⟩ := List.head?_eq_some_iff.mp second
            exact ⟨isPath_nil, after, rfl⟩
          · rename_i apart
            obtain ⟨later, deeper, rfl⟩ := Option.map_eq_some_iff.mp found
            obtain ⟨isPath, after, rfl⟩ := ih deeper
            rw [head?_closing] at apart
            exact ⟨isPath_cons.mpr ⟨inline, apart, isPath⟩, after, rfl⟩
  · rintro ⟨isPath, after, rfl⟩
    induction path with
    | nil => rfl
    | cons c path ih =>
        obtain ⟨inline, apart, isPath⟩ := isPath_cons.mp isPath
        rw [← head?_closing path after] at apart
        rw [List.cons_append, List.cons_append, tokenPath?_cons, if_neg inline, if_neg apart,
          ih isPath]
        rfl

theorem token?_eq_some_iff {s path : List Char} : token? s = some path ↔
    ∃ after, TokenAt s [] path after := by
  constructor
  · intro found
    unfold token? at found
    split at found
    · obtain ⟨isPath, after, rfl⟩ := tokenPath?_eq_some_iff.mp found
      exact ⟨after, isPath, rfl⟩
    · cases found
  · rintro ⟨after, isPath, rfl⟩
    exact tokenPath?_eq_some_iff.mpr ⟨isPath, after, rfl⟩

theorem tokenAt_cons {c d : Char} {s before path after : List Char} :
    TokenAt (c :: s) (d :: before) path after ↔ c = d ∧ TokenAt s before path after := by
  constructor
  · rintro ⟨isPath, parts⟩
    obtain ⟨same, rest⟩ := List.cons.inj parts
    exact ⟨same, isPath, rest⟩
  · rintro ⟨rfl, isPath, rfl⟩
    exact ⟨isPath, rfl⟩

theorem not_tokenAt_nil (before path after : List Char) : ¬ TokenAt [] before path after := by
  rintro ⟨_, parts⟩
  simp [tokenText] at parts

theorem hasToken_iff_tokenAt {s : List Char} :
    HasToken s ↔ ∃ before path after, TokenAt s before path after := by
  constructor
  · rintro ⟨before, path, after, rfl, inline⟩
    obtain ⟨first, starts⟩ := token?_isSome inline after
    obtain ⟨rest, isPath, parts⟩ := token?_eq_some_iff.mp starts
    exact ⟨before, first, rest, isPath, by
      rw [List.append_assoc, parts, List.nil_append, List.append_assoc]⟩
  · rintro ⟨before, path, after, isPath, parts⟩
    exact ⟨before, path, after, parts, isPath.inline⟩

/-- Where no token starts at the first character, each stands in the rest. -/
theorem tokenAt_tail {c : Char} {rest before path after : List Char}
    (plain : token? (c :: rest) = none) (token : TokenAt (c :: rest) before path after) :
    ∃ b, before = c :: b ∧ TokenAt rest b path after := by
  cases before with
  | nil =>
      rw [token?_eq_some_iff.mpr ⟨after, token⟩] at plain
      cases plain
  | cons d b =>
      obtain ⟨rfl, later⟩ := tokenAt_cons.mp token
      exact ⟨b, rfl, later⟩

/-! ## Filling in -/

variable {params : Params}

theorem inserts_iff {path text : List Char} :
    Inserts params path text ↔ text = pieceText params (.token path) := by
  constructor
  · intro inserts
    cases inserts with
    | string found => simp only [pieceText, found, Option.bind_some, textOf?]
    | literal found => simp only [pieceText, found, Option.bind_some, textOf?]
    | pattern found => simp only [pieceText, found, Option.bind_some, textOf?]
    | unresolved absent => simp only [pieceText, absent, Option.bind_none]
    | @other s found noString noLiteral noPattern =>
        cases s with
        | selector t => exact absurd rfl (noString t)
        | literal v => exact absurd rfl (noLiteral v)
        | pattern p => exact absurd rfl (noPattern p)
        | _ => simp only [pieceText, found, Option.bind_some, textOf?]
  · rintro rfl
    cases found : params.lookup? path with
    | none =>
        simp only [pieceText, found, Option.bind_none]
        exact .unresolved found
    | some s =>
        cases s with
        | selector t =>
            simp only [pieceText, found, Option.bind_some, textOf?]
            exact .string found
        | literal v =>
            simp only [pieceText, found, Option.bind_some, textOf?]
            exact .literal found
        | pattern p =>
            simp only [pieceText, found, Option.bind_some, textOf?]
            exact .pattern found
        | _ =>
            simp only [pieceText, found, Option.bind_some, textOf?]
            refine .other found ?_ ?_ ?_ <;>
              (intro _ same
               cases same)

/-- Up to its first token a text is kept. -/
theorem filled_of_leftmost (params : Params) {s before path after : List Char}
    (here : TokenAt s before path after)
    (leftmost : ∀ b q a, TokenAt s b q a → before.length ≤ b.length) :
    filled params s = before ++ pieceText params (.token path) ++ filled params after := by
  induction before generalizing s with
  | nil =>
      obtain ⟨isPath, rfl⟩ := here
      exact filled_of_token params (token?_eq_some_iff.mpr ⟨after, isPath, rfl⟩)
  | cons c before ih =>
      cases s with
      | nil => exact absurd here (not_tokenAt_nil _ _ _)
      | cons d rest =>
          obtain ⟨rfl, later⟩ := tokenAt_cons.mp here
          have plain : token? (d :: rest) = none := by
            rw [Option.eq_none_iff_forall_ne_some]
            intro q found
            obtain ⟨a, first⟩ := token?_eq_some_iff.mp found
            exact absurd (leftmost [] q a first) (Nat.not_succ_le_zero _)
          have below : ∀ b q a, TokenAt rest b q a → before.length ≤ b.length := fun b q a token =>
            Nat.le_of_succ_le_succ (leftmost (d :: b) q a (tokenAt_cons.mpr ⟨rfl, token⟩))
          rw [filled_of_char params plain, ih later below]
          rfl

theorem Filled.cons {c : Char} {rest later : List Char} (plain : token? (c :: rest) = none)
    (filled : Filled params rest later) : Filled params (c :: rest) (c :: later) := by
  cases filled with
  | rest bare =>
      refine .rest fun before path after token => ?_
      obtain ⟨b, -, later⟩ := tokenAt_tail plain token
      exact bare b path after later
  | token here leftmost inserts filled =>
      refine .token (tokenAt_cons.mpr ⟨rfl, here⟩) ?_ inserts filled
      intro b q a token
      obtain ⟨b, rfl, inside⟩ := tokenAt_tail plain token
      exact Nat.succ_le_succ (leftmost b q a inside)

/-- What a text is filled in to. -/
theorem filled_iff {s t : List Char} : Filled params s t ↔ t = filled params s := by
  constructor
  · intro done
    induction done with
    | rest bare =>
        refine (filled_of_not_hasToken params fun token => ?_).symm
        obtain ⟨before, path, after, here⟩ := hasToken_iff_tokenAt.mp token
        exact bare before path after here
    | token here leftmost inserts _ ih =>
        rw [filled_of_leftmost params here leftmost, inserts_iff.mp inserts, ih]
  · rintro rfl
    induction s using pieces_induct with
    | nil => exact .rest not_tokenAt_nil
    | char c rest plain ih =>
        rw [filled_of_char params plain]
        exact ih.cons plain
    | token path after inline found ih =>
        have here : TokenAt (tokenText path ++ after) [] path after :=
          ⟨(tokenPath?_eq_some_iff.mp found).1, rfl⟩
        rw [filled_of_token params found]
        exact .token here (fun _ _ _ _ => Nat.zero_le _) (inserts_iff.mpr rfl) ih

theorem pieces_eq_nil_iff {s : List Char} : pieces s = [] ↔ s = [] := by
  refine ⟨fun none => ?_, fun none => none ▸ rfl⟩
  induction s using pieces_induct with
  | nil => rfl
  | char c rest plain _ => rw [pieces_of_char plain] at none; cases none
  | token path after _ found _ => rw [pieces_of_token found] at none; cases none

/-- A text has a single piece that is a token if it is nothing but the token. -/
theorem pieces_eq_token_iff {s path : List Char} :
    pieces s = [.token path] ↔ TokenAt s [] path [] := by
  constructor
  · intro single
    induction s using pieces_induct with
    | nil => cases single
    | char c rest plain _ => rw [pieces_of_char plain] at single; cases single
    | token q after _ found _ =>
        rw [pieces_of_token found, List.cons.injEq, Piece.token.injEq, pieces_eq_nil_iff] at single
        obtain ⟨rfl, rfl⟩ := single
        exact ⟨(tokenPath?_eq_some_iff.mp found).1, rfl⟩
  · intro lone
    obtain rfl := lone.parts
    exact pieces_of_token (token?_eq_some_iff.mpr ⟨[], lone⟩)

theorem string_of_lone {s : String} {path : List Char} (lone : TokenAt s.toList [] path []) :
    string params s = (params.lookup? path).getD .missing := by
  simp only [string, pieces_eq_token_iff.mpr lone]

theorem string_of_apart {s : String} (apart : ∀ path, ¬ TokenAt s.toList [] path []) :
    string params s = .selector (String.ofList (filled params s.toList)) := by
  rcases string_cases params s with ⟨path, lone, _⟩ | text
  · exact absurd (pieces_eq_token_iff.mp lone) (apart path)
  · exact text

end Substitution

/-! ## Specs -/

theorem eq_map_of_zip {α β : Type} {f : α → β} {xs : List α} {ys : List β}
    (length : ys.length = xs.length) (each : ∀ p ∈ xs.zip ys, p.2 = f p.1) : ys = xs.map f := by
  have related : List.Forall₂ (fun x y => y = f x) xs ys :=
    List.forall₂_iff_zip.mpr ⟨length.symm, fun member => each _ member⟩
  induction related with
  | nil => rfl
  | cons head _ ih =>
      rw [List.map_cons, head, ih (Nat.succ.inj length) fun p member =>
        each p (List.mem_cons_of_mem _ member)]

theorem forall_mem_zip_map {α β : Type} {f : α → β} {xs : List α} {r : α × β → Prop}
    (each : ∀ x ∈ xs, r (x, f x)) : ∀ p ∈ xs.zip (xs.map f), r p := by
  rw [← List.map_prod_left_eq_zip]
  exact List.forall_mem_map.mpr each

/-- Entries with the same keys stand side by side. -/
theorem Entries.key_of_mem_zip {α β : Type} {es : List (String × α)} {others : List (String × β)}
    (same : keys others = keys es) {p : (String × α) × (String × β)} (member : p ∈ es.zip others) :
    p.2.1 = p.1.1 := by
  induction es generalizing others with
  | nil => cases member
  | cons e es ih =>
      cases others with
      | nil => cases member
      | cons o others =>
          obtain ⟨first, rest⟩ := List.cons.inj same
          rcases List.mem_cons.mp member with rfl | later
          · exact first
          · exact ih rest later

namespace Spec

variable {params : Params}

theorem Substituted.eq_substitute {data out : Spec} (done : Substituted params data out) :
    out = data.substitute params := by
  induction done with
  | missing => rfl
  | literal v => rfl
  | pattern p => rfl
  | predicate test => rfl
  | plain bare =>
      refine (string_of_not_hasToken params fun token => ?_).symm
      obtain ⟨before, path, after, here⟩ := hasToken_iff_tokenAt.mp token
      exact bare before path after here
  | injected lone named => rw [substitute, string_of_lone lone, named, Option.getD_some]
  | unresolved lone absent => rw [substitute, string_of_lone lone, absent, Option.getD_none]
  | text here apart filled =>
      rw [substitute, string_of_apart apart, ← filled_iff.mp filled, String.ofList_toList]
  | list length each ih => rw [substitute, substituteItems_eq_map, eq_map_of_zip length ih]
  | map keys each ih =>
      have length := congrArg List.length keys
      rw [Entries.keys, Entries.keys, List.length_map, List.length_map] at length
      rw [substitute, substituteEntries_eq_map]
      refine congrArg Spec.map (eq_map_of_zip length fun p member => ?_)
      exact Prod.ext (Entries.key_of_mem_zip keys member) (ih p member)

theorem substituted_substitute (data : Spec) : Substituted params data (data.substitute params) := by
  induction data with
  | missing => exact .missing
  | literal v => exact .literal v
  | pattern p => exact .pattern p
  | predicate test => exact .predicate test
  | selector s =>
      rw [substitute]
      by_cases whole : ∃ path, TokenAt s.toList [] path []
      · obtain ⟨path, lone⟩ := whole
        rw [string_of_lone lone]
        cases found : params.lookup? path with
        | none => exact .unresolved lone found
        | some spec => exact .injected lone found
      · rw [not_exists] at whole
        by_cases token : HasToken s.toList
        · obtain ⟨before, path, after, here⟩ := hasToken_iff_tokenAt.mp token
          rw [string_of_apart whole]
          refine .text here whole (filled_iff.mpr ?_)
          rw [String.toList_ofList]
        · rw [string_of_not_hasToken params token]
          exact .plain fun before path after here =>
            token (hasToken_iff_tokenAt.mpr ⟨before, path, after, here⟩)
  | list items ih =>
      rw [substitute, substituteItems_eq_map]
      exact .list (List.length_map _) (forall_mem_zip_map ih)
  | map entries ih =>
      rw [substitute, substituteEntries_eq_map]
      refine .map ?_ (forall_mem_zip_map ih)
      exact Entries.keys_map (substitute params) entries

end Spec

/-- A spec is filled in token by token: the tree stays as it is, with its keys and all that isn't a
string; a string without a token stays too; one that is nothing but a token becomes the parameter
that the token names, or nothing; and in any other each token, from the left, is replaced by the text
of its parameter. -/
theorem substituted_iff (params : Params) (data out : Spec) :
    Spec.Substituted params data out ↔ out = data.substitute params :=
  ⟨Spec.Substituted.eq_substitute, fun same => same ▸ Spec.substituted_substitute data⟩

/-- A token starts at the first of three opening braces, and what it inserts isn't looked at again. -/
example : (Spec.selector "\x7b\x7b\x7ba\x7d\x7d\x7d").substitute
    [("\x7ba", .value (.string "\x7b\x7ba\x7d\x7d"))] =
      .selector "\x7b\x7ba\x7d\x7d\x7d" := by
  rfl

end PageExtract
