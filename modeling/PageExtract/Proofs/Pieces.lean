import PageExtract.Substitution

/-!
The pieces of a text. A text has a token among its pieces exactly if it holds two opening braces
and, later on the same line, two closing ones. No such token comes about where tokens are replaced
by texts without opening braces: a brace left over would have opened a token itself.
-/

set_option autoImplicit false

namespace PageExtract.Substitution

/-- Two opening braces, a path on one line, and two closing braces. -/
def tokenText (path : List Char) : List Char :=
  '\x7b' :: '\x7b' :: path ++ ['\x7d', '\x7d']

/-- There is a token in the text. -/
def HasToken (s : List Char) : Prop :=
  ∃ before path after, s = before ++ tokenText path ++ after ∧ '\n' ∉ path

theorem tokenPath?_cons (c : Char) (rest : List Char) :
    tokenPath? (c :: rest) = if c = '\n' then none
      else if c = '\x7d' ∧ rest.head? = some '\x7d' then some []
      else (tokenPath? rest).map (c :: ·) := by
  rw [tokenPath?]

/-- The path of a token ends at closing braces on its line. -/
theorem of_tokenPath? {s path : List Char} (found : tokenPath? s = some path) :
    '\n' ∉ path ∧ ∃ after, s = path ++ ['\x7d', '\x7d'] ++ after := by
  induction s generalizing path with
  | nil => cases found
  | cons c rest ih =>
      rw [tokenPath?_cons] at found
      split at found
      · cases found
      · rename_i inline
        split at found
        · rename_i closing
          obtain ⟨rfl, second⟩ := closing
          cases found
          obtain ⟨after, rfl⟩ := List.head?_eq_some_iff.mp second
          exact ⟨List.not_mem_nil, after, rfl⟩
        · obtain ⟨later, deeper, rfl⟩ := Option.map_eq_some_iff.mp found
          obtain ⟨plain, after, rfl⟩ := ih deeper
          refine ⟨?_, after, rfl⟩
          intro member
          rcases List.mem_cons.mp member with here | below
          · exact inline here.symm
          · exact plain below

/-- Closing braces on the line end a path there or before. -/
theorem tokenPath?_isSome {path : List Char} (inline : '\n' ∉ path) (after : List Char) :
    ∃ found, tokenPath? (path ++ ['\x7d', '\x7d'] ++ after) = some found := by
  induction path with
  | nil => exact ⟨[], rfl⟩
  | cons c rest ih =>
      rw [List.mem_cons, not_or] at inline
      obtain ⟨here, below⟩ := inline
      obtain ⟨found, deeper⟩ := ih below
      rw [List.cons_append, List.cons_append, tokenPath?_cons, if_neg (Ne.symm here)]
      split
      · exact ⟨[], rfl⟩
      · exact ⟨c :: found, by rw [deeper]; rfl⟩

/-- A line that isn't closed further on has no closing braces yet. -/
theorem tokenPath?_tail {c : Char} {rest : List Char} (inline : c ≠ '\n')
    (unclosed : tokenPath? (c :: rest) = none) : tokenPath? rest = none := by
  rw [tokenPath?_cons, if_neg inline] at unclosed
  split at unclosed
  · cases unclosed
  · exact Option.map_eq_none_iff.mp unclosed

/-- Where no token starts, either there are no opening braces or nothing closes them. -/
theorem token?_eq_none_iff {c : Char} {rest : List Char} : token? (c :: rest) = none ↔
    ∀ inner, c = '\x7b' → rest = '\x7b' :: inner → tokenPath? inner = none := by
  constructor
  · rintro nothing inner rfl rfl
    exact nothing
  · intro unclosed
    unfold token?
    split
    · rename_i inner same
      obtain ⟨rfl, rfl⟩ := List.cons.inj same
      exact unclosed inner rfl rfl
    · rfl

theorem token?_of_ne {c : Char} (other : c ≠ '\x7b') (rest : List Char) :
    token? (c :: rest) = none :=
  token?_eq_none_iff.mpr fun _ same _ => absurd same other

/-- A token that starts here is written out here. -/
theorem of_token? {s path : List Char} (found : token? s = some path) :
    '\n' ∉ path ∧ ∃ after, s = tokenText path ++ after := by
  unfold token? at found
  split at found
  · obtain ⟨inline, after, rfl⟩ := of_tokenPath? found
    exact ⟨inline, after, rfl⟩
  · cases found

theorem token?_isSome {path : List Char} (inline : '\n' ∉ path) (after : List Char) :
    ∃ found, token? (tokenText path ++ after) = some found :=
  tokenPath?_isSome inline after

theorem piecesAfter_eq (n : Nat) (s : List Char) : piecesAfter n s = pieces (s.drop n) := by
  induction s generalizing n with
  | nil => cases n <;> rfl
  | cons c rest ih =>
      cases n with
      | zero => rfl
      | succ n => exact ih n

theorem pieces_of_char {c : Char} {rest : List Char} (plain : token? (c :: rest) = none) :
    pieces (c :: rest) = .char c :: pieces rest := by
  simp only [pieces, piecesAfter, plain]

theorem pieces_of_token {path after : List Char}
    (found : token? (tokenText path ++ after) = some path) :
    pieces (tokenText path ++ after) = .token path :: pieces after := by
  have skipped :
      (('\x7b' :: path ++ ['\x7d', '\x7d']) ++ after).drop (path.length + 3) = after := by
    have length : ('\x7b' :: path ++ ['\x7d', '\x7d']).length = path.length + 3 := by simp
    rw [← length, List.drop_left]
  change piecesAfter 0 ('\x7b' :: (('\x7b' :: path ++ ['\x7d', '\x7d']) ++ after)) = _
  change token? ('\x7b' :: (('\x7b' :: path ++ ['\x7d', '\x7d']) ++ after)) = some path at found
  rw [piecesAfter, found]
  simp only [piecesAfter_eq, skipped]

/-- Induction along the pieces of a text. -/
theorem pieces_induct {motive : List Char → Prop} (nil : motive [])
    (char : ∀ c rest, token? (c :: rest) = none → motive rest → motive (c :: rest))
    (token : ∀ path after, '\n' ∉ path → token? (tokenText path ++ after) = some path →
      motive after → motive (tokenText path ++ after)) (s : List Char) : motive s := by
  induction size : s.length using Nat.strongRecOn generalizing s with
  | ind n ih =>
      cases s with
      | nil => exact nil
      | cons c rest =>
          cases found : token? (c :: rest) with
          | none =>
              rw [List.length_cons] at size
              exact char c rest found (ih rest.length (by omega) rest rfl)
          | some path =>
              obtain ⟨inline, after, same⟩ := of_token? found
              rw [same] at found size ⊢
              have shorter : after.length < n := by
                simp only [tokenText, List.length_append, List.length_cons] at size
                omega
              exact token path after inline found (ih after.length shorter after rfl)

/-- A token starts at the first character or in the rest. -/
theorem hasToken_cons_iff {c : Char} {rest : List Char} :
    HasToken (c :: rest) ↔ (∃ path, token? (c :: rest) = some path) ∨ HasToken rest := by
  constructor
  · rintro ⟨before, path, after, same, inline⟩
    cases before with
    | nil =>
        obtain ⟨found, starts⟩ := token?_isSome inline after
        exact .inl ⟨found, same ▸ starts⟩
    | cons first before => exact .inr ⟨before, path, after, (List.cons.inj same).2, inline⟩
  · rintro (⟨path, found⟩ | ⟨before, path, after, rfl, inline⟩)
    · obtain ⟨inline, after, same⟩ := of_token? found
      exact ⟨[], path, after, same, inline⟩
    · exact ⟨c :: before, path, after, rfl, inline⟩

theorem not_hasToken_nil : ¬ HasToken [] := by
  rintro ⟨before, path, after, same, _⟩
  simp [tokenText] at same

/-- The pieces of a text tell whether there is a token in it. -/
theorem any_isToken_iff (s : List Char) : (pieces s).any isToken = true ↔ HasToken s := by
  induction s using pieces_induct with
  | nil => exact ⟨nofun, fun token => absurd token not_hasToken_nil⟩
  | char c rest plain ih =>
      rw [pieces_of_char plain, hasToken_cons_iff, plain]
      simpa [isToken] using ih
  | token path after inline found _ =>
      rw [pieces_of_token found]
      exact ⟨fun _ => ⟨[], path, after, rfl, inline⟩, fun _ => rfl⟩

/-- A token isn't opened in a text without opening braces. -/
theorem hasToken_append_of_bare {t s : List Char} (bare : '\x7b' ∉ t) (token : HasToken (t ++ s)) :
    HasToken s := by
  induction t with
  | nil => exact token
  | cons c rest ih =>
      rw [List.mem_cons, not_or] at bare
      obtain ⟨here, below⟩ := bare
      rcases hasToken_cons_iff.mp token with ⟨path, found⟩ | later
      · rw [token?_of_ne (Ne.symm here)] at found
        cases found
      · exact ih below later

theorem not_hasToken_of_bare {t : List Char} (bare : '\x7b' ∉ t) : ¬ HasToken t := by
  intro token
  rw [← List.append_nil t] at token
  exact not_hasToken_nil (hasToken_append_of_bare bare token)

/-- The text with the texts of the parameters in place of its tokens. -/
def filled (params : Params) (s : List Char) : List Char :=
  (pieces s).flatMap (pieceText params)

theorem filled_of_char (params : Params) {c : Char} {rest : List Char}
    (plain : token? (c :: rest) = none) : filled params (c :: rest) = c :: filled params rest := by
  rw [filled, pieces_of_char plain]
  rfl

theorem filled_of_token (params : Params) {path after : List Char}
    (found : token? (tokenText path ++ after) = some path) :
    filled params (tokenText path ++ after) =
      pieceText params (.token path) ++ filled params after := by
  rw [filled, pieces_of_token found]
  rfl

theorem filled_of_not_hasToken (params : Params) {s : List Char} (tokenless : ¬ HasToken s) :
    filled params s = s := by
  induction s with
  | nil => rfl
  | cons c rest ih =>
      rw [hasToken_cons_iff, not_or] at tokenless
      obtain ⟨here, later⟩ := tokenless
      have plain : token? (c :: rest) = none :=
        Option.eq_none_iff_forall_ne_some.mpr fun path found => here ⟨path, found⟩
      rw [filled_of_char params plain, ih later]

/-- A text is replaced by the parameter itself where it is one token, else it is filled in. -/
theorem string_cases (params : Params) (s : String) :
    (∃ path, pieces s.toList = [.token path] ∧
      string params s = (params.lookup? path).getD .missing) ∨
    string params s = .selector (String.ofList (filled params s.toList)) := by
  rw [string]
  split
  · rename_i path lone
    exact .inl ⟨path, lone, rfl⟩
  · split
    · exact .inr rfl
    · rename_i bare
      rw [any_isToken_iff] at bare
      rw [filled_of_not_hasToken params bare, String.ofList_toList]
      exact .inr rfl

theorem string_of_not_hasToken (params : Params) {s : String} (tokenless : ¬ HasToken s.toList) :
    string params s = .selector s := by
  rcases string_cases params s with ⟨path, lone, _⟩ | text
  · rw [← any_isToken_iff, lone] at tokenless
    exact absurd rfl tokenless
  · rw [text, filled_of_not_hasToken params tokenless, String.ofList_toList]

/-- Where the line has no closing braces nothing is replaced in the rest of it, so it has none
afterwards. -/
theorem tokenPath?_filled (params : Params) {s : List Char} (unclosed : tokenPath? s = none) :
    token? s = none ∧ tokenPath? (filled params s) = none := by
  induction s with
  | nil => exact ⟨rfl, rfl⟩
  | cons c rest ih =>
      by_cases line : c = '\n'
      · have plain : token? (c :: rest) = none := token?_of_ne (by rw [line]; decide) rest
        refine ⟨plain, ?_⟩
        rw [filled_of_char params plain, tokenPath?_cons, if_pos line]
      · have later : tokenPath? rest = none := tokenPath?_tail line unclosed
        obtain ⟨next, below⟩ := ih later
        have plain : token? (c :: rest) = none := by
          rw [token?_eq_none_iff]
          rintro inner - rfl
          exact tokenPath?_tail (by decide) later
        have apart : ¬ (c = '\x7d' ∧ rest.head? = some '\x7d') := by
          intro closing
          rw [tokenPath?_cons, if_neg line, if_pos closing] at unclosed
          cases unclosed
        -- the next character stays, so no second brace comes next to this one
        have head : (filled params rest).head? = rest.head? := by
          cases rest with
          | nil => rfl
          | cons d rest => rw [filled_of_char params next]; rfl
        refine ⟨plain, ?_⟩
        rw [filled_of_char params plain, tokenPath?_cons, if_neg line, head, if_neg apart, below]
        rfl

/-- A character that starts no token starts none afterwards. -/
theorem token?_cons_filled (params : Params) {c : Char} {rest : List Char}
    (plain : token? (c :: rest) = none) : token? (c :: filled params rest) = none := by
  rw [token?_eq_none_iff]
  intro inner opens next
  cases rest with
  | nil => cases next
  | cons d rest =>
      by_cases second : d = '\x7b'
      · rw [second] at next plain
        have later : tokenPath? rest = none := token?_eq_none_iff.mp plain rest opens rfl
        have unclosed : tokenPath? ('\x7b' :: rest) = none := by
          rw [tokenPath?_cons, if_neg (by decide), if_neg (by simp), later]
          rfl
        have below := (tokenPath?_filled params unclosed).2
        rw [next] at below
        exact tokenPath?_tail (by decide) below
      · rw [filled_of_char params (token?_of_ne second rest)] at next
        exact absurd (List.cons.inj next).1 second

/-- Texts without opening braces leave no token behind. -/
theorem not_hasToken_filled (params : Params) (s : List Char)
    (bare : ∀ path, '\x7b' ∉ pieceText params (.token path)) : ¬ HasToken (filled params s) := by
  induction s using pieces_induct with
  | nil => exact not_hasToken_nil
  | token path after inline found ih =>
      rw [filled_of_token params found]
      exact fun token => ih (hasToken_append_of_bare (bare path) token)
  | char c rest plain ih =>
      rw [filled_of_char params plain, hasToken_cons_iff, token?_cons_filled params plain]
      rintro (⟨path, found⟩ | later)
      · cases found
      · exact ih later

end PageExtract.Substitution
