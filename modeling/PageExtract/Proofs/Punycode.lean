import PageExtract.Proofs.Cuts
import PageExtract.Url.Punycode

/-!
Punycode read back: a label is decoded from the text it is encoded as, and that text is of lower
case letters, digits, hyphens and the plain characters of the label. The decoder is followed along
the encoder: after each character the encoder passes, what is written so far leads the decoder to
the characters placed so far.
-/

set_option autoImplicit false

namespace PageExtract.Url.Punycode

/-! ## Digits -/

theorem digit?_digitChar {d : Nat} (small : d < 36) : digit? (digitChar d) = some d := by
  have all : ∀ e < 36, digit? (digitChar e) = some e := by decide
  exact all d small

theorem threshold_bounds (k bias : Nat) : 1 ≤ threshold k bias ∧ threshold k bias ≤ 26 := by
  simp only [threshold]
  split_ifs <;> omega

/-- A digit that isn't the last, and the number left over, make up the number. -/
theorem digit_add_rest {q t : Nat} (large : t ≤ q) (weight : Nat) :
    (t + (q - t) % (36 - t)) * weight + (q - t) / (36 - t) * (weight * (36 - t)) = q * weight := by
  have parts : (q - t) % (36 - t) + (q - t) / (36 - t) * (36 - t) = q - t := Nat.mod_add_div' _ _
  calc (t + (q - t) % (36 - t)) * weight + (q - t) / (36 - t) * (weight * (36 - t))
      = (t + ((q - t) % (36 - t) + (q - t) / (36 - t) * (36 - t))) * weight := by ring
    _ = (t + (q - t)) * weight := by rw [parts]
    _ = q * weight := by rw [Nat.add_sub_cancel' large]

theorem distance?_digitsFrom (bias : Nat) (rest : List Char) {fuel q : Nat} (enough : q < fuel)
    (k weight i : Nat) :
    distance? bias (digitsFrom fuel bias k q ++ rest) k weight i = some (i + q * weight, rest) := by
  induction fuel generalizing q k weight i with
  | zero => omega
  | succ fuel ih =>
      obtain ⟨least, most⟩ := threshold_bounds k bias
      simp only [digitsFrom]
      split
      · rename_i last
        rw [List.singleton_append, distance?, digit?_digitChar (by omega)]
        simp only [last, ↓reduceIte]
      · rename_i more
        have remainder : (q - threshold k bias) % (36 - threshold k bias) < 36 - threshold k bias :=
          Nat.mod_lt _ (by omega)
        have fewer : (q - threshold k bias) / (36 - threshold k bias) < fuel :=
          lt_of_le_of_lt (Nat.div_le_self _ _) (by omega)
        rw [List.cons_append, distance?, digit?_digitChar (by omega)]
        simp only [Nat.not_lt.mpr (Nat.le_add_right _ _), ↓reduceIte]
        rw [ih fewer, Nat.add_assoc, digit_add_rest (by omega)]

theorem distance?_digits (bias q i : Nat) (rest : List Char) :
    distance? bias (digits bias q ++ rest) 36 1 i = some (i + q, rest) := by
  rw [digits, distance?_digitsFrom bias rest (Nat.lt_succ_self q), Nat.mul_one]

theorem digitsFrom_ne_nil (fuel bias k q : Nat) : digitsFrom (fuel + 1) bias k q ≠ [] := by
  simp only [digitsFrom]
  split <;> simp

/-- A character that a digit is written as. -/
def IsDigitChar (c : Char) : Prop :=
  ∃ d < 36, c = digitChar d

theorem isDigitChar_of_mem_digitsFrom {fuel bias k q : Nat} {c : Char}
    (member : c ∈ digitsFrom fuel bias k q) : IsDigitChar c := by
  induction fuel generalizing k q with
  | zero => simp [digitsFrom] at member
  | succ fuel ih =>
      obtain ⟨least, most⟩ := threshold_bounds k bias
      simp only [digitsFrom] at member
      split at member
      · rename_i last
        exact ⟨q, by omega, List.mem_singleton.mp member⟩
      · rcases List.mem_cons.mp member with rfl | later
        · have remainder := Nat.mod_lt (q - threshold k bias) (show 36 - threshold k bias > 0 by omega)
          exact ⟨_, by omega, rfl⟩
        · exact ih later

theorem IsDigitChar.ne_hyphen {c : Char} (digit : IsDigitChar c) : c ≠ '-' := by
  obtain ⟨d, small, rfl⟩ := digit
  have all : ∀ e < 36, digitChar e ≠ '-' := by decide
  exact all d small

/-! ## Placing characters -/

/-- The characters placed once those numbered `m` in `before` are: of the rest only lower ones. -/
def placedAt (m : Nat) (before after : List Char) : List Char :=
  before.filter (·.toNat ≤ m) ++ after.filter (·.toNat < m)

/-- The decoder has placed `placed` by the end of `written`, the next one counted from `n` and `i`. -/
def Leads (plain written : List Char) (n i bias : Nat) (placed : List Char) : Prop :=
  ∀ tail fuel, (written ++ tail).length < fuel → ∃ left, tail.length < left ∧
    decodeFrom fuel (written ++ tail) 0x80 0 72 plain = decodeFrom left tail n i bias placed

/-- One distance in the text places one character. -/
theorem decodeFrom_digits {n i bias : Nat} {placed : List Char} {delta m place : Nat}
    (position : i + delta = (m - n) * (placed.length + 1) + place)
    (reached : n ≤ m) (within : place ≤ placed.length) (valid : m.isValidChar)
    (tail : List Char) {fuel : Nat} (enough : (digits bias delta ++ tail).length < fuel) :
    ∃ left, tail.length < left ∧
      decodeFrom fuel (digits bias delta ++ tail) n i bias placed =
        decodeFrom left tail m (place + 1) (adapt delta (placed.length + 1) (i == 0))
          (placed.take place ++ Char.ofNat m :: placed.drop place) := by
  obtain ⟨d, ds, some_digits⟩ := List.exists_cons_of_ne_nil (digitsFrom_ne_nil delta bias 36 delta)
  have written : digits bias delta = d :: ds := some_digits
  have read := distance?_digits bias delta i tail
  -- The number is that of whole rounds over the places, and of a place in the round after them.
  have quotient : n + (i + delta) / (placed.length + 1) = m := by
    rw [position, Nat.add_comm (_ * _), Nat.add_mul_div_right _ _ (Nat.succ_pos _),
      Nat.div_eq_of_lt (by omega)]
    omega
  have remainder : (i + delta) % (placed.length + 1) = place := by
    rw [position, Nat.add_comm (_ * _), Nat.add_mul_mod_self_right, Nat.mod_eq_of_lt (by omega)]
  rw [written] at enough read ⊢
  obtain ⟨left, rfl⟩ : ∃ left, fuel = left + 1 := ⟨fuel - 1, by omega⟩
  refine ⟨left, by simp at enough; omega, ?_⟩
  rw [List.cons_append] at read ⊢
  rw [decodeFrom, read]
  simp only [quotient, remainder, valid, ↓reduceIte, Nat.add_sub_cancel_left]
  simp

/-! ## The encoder -/

/-- What holds of the encoder between two characters of a label while those numbered `m` are placed,
with the first characters of the label passed and the others ahead. -/
structure Encoder.Follows (plain : List Char) (m : Nat) (passed ahead : List Char) (e : Encoder) :
    Prop where
  placed : e.placed = (placedAt m passed ahead).length
  started : plain.length ≤ e.placed
  spelled : ∀ c ∈ e.written, IsDigitChar c
  leads : ∃ n i, n ≤ m ∧ (i = 0 ↔ e.placed = plain.length) ∧
    e.delta + i = (m - n) * (e.placed + 1) + (passed.filter (·.toNat ≤ m)).length ∧
    Leads plain e.written n i e.bias (placedAt m passed ahead)

theorem placedAt_lower {m : Nat} {c : Char} (lower : c.toNat < m) (before after : List Char) :
    placedAt m (before ++ [c]) after = placedAt m before (c :: after) := by
  simp [placedAt, lower, Nat.le_of_lt lower]

theorem placedAt_higher {m : Nat} {c : Char} (higher : m < c.toNat) (before after : List Char) :
    placedAt m (before ++ [c]) after = placedAt m before (c :: after) := by
  simp [placedAt, Nat.not_le.mpr higher, Nat.not_lt.mpr (Nat.le_of_lt higher)]

theorem Encoder.pass_lower {plain m : Nat} {c : Char} (lower : c.toNat < m) (e : Encoder) :
    e.pass plain m c = { e with delta := e.delta + 1 } :=
  if_pos lower

theorem Encoder.pass_same {plain m : Nat} {c : Char} (same : c.toNat = m) (e : Encoder) :
    e.pass plain m c = ⟨e.written ++ digits e.bias e.delta, 0,
      adapt e.delta (e.placed + 1) (e.placed == plain), e.placed + 1⟩ := by
  simp only [Encoder.pass, same, lt_irrefl, ↓reduceIte]

theorem Encoder.pass_higher {plain m : Nat} {c : Char} (higher : m < c.toNat) (e : Encoder) :
    e.pass plain m c = e := by
  simp only [Encoder.pass, Nat.not_lt.mpr (Nat.le_of_lt higher), Nat.ne_of_gt higher, ↓reduceIte]

section

variable {plain passed ahead : List Char} {m : Nat} {c : Char} {e : Encoder}

/-- A character that is placed already is one place further. -/
theorem Encoder.Follows.lower (follows : e.Follows plain m passed (c :: ahead))
    (lower : c.toNat < m) :
    { e with delta := e.delta + 1 }.Follows plain m (passed ++ [c]) ahead := by
  obtain ⟨count, started, spelled, n, i, reached, first, distance, leads⟩ := follows
  refine ⟨by rw [placedAt_lower lower]; exact count, started, spelled, n, i, reached, first, ?_,
    by rw [placedAt_lower lower]; exact leads⟩
  simp only [List.filter_append, List.length_append, List.filter_singleton, Nat.le_of_lt lower,
    decide_true, cond_true, List.length_singleton]
  omega

/-- A character of a later round has no place yet. -/
theorem Encoder.Follows.higher (follows : e.Follows plain m passed (c :: ahead))
    (higher : m < c.toNat) : e.Follows plain m (passed ++ [c]) ahead := by
  obtain ⟨count, started, spelled, n, i, reached, first, distance, leads⟩ := follows
  refine ⟨by rw [placedAt_higher higher]; exact count, started, spelled, n, i, reached, first, ?_,
    by rw [placedAt_higher higher]; exact leads⟩
  simp only [List.filter_append, List.length_append, List.filter_singleton,
    Nat.not_le.mpr higher, decide_false, cond_false, List.length_nil]
  omega

/-- The character of a round goes behind the placed ones that are passed. -/
theorem placedAt_same (same : c.toNat = m) :
    placedAt m (passed ++ [c]) ahead =
      (placedAt m passed (c :: ahead)).take (passed.filter (·.toNat ≤ m)).length ++
        Char.ofNat m :: (placedAt m passed (c :: ahead)).drop
          (passed.filter (·.toNat ≤ m)).length := by
  have character : Char.ofNat m = c := by rw [← same, Char.ofNat_toNat]
  simp [placedAt, same, character]

theorem length_placedAt_same (same : c.toNat = m) :
    (placedAt m (passed ++ [c]) ahead).length = (placedAt m passed (c :: ahead)).length + 1 := by
  simp [placedAt, same]
  omega

/-- The character of a round is written, and the distance starts over behind it. -/
theorem Encoder.Follows.same (follows : e.Follows plain m passed (c :: ahead))
    (same : c.toNat = m) : (e.pass plain.length m c).Follows plain m (passed ++ [c]) ahead := by
  obtain ⟨count, started, spelled, n, i, reached, first, distance, leads⟩ := follows
  have valid : m.isValidChar := same ▸ c.valid
  have within : (passed.filter (·.toNat ≤ m)).length ≤ (placedAt m passed (c :: ahead)).length := by
    simp [placedAt]
  have position : i + e.delta = (m - n) * ((placedAt m passed (c :: ahead)).length + 1) +
      (passed.filter (·.toNat ≤ m)).length := by
    rw [← count]
    omega
  have initial : (i == 0) = (e.placed == plain.length) := by
    rw [Bool.eq_iff_iff, beq_iff_eq, beq_iff_eq, first]
  have digits_spelled : ∀ d ∈ e.written ++ digits e.bias e.delta, IsDigitChar d := fun d member =>
    (List.mem_append.mp member).elim (spelled d) isDigitChar_of_mem_digitsFrom
  rw [Encoder.pass_same same]
  refine ⟨by rw [length_placedAt_same same, count], by simp only; omega, digits_spelled, m,
    (passed.filter (·.toNat ≤ m)).length + 1, le_rfl, by simp only; omega, by simp [same], ?_⟩
  intro tail fuel enough
  rw [List.append_assoc] at enough ⊢
  obtain ⟨middle, still, read⟩ := leads (digits e.bias e.delta ++ tail) fuel enough
  obtain ⟨left, last, placed⟩ := decodeFrom_digits position reached within valid tail still
  refine ⟨left, last, ?_⟩
  rw [read, placed, placedAt_same same, ← count, initial]

theorem Encoder.Follows.pass (follows : e.Follows plain m passed (c :: ahead)) :
    (e.pass plain.length m c).Follows plain m (passed ++ [c]) ahead := by
  rcases Nat.lt_trichotomy c.toNat m with lower | same | higher
  · rw [Encoder.pass_lower lower]
    exact follows.lower lower
  · exact follows.same same
  · rw [Encoder.pass_higher higher]
    exact follows.higher higher

end

theorem Encoder.Follows.foldl {plain passed ahead : List Char} {m : Nat} {e : Encoder}
    (follows : e.Follows plain m passed ahead) :
    (ahead.foldl (Encoder.pass plain.length m) e).Follows plain m (passed ++ ahead) [] := by
  induction ahead generalizing passed e with
  | nil => simpa using follows
  | cons c ahead ih =>
      have passed := ih follows.pass
      rwa [List.append_assoc, List.singleton_append] at passed

/-- Once a round is over, the characters numbered higher by one are next. -/
theorem Encoder.Follows.round {plain label : List Char} {m : Nat} {e : Encoder}
    (follows : e.Follows plain m label []) :
    { e with delta := e.delta + 1 }.Follows plain (m + 1) [] label := by
  obtain ⟨count, started, spelled, n, i, reached, first, distance, leads⟩ := follows
  have same : placedAt (m + 1) [] label = placedAt m label [] := by
    simp [placedAt]
  have all : (label.filter (·.toNat ≤ m)).length = e.placed := by
    simp [count, placedAt]
  refine ⟨by rw [same]; exact count, started, spelled, n, i, by omega, first, ?_,
    by rw [same]; exact leads⟩
  have turns : m + 1 - n = m - n + 1 := by omega
  simp only [List.filter_nil, List.length_nil, turns, Nat.add_mul, Nat.one_mul]
  omega

/-- Numbers that no character of the label has are passed over. -/
theorem Encoder.Follows.skip {plain label : List Char} {n m : Nat} {e : Encoder}
    (follows : e.Follows plain n [] label) (later : n ≤ m)
    (between : ∀ c ∈ label, c.toNat < m → c.toNat < n) :
    { e with delta := e.delta + (m - n) * (e.placed + 1) }.Follows plain m [] label := by
  obtain ⟨count, started, spelled, n', i, reached, first, distance, leads⟩ := follows
  have same : placedAt m [] label = placedAt n [] label := by
    simp only [placedAt, List.filter_nil, List.nil_append]
    refine List.filter_congr fun c member => ?_
    rw [decide_eq_decide]
    exact ⟨between c member, fun lower => by omega⟩
  refine ⟨by rw [same]; exact count, started, spelled, n', i, by omega, first, ?_,
    by rw [same]; exact leads⟩
  have turns : m - n' = n - n' + (m - n) := by omega
  simp only [List.filter_nil, List.length_nil, turns, Nat.add_mul] at distance ⊢
  omega

/-- A whole run of the encoder leaves no character of the label ahead. -/
theorem Encoder.Follows.encodeFrom {plain label : List Char} {ms : List Nat} {n : Nat} {e : Encoder}
    (follows : e.Follows plain n [] label) (ascending : ms.Pairwise (· < ·))
    (ahead : ∀ m ∈ ms, n ≤ m) (covered : ∀ c ∈ label, n ≤ c.toNat → c.toNat ∈ ms) :
    ∃ last, (∀ c ∈ label, c.toNat < last) ∧
      (Punycode.encodeFrom label plain.length ms n e).Follows plain last [] label := by
  induction ms generalizing n e with
  | nil =>
      refine ⟨n, fun c member => ?_, follows⟩
      by_contra reached
      exact absurd (covered c member (by omega)) List.not_mem_nil
  | cons m ms ih =>
      rw [List.pairwise_cons] at ascending
      have skipped := follows.skip (ahead m List.mem_cons_self) fun c member lower => by
        by_contra reached
        rcases List.mem_cons.mp (covered c member (by omega)) with same | later
        · omega
        · have := ascending.1 _ later
          omega
      refine ih skipped.foldl.round ascending.2 (fun later member => ascending.1 later member)
        fun c member reached => ?_
      rcases List.mem_cons.mp (covered c member (by have := ahead m List.mem_cons_self; omega))
        with same | later
      · omega
      · exact later

theorem mem_insertDistinct {k n : Nat} {ms : List Nat} :
    k ∈ insertDistinct n ms ↔ k = n ∨ k ∈ ms := by
  induction ms with
  | nil => simp [insertDistinct]
  | cons m ms ih =>
      simp only [insertDistinct]
      split_ifs with lower same
      · simp
      · simp [same]
      · simp only [List.mem_cons, ih]
        tauto

theorem pairwise_insertDistinct {n : Nat} {ms : List Nat} (ascending : ms.Pairwise (· < ·)) :
    (insertDistinct n ms).Pairwise (· < ·) := by
  induction ms with
  | nil => simp [insertDistinct]
  | cons m ms ih =>
      obtain ⟨above, rest⟩ := List.pairwise_cons.mp ascending
      simp only [insertDistinct]
      split_ifs with lower same
      · refine List.pairwise_cons.mpr ⟨fun k member => ?_, ascending⟩
        rcases List.mem_cons.mp member with rfl | later
        · exact lower
        · exact lt_trans lower (above k later)
      · exact ascending
      · refine List.pairwise_cons.mpr ⟨fun k member => ?_, ih rest⟩
        rcases mem_insertDistinct.mp member with rfl | later
        · omega
        · exact above k later

/-- The numbers of the characters beyond ASCII, each once. -/
theorem distinct_spec (cs : List Char) :
    (cs.foldr (fun c ns => insertDistinct c.toNat ns) []).Pairwise (· < ·) ∧
      ∀ k, k ∈ cs.foldr (fun c ns => insertDistinct c.toNat ns) [] ↔ ∃ c ∈ cs, c.toNat = k := by
  induction cs with
  | nil => simp
  | cons c cs ih =>
      refine ⟨pairwise_insertDistinct ih.1, fun k => ?_⟩
      rw [List.foldr_cons, mem_insertDistinct, ih.2, List.exists_mem_cons_iff]
      exact or_congr_left eq_comm

theorem Encoder.start_follows (label : List Char) :
    (⟨[], 0, 72, (label.filter (·.toNat < 0x80)).length⟩ : Encoder).Follows
      (label.filter (·.toNat < 0x80)) 0x80 [] label := by
  refine ⟨by simp [placedAt], le_rfl, by simp, 0x80, 0, le_rfl, by simp, by simp, ?_⟩
  intro tail fuel enough
  exact ⟨fuel, enough, by simp [placedAt]⟩

/-! ## The whole text -/

theorem cutPlain_of_not_mem {s : List Char} (bare : '-' ∉ s) : cutPlain s = ([], s) := by
  have kept : s.reverse.takeWhile (· ≠ '-') = s.reverse := by
    refine List.takeWhile_eq_self_iff.mpr fun c member => ?_
    rw [decide_eq_true_eq]
    rintro rfl
    exact bare (List.mem_reverse.mp member)
  simp only [cutPlain, kept, List.reverse_reverse, ↓reduceIte]

theorem cutPlain_append {plain s : List Char} (bare : '-' ∉ s) :
    cutPlain (plain ++ '-' :: s) = (plain, s) := by
  have inside : ∀ c ∈ s, decide (c ≠ '-') = true := by
    intro c member
    rw [decide_eq_true_eq]
    rintro rfl
    exact bare member
  have after : ((plain ++ '-' :: s).reverse.takeWhile (· ≠ '-')).reverse = s :=
    Text.takeWhile_reverse_append inside (by decide) plain
  have longer : s.length ≠ (plain ++ '-' :: s).length := by
    simp only [List.length_append, List.length_cons]
    omega
  simp only [cutPlain, after, longer, ↓reduceIte, Text.length_before, List.take_left]

theorem mem_of_cutPlain {s : List Char} {c : Char} (member : c ∈ s) :
    c ∈ (cutPlain s).1 ∨ c = '-' ∨ c ∈ (cutPlain s).2 := by
  by_cases hyphened : '-' ∈ s
  · obtain ⟨after, before, split, bare⟩ := List.eq_append_cons_of_mem (List.mem_reverse.mpr hyphened)
    have cut : s = before.reverse ++ '-' :: after.reverse := by
      simpa using congrArg List.reverse split
    rw [cut, cutPlain_append (by simpa using bare)]
    rw [cut, List.mem_append, List.mem_cons] at member
    exact member
  · rw [cutPlain_of_not_mem hyphened]
    exact .inr (.inr member)

/-- The text of a label: its plain characters, a hyphen after them if there are any, and digits. -/
theorem encode_spec (label : List Char) :
    ∃ written n i bias, encode label =
        (if (label.filter (·.toNat < 0x80)).isEmpty then []
          else label.filter (·.toNat < 0x80) ++ ['-']) ++ written ∧
      (∀ c ∈ written, IsDigitChar c) ∧
      Leads (label.filter (·.toNat < 0x80)) written n i bias label := by
  obtain ⟨ascending, listed⟩ := distinct_spec (label.filter (0x80 ≤ ·.toNat))
  obtain ⟨last, below, follows⟩ := (Encoder.start_follows label).encodeFrom ascending
    (fun m member => by
      obtain ⟨c, high, rfl⟩ := (listed m).mp member
      simpa using (List.mem_filter.mp high).2)
    (fun c member high => (listed _).mpr ⟨c, List.mem_filter.mpr ⟨member, by simpa using high⟩, rfl⟩)
  obtain ⟨n, i, -, -, -, leads⟩ := follows.leads
  have whole : placedAt last [] label = label := by
    simpa [placedAt, List.filter_eq_self] using below
  rw [whole] at leads
  exact ⟨_, n, i, _, rfl, follows.spelled, leads⟩

theorem decode?_encode (label : List Char) : decode? (encode label) = some label := by
  obtain ⟨written, n, i, bias, text, spelled, leads⟩ := encode_spec label
  have bare : '-' ∉ written := fun member => (spelled _ member).ne_hyphen rfl
  have cut : cutPlain (encode label) = (label.filter (·.toNat < 0x80), written) := by
    rw [text]
    split_ifs with none_plain
    · rw [List.nil_append, cutPlain_of_not_mem bare, List.isEmpty_iff.mp none_plain]
    · rw [List.append_assoc, List.singleton_append, cutPlain_append bare]
  have plain : (label.filter (·.toNat < 0x80)).all (·.toNat < 0x80) = true := by
    simp
  obtain ⟨left, enough, read⟩ := leads [] (written.length + 1) (by simp)
  rw [List.append_nil] at read
  obtain ⟨fuel, rfl⟩ : ∃ fuel, left = fuel + 1 := ⟨left - 1, by simp at enough; omega⟩
  simp only [decode?, cut, plain, ↓reduceIte, read, decodeFrom]

/-- The text of a label is of its plain characters, hyphens and digits. -/
theorem mem_encode {label : List Char} {c : Char} (member : c ∈ encode label) :
    c ∈ label.filter (·.toNat < 0x80) ∨ c = '-' ∨ IsDigitChar c := by
  obtain ⟨written, _, _, _, text, spelled, -⟩ := encode_spec label
  rw [text] at member
  rcases List.mem_append.mp member with before | after
  · split_ifs at before
    · exact absurd before List.not_mem_nil
    · rcases List.mem_append.mp before with plain | hyphen
      · exact .inl plain
      · exact .inr (.inl (List.mem_singleton.mp hyphen))
  · exact .inr (.inr (spelled c after))

/-! ## Texts that are decoded -/

theorem toNat_lt_of_digit? {c : Char} {d : Nat} (digit : digit? c = some d) :
    c.toNat < 0x80 := by
  simp only [digit?, Char.le_def, UInt32.le_iff_toNat_le] at digit
  change c.val.toNat < _
  split_ifs at digit with lower upper number
  · exact lt_of_le_of_lt lower.2 (by decide)
  · exact lt_of_le_of_lt upper.2 (by decide)
  · exact lt_of_le_of_lt number.2 (by decide)

/-- What a number is read from is of ASCII. -/
theorem ascii_of_distance? {bias : Nat} {s rest : List Char} {k weight i j : Nat}
    (read : distance? bias s k weight i = some (j, rest)) :
    ∃ used, s = used ++ rest ∧ ∀ c ∈ used, c.toNat < 0x80 := by
  induction s generalizing k weight i with
  | nil => simp [distance?] at read
  | cons c s ih =>
      simp only [distance?] at read
      split at read
      · cases read
      · rename_i d digit
        have ascii := toNat_lt_of_digit? digit
        split at read
        · simp only [Option.some.injEq, Prod.mk.injEq] at read
          exact ⟨[c], by rw [← read.2, List.singleton_append], by simpa using ascii⟩
        · obtain ⟨used, rfl, all⟩ := ih read
          exact ⟨c :: used, rfl, by simpa [ascii] using all⟩

theorem ascii_of_decodeFrom {fuel n i bias : Nat} {s placed decoded : List Char}
    (read : decodeFrom fuel s n i bias placed = some decoded) : ∀ c ∈ s, c.toNat < 0x80 := by
  induction fuel generalizing s n i bias placed with
  | zero => simp [decodeFrom] at read
  | succ fuel ih =>
      cases s with
      | nil => simp
      | cons c s =>
          simp only [decodeFrom] at read
          split at read
          · cases read
          · rename_i next rest distance
            obtain ⟨used, split, ascii⟩ := ascii_of_distance? distance
            split at read
            · intro d member
              rw [split] at member
              exact (List.mem_append.mp member).elim (ascii d) (ih read d)
            · cases read

theorem ascii_of_decode? {s decoded : List Char}
    (read : decode? s = some decoded) : ∀ c ∈ s, c.toNat < 0x80 := by
  simp only [decode?] at read
  split at read
  · rename_i plain
    rw [List.all_eq_true] at plain
    intro c member
    rcases mem_of_cutPlain member with before | rfl | after
    · simpa using plain c before
    · decide
    · exact ascii_of_decodeFrom read c after
  · cases read

end PageExtract.Url.Punycode
