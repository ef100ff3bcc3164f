import PageExtract.Proofs.Domains
import PageExtract.Url.Address

/-!
Addresses read back: an address of 32 bits from its four numbers, one of 128 bits from its groups
around the longest run of zeros.
-/

set_option autoImplicit false

namespace PageExtract.Url

/-! ## Numerals -/

theorem mem_toDigits {base n : Nat} (large : 1 < base) {c : Char}
    (member : c ∈ Nat.toDigits base n) : ∃ d < base, c = Nat.digitChar d := by
  induction n using Nat.strong_induction_on with
  | _ n ih =>
      rcases Nat.lt_or_ge n base with small | more
      · rw [Nat.toDigits_of_lt_base small, List.mem_singleton] at member
        exact ⟨n, small, member⟩
      · rw [Nat.toDigits_of_base_le large more, List.mem_append, List.mem_singleton] at member
        rcases member with before | last
        · exact ih (n / base) (Nat.div_lt_self (by omega) large) before
        · exact ⟨n % base, Nat.mod_lt n (by omega), last⟩

theorem hexDigit?_digitChar {d : Nat} (small : d < 16) :
    Text.Ranges.hexDigit? (Nat.digitChar d) = some d := by
  have all : ∀ e < 16, Text.Ranges.hexDigit? (Nat.digitChar e) = some e := by decide
  exact all d small

theorem isBaseDigit_toDigits {base n : Nat} (large : 1 < base) (known : base ≤ 16) {c : Char}
    (member : c ∈ Nat.toDigits base n) : isBaseDigit base c = true := by
  obtain ⟨d, small, rfl⟩ := mem_toDigits large member
  simp only [isBaseDigit, hexDigit?_digitChar (lt_of_lt_of_le small known), small, decide_true]

/-- A number is read from its digits. -/
theorem digitsValue_toDigits {base : Nat} (large : 1 < base) (known : base ≤ 16) (n : Nat) :
    digitsValue base (Nat.toDigits base n) = n := by
  induction n using Nat.strong_induction_on with
  | _ n ih =>
      rcases Nat.lt_or_ge n base with small | more
      · rw [Nat.toDigits_of_lt_base small]
        simp [digitsValue, hexDigit?_digitChar (lt_of_lt_of_le small known)]
      · have last : n % base < 16 := lt_of_lt_of_le (Nat.mod_lt n (by omega)) known
        have before := ih (n / base) (Nat.div_lt_self (by omega) large)
        rw [digitsValue] at before
        rw [Nat.toDigits_of_base_le large more, digitsValue, List.foldl_append, before]
        simp only [List.foldl_cons, List.foldl_nil, hexDigit?_digitChar last, Option.getD_some]
        exact Nat.div_add_mod' n base

theorem toDigits_ne_nil (base n : Nat) : Nat.toDigits base n ≠ [] :=
  List.ne_nil_of_length_pos Nat.length_toDigits_pos

/-- No number but zero is written with a leading zero. -/
theorem head?_toDigits {n : Nat} (positive : 0 < n) : (Nat.toDigits 10 n).head? ≠ some '0' := by
  induction n using Nat.strong_induction_on with
  | _ n ih =>
      rcases Nat.lt_or_ge n 10 with small | more
      · have all : ∀ d < 10, 0 < d → Nat.digitChar d ≠ '0' := by decide
        rw [Nat.toDigits_of_lt_base small]
        simpa using all n small positive
      · rw [Nat.toDigits_of_base_le (by decide) more,
          List.head?_append_of_ne_nil _ (toDigits_ne_nil 10 (n / 10))]
        exact ih (n / 10) (Nat.div_lt_self positive (by decide)) (by omega)

/-! ## 32 bits -/

theorem numeral_toDigits_ten (n : Nat) : addressNumber?.numeral 10 (Nat.toDigits 10 n) = some n := by
  have digits : (Nat.toDigits 10 n).all (isBaseDigit 10) = true := by
    rw [List.all_eq_true]
    exact fun c member => isBaseDigit_toDigits (by decide) (by decide) member
  rw [addressNumber?.numeral, if_pos digits, digitsValue_toDigits (by decide) (by decide)]

theorem addressNumber?_toDigits (n : Nat) : addressNumber? (Nat.toDigits 10 n) = some n := by
  rcases Nat.eq_zero_or_pos n with rfl | positive
  · rfl
  · have value := numeral_toDigits_ten n
    have leading := head?_toDigits positive
    generalize digits : Nat.toDigits 10 n = s at value leading
    unfold addressNumber?
    split
    · exact absurd digits (toDigits_ne_nil 10 n)
    · exact absurd rfl leading
    · exact absurd rfl leading
    · exact absurd rfl leading
    · exact value

/-- The four numbers of an address. -/
def bytes32 (n : Nat) : List Nat :=
  [n / 2 ^ 24, n / 2 ^ 16 % 256, n / 2 ^ 8 % 256, n % 256]

theorem address32Text_eq (n : Nat) :
    address32Text n = ['.'].intercalate ((bytes32 n).map (Nat.toDigits 10)) := rfl

theorem isDomainChar_toDigits {n : Nat} {c : Char} (member : c ∈ Nat.toDigits 10 n) :
    IsDomainChar c ∧ c ≠ '.' ∧ c ≠ 'x' := by
  obtain ⟨d, small, rfl⟩ := mem_toDigits (by decide) member
  have all : ∀ d < 10, (Nat.digitChar d).toNat < 0x80 ∧ isPlain (Nat.digitChar d) = true ∧
      isForbidden (Nat.digitChar d) = false ∧ Nat.digitChar d ≠ '.' ∧ Nat.digitChar d ≠ 'x' := by
    decide
  obtain ⟨ascii, plain, allowed, others⟩ := all d small
  exact ⟨⟨ascii, plain, allowed⟩, others⟩

theorem writtenLabel_toDigits (n : Nat) : WrittenLabel (Nat.toDigits 10 n) := by
  have domain : ∀ c ∈ Nat.toDigits 10 n, IsDomainChar c := fun c member =>
    (isDomainChar_toDigits member).1
  refine ⟨domain, fun dot => (isDomainChar_toDigits dot).2.1 rfl, ?_⟩
  have label := isLabel_of_domain domain
  have ascii : (Nat.toDigits 10 n).all (·.toNat < 0x80) = true := by
    simp only [List.all_eq_true, decide_eq_true_eq]
    exact fun c member => (domain c member).ascii
  have unmarked : 'x' ∉ Nat.toDigits 10 n := fun mark => (isDomainChar_toDigits mark).2.2 rfl
  generalize Nat.toDigits 10 n = digits at label ascii unmarked
  simp only [writtenLabel?, label, Bool.not_true, Bool.false_eq_true, ↓reduceIte, ascii]
  split
  · exact absurd List.mem_cons_self unmarked
  · rfl

/-- The text of an address of 32 bits is the written form of a domain name. -/
theorem domain?_address32Text (n : Nat) :
    (∀ c ∈ address32Text n, IsDomainChar c) ∧ domain? (address32Text n) = some (address32Text n) := by
  have written : ∀ w ∈ (bytes32 n).map (Nat.toDigits 10), WrittenLabel w := by
    intro w member
    obtain ⟨k, -, rfl⟩ := List.mem_map.mp member
    exact writtenLabel_toDigits k
  exact domain?_intercalate (by simp) written

theorem addressParts_address32Text (n : Nat) :
    addressParts (address32Text n) = (bytes32 n).map (Nat.toDigits 10) := by
  have undotted : ∀ part ∈ (bytes32 n).map (Nat.toDigits 10), '.' ∉ part := by
    intro part member
    obtain ⟨k, -, rfl⟩ := List.mem_map.mp member
    exact (writtenLabel_toDigits k).undotted
  rw [address32Text_eq, addressParts, Text.splitAt_intercalate (by simp [bytes32]) undotted]
  simp [bytes32]

theorem endsInNumber_address32Text (n : Nat) : endsInNumber (address32Text n) = true := by
  have digits : (Nat.toDigits 10 (n % 256)).all Char.isDigit = true := by
    rw [List.all_eq_true]
    exact fun c member => Nat.isDigit_of_mem_toDigits (by decide) (by decide) member
  have last : (addressParts (address32Text n)).getLast? = some (Nat.toDigits 10 (n % 256)) := by
    rw [addressParts_address32Text]
    rfl
  simp only [endsInNumber, last]
  split
  · rename_i none_last
    cases none_last
  · rename_i empty
    exact absurd (Option.some.inj empty) (toDigits_ne_nil 10 _)
  · rename_i part _ same
    cases same
    rw [digits, Bool.true_or]

theorem addressNumbers?_map (ns : List Nat) :
    addressNumbers? (ns.map (Nat.toDigits 10)) = some ns := by
  induction ns with
  | nil => rfl
  | cons n ns ih => simp only [List.map_cons, addressNumbers?, addressNumber?_toDigits, ih]

/-- An address of 32 bits is read from its text. -/
theorem address32?_address32Text {n : Nat} (small : n < 2 ^ 32) :
    address32? (address32Text n) = some n := by
  have last : (bytes32 n).getLast? = some (n % 256) := rfl
  have leading : (bytes32 n).dropLast = [n / 2 ^ 24, n / 2 ^ 16 % 256, n / 2 ^ 8 % 256] := rfl
  have one : Nat.pow 256 (4 - (0 + 1 + 1 + 1)) = 256 := rfl
  have bytes : ¬(256 ≤ n % 256 ∨
      [n / 2 ^ 24, n / 2 ^ 16 % 256, n / 2 ^ 8 % 256].any (255 < ·) = true) := by
    simp only [List.any_cons, List.any_nil, Bool.or_false, Bool.or_eq_true, decide_eq_true_eq]
    omega
  simp only [address32?, addressParts_address32Text, addressNumbers?_map, last, leading,
    List.length_cons, List.length_nil, one]
  rw [if_neg (by simp [bytes32]), if_neg bytes]
  simp only [List.foldr_cons, List.foldr_nil, Option.some.injEq]
  omega

theorem length_addressNumbers? {parts : List (List Char)} {ns : List Nat}
    (read : addressNumbers? parts = some ns) : ns.length = parts.length := by
  induction parts generalizing ns with
  | nil =>
      cases read
      rfl
  | cons part parts ih =>
      simp only [addressNumbers?] at read
      split at read
      · rename_i n ns first later
        cases read
        simp [ih later]
      · cases read

/-- Bytes before a number put it below the next power. -/
theorem foldr_bytes_lt {leading : List Nat} (bytes : ∀ n ∈ leading, n ≤ 255) {weight last : Nat}
    (small : last < weight) :
    (leading.foldr (fun n (acc : Nat × Nat) => (acc.1 * 256, acc.2 + n * acc.1)) (weight, last)).2 <
      weight * 256 ^ leading.length ∧
    (leading.foldr (fun n (acc : Nat × Nat) => (acc.1 * 256, acc.2 + n * acc.1)) (weight, last)).1 =
      weight * 256 ^ leading.length := by
  induction leading with
  | nil => simpa using small
  | cons n leading ih =>
      obtain ⟨below, power⟩ := ih fun m member => bytes m (List.mem_cons_of_mem n member)
      have byte := bytes n List.mem_cons_self
      simp only [List.foldr_cons, power, List.length_cons, pow_succ]
      refine ⟨?_, by ring⟩
      have most : n * (weight * 256 ^ leading.length) ≤ 255 * (weight * 256 ^ leading.length) :=
        Nat.mul_le_mul_right _ byte
      rw [← Nat.mul_assoc weight]
      omega

theorem address32?_lt {host : List Char} {n : Nat} (read : address32? host = some n) :
    n < 2 ^ 32 := by
  simp only [address32?] at read
  split at read
  · cases read
  · rename_i few
    split at read
    · cases read
    · rename_i numbers parsed
      have count := length_addressNumbers? parsed
      split at read
      · cases read
      · rename_i last _
        split at read
        · cases read
        · rename_i bounds
          simp only [not_or, Nat.not_le, Bool.not_eq_true, List.any_eq_false, decide_eq_true_eq,
            Nat.not_lt] at bounds
          obtain ⟨small, bytes⟩ := bounds
          have few_leading : numbers.dropLast.length ≤ 4 := by
            rw [List.length_dropLast]
            omega
          have total : 256 ^ (4 - numbers.dropLast.length) * 256 ^ numbers.dropLast.length = 2 ^ 32 := by
            rw [← pow_add, Nat.sub_add_cancel few_leading]
            norm_num
          rw [← Option.some.inj read, ← total]
          exact (foldr_bytes_lt bytes small).1

/-! ## 128 bits -/

/-- The groups of an address with colons between them. -/
def shownGroups (gs : List Nat) : List Char :=
  [':'].intercalate (gs.map (Nat.toDigits 16))

theorem shownGroups_cons {v : Nat} {gs : List Nat} (more : gs ≠ []) :
    shownGroups (v :: gs) = Nat.toDigits 16 v ++ ':' :: shownGroups gs := by
  rw [shownGroups, List.map_cons, List.intercalate_cons_of_ne_nil (by simpa using more),
    List.append_assoc, List.singleton_append, shownGroups]

theorem shownGroups_singleton (v : Nat) : shownGroups [v] = Nat.toDigits 16 v :=
  List.intercalate_singleton

/-- The digits of a group are read up to the colon or the end after them. -/
theorem groupDigits_append {v : Nat} (small : v < 2 ^ 16) {rest : List Char}
    (ends : rest = [] ∨ ∃ tail, rest = ':' :: tail) :
    ((Nat.toDigits 16 v ++ rest).take 4).takeWhile (isBaseDigit 16) = Nat.toDigits 16 v := by
  have short : (Nat.toDigits 16 v).length ≤ 4 :=
    (Nat.length_toDigits_le_iff (by decide) (by decide)).mpr (by omega)
  have digits : ∀ c ∈ Nat.toDigits 16 v, isBaseDigit 16 c = true := fun c member =>
    isBaseDigit_toDigits (by decide) (by decide) member
  have after : (rest.take (4 - (Nat.toDigits 16 v).length)).takeWhile (isBaseDigit 16) = [] := by
    rcases ends with rfl | ⟨tail, rfl⟩
    · simp
    · have colon : isBaseDigit 16 ':' = false := by decide
      cases 4 - (Nat.toDigits 16 v).length <;> simp [colon]
  rw [List.take_append, List.take_of_length_le short, List.takeWhile_append_of_pos digits, after,
    List.append_nil]

theorem colon_not_mem_toDigits (v : Nat) : ':' ∉ Nat.toDigits 16 v := by
  intro member
  have digit := isBaseDigit_toDigits (by decide) (by decide) member
  exact absurd digit (by decide)

/-- How many groups there is no room for. -/
def Groups.taken (g : Groups) : Nat :=
  g.read.length + if g.gap.isSome then 1 else 0

/-- A group is read as its number, and what comes after it as more groups. -/
theorem groups?_toDigits {v fuel : Nat} (small : v < 2 ^ 16) {g : Groups} (room : g.taken < 8)
    {rest : List Char} (ends : rest = [] ∨ ∃ c tail, rest = ':' :: c :: tail) :
    groups? (fuel + 1) (Nat.toDigits 16 v ++ rest) g =
      groups? fuel rest.tail { g with read := g.read ++ [v] } := by
  obtain ⟨d, ds, digits⟩ := List.exists_cons_of_ne_nil (toDigits_ne_nil 16 v)
  have first : d ≠ ':' := by
    rintro rfl
    exact colon_not_mem_toDigits v (digits ▸ List.mem_cons_self)
  have read := groupDigits_append small (ends.imp_right fun ⟨c, tail, same⟩ => ⟨c :: tail, same⟩)
  have space : ¬(g.read.length + if g.gap.isSome = true then 1 else 0) ≥ 8 := Nat.not_le.mpr room
  have dropped : (Nat.toDigits 16 v ++ rest).drop (Nat.toDigits 16 v).length = rest := List.drop_left
  rw [groups?.eq_4 _ _ _ (by simp [digits]) (by simp [digits, first]), if_neg space]
  simp only [read, dropped, digitsValue_toDigits (show 1 < 16 by decide) (show 16 ≤ 16 by decide)]
  rcases ends with rfl | ⟨c, tail, rfl⟩
  · simp [groups?]
  · simp

theorem shownGroups_ne_nil {gs : List Nat} (some_group : gs ≠ []) :
    ∃ c tail, shownGroups gs = c :: tail := by
  refine List.exists_cons_of_ne_nil fun empty => ?_
  obtain ⟨v, gs, rfl⟩ := List.exists_cons_of_ne_nil some_group
  by_cases more : gs = []
  · rw [more, shownGroups_singleton] at empty
    exact toDigits_ne_nil 16 v empty
  · rw [shownGroups_cons more] at empty
    exact absurd empty (by simp)

theorem Groups.taken_read (g : Groups) (v : Nat) :
    ({ g with read := g.read ++ [v] } : Groups).taken = g.taken + 1 := by
  simp only [Groups.taken, List.length_append, List.length_singleton]
  omega

/-- Groups up to the end are read as their numbers. -/
theorem groups?_shownGroups {gs : List Nat} (small : ∀ v ∈ gs, v < 2 ^ 16) {fuel : Nat}
    {g : Groups} (room : g.taken + gs.length ≤ 8) (enough : gs.length ≤ fuel) :
    groups? fuel (shownGroups gs) g = some { g with read := g.read ++ gs } := by
  induction gs generalizing fuel g with
  | nil => simp [shownGroups, groups?]
  | cons v gs ih =>
      rw [List.length_cons] at room enough
      obtain ⟨fuel, rfl⟩ : ∃ left, fuel = left + 1 := ⟨fuel - 1, by omega⟩
      have first := small v List.mem_cons_self
      have later := ih (fun w member => small w (List.mem_cons_of_mem v member))
        (show ({ g with read := g.read ++ [v] } : Groups).taken + gs.length ≤ 8 by
          rw [Groups.taken_read]
          omega) (show gs.length ≤ fuel by omega)
      by_cases more : gs = []
      · have last : groups? (fuel + 1) (Nat.toDigits 16 v ++ []) g = _ :=
          groups?_toDigits first (by omega) (.inl rfl)
        rw [List.append_nil] at last
        rw [more, shownGroups_singleton, last]
        simp [groups?]
      · obtain ⟨c, tail, text⟩ := shownGroups_ne_nil more
        rw [shownGroups_cons more, groups?_toDigits first (by omega) (.inr ⟨c, tail, by rw [text]⟩),
          List.tail_cons, later, List.append_assoc, List.singleton_append]

/-- Groups up to the gap are read as their numbers, and what comes after it as more groups. -/
theorem groups?_gap {gs : List Nat} (some_group : gs ≠ []) (small : ∀ v ∈ gs, v < 2 ^ 16)
    {fuel : Nat} {read : List Nat} (room : read.length + gs.length < 8) (rest : List Char) :
    groups? (gs.length + 1 + fuel) (shownGroups gs ++ ':' :: ':' :: rest) ⟨read, none⟩ =
      groups? fuel rest ⟨read ++ gs, some (read ++ gs).length⟩ := by
  induction gs generalizing read with
  | nil => exact absurd rfl some_group
  | cons v gs ih =>
      rw [List.length_cons] at room
      have first := small v List.mem_cons_self
      have taken : (⟨read, none⟩ : Groups).taken < 8 := by
        simp only [Groups.taken, Option.isSome_none, Bool.false_eq_true, ↓reduceIte]
        omega
      have turns : (v :: gs).length + 1 + fuel = gs.length + 1 + fuel + 1 := by
        rw [List.length_cons]
        omega
      rw [turns]
      by_cases more : gs = []
      · subst more
        rw [shownGroups_singleton, groups?_toDigits first taken (.inr ⟨':', rest, rfl⟩)]
        have space : ¬(read ++ [v]).length ≥ 8 := by
          rw [List.length_append, List.length_singleton]
          omega
        have one : ([] : List Nat).length + 1 + fuel = fuel + 1 := by
          rw [List.length_nil]
          omega
        rw [one, List.tail_cons, groups?.eq_3]
        simp only [Option.isSome_none, Bool.false_eq_true, space, or_self, ↓reduceIte]
      · obtain ⟨c, tail, text⟩ := shownGroups_ne_nil more
        have space : (read ++ [v]).length + gs.length < 8 := by
          rw [List.length_append, List.length_singleton]
          omega
        rw [shownGroups_cons more, List.append_assoc, List.cons_append,
          groups?_toDigits first taken (.inr ⟨c, tail ++ ':' :: ':' :: rest, by rw [text]; rfl⟩),
          List.tail_cons, ih more (fun w member => small w (List.mem_cons_of_mem v member)) space,
          List.append_assoc, List.singleton_append]

/-- Where a run of zeros starts and how long it is. -/
def ZeroRun (groups : List Nat) (run : Nat × Nat) : Prop :=
  run.1 + run.2 ≤ groups.length ∧ (groups.drop run.1).take run.2 = List.replicate run.2 0

theorem zeroRun_takeWhile {groups : List Nat} {start : Nat} (inside : start < groups.length) :
    ZeroRun groups (start, ((groups.drop start).takeWhile (· == 0)).length) := by
  have short := ((groups.drop start).takeWhile_sublist (· == 0)).length_le
  have zeros : ∀ v ∈ (groups.drop start).takeWhile (· == 0), v = 0 := fun v member => by
    simpa using List.mem_takeWhile_imp member
  rw [List.length_drop] at short
  refine ⟨by simp only; omega, ?_⟩
  rw [← List.prefix_iff_eq_take.mp (List.takeWhile_prefix _)]
  exact List.eq_replicate_of_mem zeros

theorem zeroRun_longestZeros (groups : List Nat) : ZeroRun groups (longestZeros groups) := by
  simp only [longestZeros]
  refine List.foldlRecOn _ _ ⟨by simp, by simp⟩ fun best run start member => ?_
  split
  · exact zeroRun_takeWhile (List.mem_range.mp member)
  · exact run

/-- The groups before a run of zeros, the run and the groups after it. -/
theorem ZeroRun.whole {groups : List Nat} {run : Nat × Nat} (zeros : ZeroRun groups run) :
    groups.take run.1 ++ (List.replicate run.2 0 ++ groups.drop (run.1 + run.2)) = groups := by
  rw [← zeros.2, ← List.drop_drop, List.take_append_drop, List.take_append_drop]

/-- The eight groups, with zeros where the gap is. -/
def Groups.filled (g : Groups) : Option (List Nat) :=
  match g with
  | ⟨groups, none⟩ => if groups.length = 8 then some groups else none
  | ⟨groups, some gap⟩ =>
    some (groups.take gap ++ List.replicate (8 - groups.length) 0 ++ groups.drop gap)

theorem address128?_of_gap {rest : List Char} {g : Groups}
    (read : groups? (rest.length + 3) rest ⟨[], some 0⟩ = some g) :
    address128? (':' :: ':' :: rest) = g.filled := by
  obtain ⟨groups, gap⟩ := g
  simp only [address128?, List.length_cons, read]
  cases gap <;> rfl

theorem address128?_of_first {c d : Char} {tail : List Char} (first : c ≠ ':') {g : Groups}
    (read : groups? ((c :: d :: tail).length + 1) (c :: d :: tail) ⟨[], none⟩ = some g) :
    address128? (c :: d :: tail) = g.filled := by
  obtain ⟨groups, gap⟩ := g
  unfold address128?
  split
  · rename_i colon
    exact absurd (List.cons.inj colon).1 first
  · rename_i colon
    exact absurd (List.cons.inj colon).1 first
  · rename_i none_left
    cases none_left
  · rename_i one
    cases one
  · simp only [read]
    cases gap <;> rfl

theorem length_shownGroups (gs : List Nat) : gs.length ≤ (shownGroups gs).length := by
  induction gs with
  | nil => exact Nat.zero_le _
  | cons v gs ih =>
      by_cases more : gs = []
      · rw [more, shownGroups_singleton]
        exact Nat.length_toDigits_pos
      · rw [shownGroups_cons more]
        simp only [List.length_append, List.length_cons]
        omega

/-- Groups with more after them start with a digit. -/
theorem shownGroups_append {gs : List Nat} (some_group : gs ≠ []) (e : Char) (rest : List Char) :
    ∃ c d tail, shownGroups gs ++ e :: rest = c :: d :: tail ∧ c ≠ ':' := by
  obtain ⟨v, gs, rfl⟩ := List.exists_cons_of_ne_nil some_group
  obtain ⟨c, ds, digits⟩ := List.exists_cons_of_ne_nil (toDigits_ne_nil 16 v)
  have first : c ≠ ':' := by
    rintro rfl
    exact colon_not_mem_toDigits v (digits ▸ List.mem_cons_self)
  have longer : ∀ s : List Char, s ≠ [] → ∃ d tail, c :: (ds ++ s) = c :: d :: tail := by
    intro s more
    obtain ⟨d, tail, same⟩ := List.exists_cons_of_ne_nil (List.append_ne_nil_of_right_ne_nil ds more)
    exact ⟨d, tail, by rw [same]⟩
  by_cases more : gs = []
  · obtain ⟨d, tail, same⟩ := longer (e :: rest) (by simp)
    exact ⟨c, d, tail, by rw [more, shownGroups_singleton, digits, List.cons_append, same], first⟩
  · obtain ⟨d, tail, same⟩ := longer (':' :: (shownGroups gs ++ e :: rest)) (by simp)
    refine ⟨c, d, tail, ?_, first⟩
    rw [shownGroups_cons more, digits, List.append_assoc, List.cons_append, List.cons_append, same]

/-- An address without a gap is read from its eight groups. -/
theorem address128?_shownGroups {groups : List Nat} (eight : groups.length = 8)
    (small : ∀ v ∈ groups, v < 2 ^ 16) : address128? (shownGroups groups) = some groups := by
  have room : (⟨[], none⟩ : Groups).taken + groups.length ≤ 8 := by
    simp [Groups.taken, eight]
  have enough := length_shownGroups groups
  have read := groups?_shownGroups small room (Nat.le_succ_of_le enough)
  have some_group : groups ≠ [] := List.ne_nil_of_length_pos (by omega)
  obtain ⟨v, gs, rfl⟩ := List.exists_cons_of_ne_nil some_group
  have more : gs ≠ [] := List.ne_nil_of_length_pos (by simp at eight; omega)
  obtain ⟨c, d, tail, text, first⟩ :=
    shownGroups_append (List.cons_ne_nil v []) ':' (shownGroups gs)
  rw [shownGroups_singleton, ← shownGroups_cons more] at text
  rw [text] at read ⊢
  rw [address128?_of_first first read]
  simp only [Groups.filled, List.nil_append, eight, ↓reduceIte]

/-- An address is read from the groups before and after its gap. -/
theorem address128?_gap {left right : List Nat} (short : left.length + right.length < 8)
    (left_small : ∀ v ∈ left, v < 2 ^ 16) (right_small : ∀ v ∈ right, v < 2 ^ 16) :
    address128? (shownGroups left ++ ':' :: ':' :: shownGroups right) =
      some (left ++ List.replicate (8 - (left.length + right.length)) 0 ++ right) := by
  have enough := length_shownGroups right
  by_cases none_left : left = []
  -- The reader starts behind both colons of a gap that comes first.
  · subst none_left
    have room : (⟨[], some 0⟩ : Groups).taken + right.length ≤ 8 := by
      simp only [Groups.taken, List.length_nil, Option.isSome_some, ↓reduceIte] at short ⊢
      omega
    have empty : shownGroups [] = [] := rfl
    rw [empty, List.nil_append, address128?_of_gap (groups?_shownGroups right_small room (by omega))]
    simp [Groups.filled]
  · obtain ⟨c, d, tail, text, first⟩ :=
      shownGroups_append none_left ':' (':' :: shownGroups right)
    have room : (⟨left, some left.length⟩ : Groups).taken + right.length ≤ 8 := by
      simp only [Groups.taken, Option.isSome_some, ↓reduceIte]
      omega
    have before := length_shownGroups left
    have fuel : (c :: d :: tail).length + 1 = left.length + 1 +
        ((c :: d :: tail).length - left.length) := by
      rw [← text, List.length_append]
      omega
    have read : groups? ((c :: d :: tail).length + 1) (c :: d :: tail) ⟨[], none⟩ =
        some ⟨left ++ right, some left.length⟩ := by
      rw [fuel, ← text, groups?_gap none_left left_small (by simpa using by omega), List.nil_append,
        groups?_shownGroups right_small room]
      rw [List.length_append, List.length_cons, List.length_cons]
      omega
    rw [text, address128?_of_first first read]
    simp [Groups.filled]

/-- An address of 128 bits is read from its text. -/
theorem address128?_address128Text {groups : List Nat} (eight : groups.length = 8)
    (small : ∀ v ∈ groups, v < 2 ^ 16) : address128? (address128Text groups) = some groups := by
  have zeros := zeroRun_longestZeros groups
  have whole := zeros.whole
  simp only [address128Text]
  generalize longestZeros groups = run at zeros whole
  obtain ⟨start, length⟩ := run
  have bound : start + length ≤ 8 := eight ▸ zeros.1
  simp only at whole ⊢
  split
  · exact address128?_shownGroups eight small
  · rename_i long
    have left_length : (groups.take start).length = start := by
      rw [List.length_take]
      omega
    have right_length : (groups.drop (start + length)).length = 8 - (start + length) := by
      rw [List.length_drop, eight]
    have gap : 8 - ((groups.take start).length + (groups.drop (start + length)).length) = length := by
      omega
    have read := address128?_gap (show (groups.take start).length +
        (groups.drop (start + length)).length < 8 by omega)
      (fun v member => small v (List.mem_of_mem_take member))
      (fun v member => small v (List.mem_of_mem_drop member))
    rw [gap, List.append_assoc (groups.take start), whole] at read
    rw [← read, List.append_assoc]
    rfl

/-! ## Addresses that are read -/

theorem digitsValue_lt {base : Nat} {s : List Char} (digits : s.all (isBaseDigit base) = true) :
    digitsValue base s < base ^ s.length := by
  induction s using List.reverseRecOn with
  | nil => simp [digitsValue]
  | append_singleton s c ih =>
      rw [List.all_append, Bool.and_eq_true, List.all_cons, List.all_nil, Bool.and_true] at digits
      have before := ih digits.1
      rw [digitsValue] at before
      obtain ⟨d, value, small⟩ : ∃ d, Text.Ranges.hexDigit? c = some d ∧ d < base := by
        have digit := digits.2
        simp only [isBaseDigit] at digit
        split at digit
        · rename_i d value
          exact ⟨d, value, by simpa using digit⟩
        · cases digit
      rw [digitsValue, List.foldl_append, List.length_append, List.length_singleton, pow_succ]
      simp only [List.foldl_cons, List.foldl_nil, value, Option.getD_some]
      calc _ < s.foldl (fun n c => n * base + (Text.Ranges.hexDigit? c).getD 0) 0 * base + base :=
            Nat.add_lt_add_left small _
        _ = (s.foldl (fun n c => n * base + (Text.Ranges.hexDigit? c).getD 0) 0 + 1) * base := by ring
        _ ≤ base ^ s.length * base := Nat.mul_le_mul_right _ before

theorem groupDigits_lt (s : List Char) :
    digitsValue 16 ((s.take 4).takeWhile (isBaseDigit 16)) < 2 ^ 16 := by
  have short : ((s.take 4).takeWhile (isBaseDigit 16)).length ≤ 4 :=
    le_trans (List.takeWhile_sublist _).length_le (List.length_take_le 4 s)
  have digits : ((s.take 4).takeWhile (isBaseDigit 16)).all (isBaseDigit 16) = true := by
    rw [List.all_eq_true]
    exact fun c member => List.mem_takeWhile_imp member
  calc _ < 16 ^ _ := digitsValue_lt digits
    _ ≤ 16 ^ 4 := Nat.pow_le_pow_right (by decide) short
    _ = 2 ^ 16 := by norm_num

theorem byte?_lt {digits : List Char} {n : Nat} (read : byte? digits = some n) : n < 256 := by
  unfold byte? at read
  split at read
  · cases read
  · cases read
  · split at read
    · rename_i byte
      rw [← Option.some.inj read]
      exact byte.2
    · cases read

theorem embeddedGroups?_lt {s : List Char} {pair : List Nat} (read : embeddedGroups? s = some pair) :
    pair.length = 2 ∧ ∀ v ∈ pair, v < 2 ^ 16 := by
  unfold embeddedGroups? at read
  split at read
  · rename_i a b c d parts
    have byte : ∀ n, some n ∈ (Text.splitAt '.' s).map byte? → n < 256 := fun n member => by
      obtain ⟨part, -, value⟩ := List.mem_map.mp member
      exact byte?_lt value
    rw [parts] at byte
    have ha := byte a (by simp)
    have hb := byte b (by simp)
    have hc := byte c (by simp)
    have hd := byte d (by simp)
    cases read
    refine ⟨rfl, ?_⟩
    simp only [List.mem_cons, List.not_mem_nil, or_false, forall_eq_or_imp, forall_eq]
    omega
  · cases read

/-- Groups of two bytes, no more than there is room for, and the gap among them. -/
structure Groups.Fits (g : Groups) : Prop where
  small : ∀ v ∈ g.read, v < 2 ^ 16
  room : g.taken ≤ 8
  gap : ∀ n, g.gap = some n → n ≤ g.read.length

theorem Groups.Fits.append {g : Groups} (fits : g.Fits) {vs : List Nat} (small : ∀ v ∈ vs, v < 2 ^ 16)
    (room : g.taken + vs.length ≤ 8) : ({ g with read := g.read ++ vs } : Groups).Fits := by
  refine ⟨fun v member => (List.mem_append.mp member).elim (fits.small v) (small v), ?_, fun n gap => ?_⟩
  · simp only [Groups.taken, List.length_append] at room ⊢
    omega
  · have before := fits.gap n gap
    rw [List.length_append]
    omega

theorem Groups.Fits.append_digits {g : Groups} (fits : g.Fits) (s : List Char) (room : g.taken < 8) :
    ({ g with read := g.read ++ [digitsValue 16 ((s.take 4).takeWhile (isBaseDigit 16))] } :
      Groups).Fits :=
  fits.append (by simpa using groupDigits_lt s) room

/-- However the reader goes on, the groups that it has read fit. -/
theorem fits_groups? {fuel : Nat} {s : List Char} {g g' : Groups} (read : groups? fuel s g = some g')
    (fits : g.Fits) : g'.Fits := by
  fun_induction groups? fuel s g with
  | case1 => exact Option.some.inj read ▸ fits
  | case2 => cases read
  | case3 => cases read
  | case4 g fuel rest room ih =>
      simp only [not_or, Bool.not_eq_true, Option.isSome_eq_false_iff, Option.isNone_iff_eq_none,
        Nat.not_le] at room
      refine ih read ⟨fits.small, ?_, fun n gap => ?_⟩
      · simp only [Groups.taken, Option.isSome_some, ↓reduceIte]
        omega
      · cases gap
        exact le_rfl
  | case5 => cases read
  | case6 fuel s g _ _ room digits _ =>
      rw [← Option.some.inj read]
      exact fits.append_digits s (Nat.not_le.mp room)
  | case7 => cases read
  | case8 fuel s g _ _ room digits _ _ few =>
      obtain ⟨pair, embedded, rfl⟩ := Option.map_eq_some_iff.mp read
      obtain ⟨two, small⟩ := embeddedGroups?_lt embedded
      rw [not_or, Nat.not_lt] at few
      exact fits.append small (by simp only [Groups.taken]; omega)
  | case9 => cases read
  | case10 fuel s g _ _ room digits rest _ _ ih =>
      exact ih read (fits.append_digits s (Nat.not_le.mp room))
  | case11 => cases read

theorem Groups.Fits.filled {g : Groups} (fits : g.Fits) {groups : List Nat}
    (filled : g.filled = some groups) : groups.length = 8 ∧ ∀ v ∈ groups, v < 2 ^ 16 := by
  obtain ⟨read, gap⟩ := g
  cases gap with
  | none =>
      simp only [Groups.filled, Option.ite_none_right_eq_some, Option.some.injEq] at filled
      obtain ⟨eight, rfl⟩ := filled
      exact ⟨eight, fits.small⟩
  | some n =>
      have inside : n ≤ read.length := fits.gap n rfl
      have room := fits.room
      simp only [Groups.filled, Option.some.injEq] at filled
      simp only [Groups.taken, Option.isSome_some, ↓reduceIte] at room
      subst filled
      refine ⟨?_, fun v member => ?_⟩
      · simp only [List.length_append, List.length_take, List.length_replicate, List.length_drop]
        omega
      · simp only [List.mem_append, List.mem_replicate] at member
        rcases member with (before | ⟨-, rfl⟩) | after
        · exact fits.small v (List.mem_of_mem_take before)
        · decide
        · exact fits.small v (List.mem_of_mem_drop after)

/-- An address of 128 bits has eight groups of two bytes. -/
theorem address128?_spec {s : List Char} {groups : List Nat} (read : address128? s = some groups) :
    groups.length = 8 ∧ ∀ v ∈ groups, v < 2 ^ 16 := by
  have nothing : (⟨[], none⟩ : Groups).Fits := ⟨by simp, by simp [Groups.taken], by simp⟩
  have gap : (⟨[], some 0⟩ : Groups).Fits := ⟨by simp, by simp [Groups.taken], by simp⟩
  suffices held : ∃ g : Groups, g.Fits ∧ g.filled = some groups by
    obtain ⟨g, fits, filled⟩ := held
    exact fits.filled filled
  unfold address128? at read
  split at read
  · simp only at read
    split at read
    · cases read
    · rename_i start
      exact ⟨_, fits_groups? start gap, read⟩
    · rename_i start
      exact ⟨_, fits_groups? start gap, read⟩
  · cases read
  · cases read
  · cases read
  · simp only at read
    split at read
    · cases read
    · rename_i start
      exact ⟨_, fits_groups? start nothing, read⟩
    · rename_i start
      exact ⟨_, fits_groups? start nothing, read⟩

end PageExtract.Url
