import PageExtract.Proofs.WrittenUrls

/-!
Authorities read back: user and password up to the last `@`, the host up to the colon or the path
after it, and the digits of the port.
-/

set_option autoImplicit false

namespace PageExtract.Url

/-- The text goes on with what ends an authority. -/
def EndsAuthority (kind : Kind) (rest : List Char) : Prop :=
  ∀ c, rest.head? = some c → isEnd kind c = true

theorem IsTail.endsAuthority {rest : List Char} (tail : IsTail rest) (kind : Kind) :
    EndsAuthority kind rest := by
  intro c first
  rcases tail c first with rfl | rfl <;> cases kind <;> rfl

theorem endsAuthority_slash (kind : Kind) (rest : List Char) : EndsAuthority kind ('/' :: rest) := by
  intro c first
  cases first
  cases kind <;> rfl

/-- What stands before the path ends where the path starts. -/
theorem takeWhile_authority {kind : Kind} {s rest : List Char}
    (inside : ∀ c ∈ s, isEnd kind c = false) (ends : EndsAuthority kind rest) :
    ((s ++ rest).takeWhile fun c => !isEnd kind c) = s ∧
      ((s ++ rest).dropWhile fun c => !isEnd kind c) = rest := by
  have all : ∀ c ∈ s, (!isEnd kind c) = true := fun c member => by simp [inside c member]
  have stops : ∀ c, rest.head? = some c → (!isEnd kind c) = false := fun c first => by
    simp [ends c first]
  exact ⟨Text.takeWhile_append all stops, Text.dropWhile_append all stops⟩

theorem le_foldl_digits (ds : List Char) (n : Nat) :
    n ≤ ds.foldl (fun n c => n * 10 + (c.toNat - '0'.toNat)) n := by
  induction ds generalizing n with
  | nil => exact le_rfl
  | cons c ds ih => exact le_trans (show n ≤ n * 10 + _ by omega) (ih _)

/-- Digits after a number are read as long as it isn't too large for a port. -/
theorem portAhead_digits {kind : Kind} {ds rest : List Char} (digits : ∀ c ∈ ds, c.isDigit = true)
    (ends : EndsAuthority kind rest) {n : Nat}
    (small : ds.foldl (fun n c => n * 10 + (c.toNat - '0'.toNat)) n ≤ 65535) :
    portAhead (some n) (ds ++ rest) =
      .ok (some (ds.foldl (fun n c => n * 10 + (c.toNat - '0'.toNat)) n), rest) := by
  induction ds generalizing n with
  | nil =>
      cases rest with
      | nil => rfl
      | cons c rest =>
          have stop := ends c rfl
          have no_digit : c.isDigit = false ∧
              (c == '/' || c == '\\' || c == '?' || c == '#') = true := by
            simp only [isEnd, isSlash, Bool.or_eq_true, Bool.and_eq_true, beq_iff_eq] at stop
            rcases stop with ((rfl | ⟨rfl, -⟩) | rfl) | rfl <;> decide
          rw [List.nil_append, portAhead, no_digit.1, if_neg (by decide), if_pos no_digit.2]
          rfl
  | cons c ds ih =>
      have first := le_foldl_digits ds (n * 10 + (c.toNat - '0'.toNat))
      rw [List.foldl_cons] at small ⊢
      rw [List.cons_append, portAhead, if_pos (digits c List.mem_cons_self)]
      simp only [Option.getD_some]
      rw [if_neg (by omega), ih (fun d member => digits d (List.mem_cons_of_mem c member)) small]

theorem foldl_toDigits (n : Nat) :
    (Nat.toDigits 10 n).foldl (fun n c => n * 10 + (c.toNat - '0'.toNat)) 0 = n := by
  have value := digitsValue_toDigits (show 1 < 10 by decide) (by decide) n
  rw [digitsValue] at value
  rw [← List.foldl_ext _ _ 0 fun m c member => ?_]
  · exact value
  · obtain ⟨d, small, rfl⟩ := mem_toDigits (by decide) member
    have all : ∀ d < 10, (Text.Ranges.hexDigit? (Nat.digitChar d)).getD 0 =
        (Nat.digitChar d).toNat - '0'.toNat := by decide
    rw [all d small]

/-- A port is read up to the end of the authority. -/
theorem portAfter_portText {scheme : String} {kind : Kind} {port : Option Nat} {rest : List Char}
    (bounds : ∀ n, port = some n → n ≤ 65535 ∧ defaultPort? scheme ≠ some n)
    (ends : EndsAuthority kind rest) : portAfter scheme (portText port ++ rest) = .ok (port, rest) := by
  cases port with
  | none =>
      rw [portText, List.nil_append]
      unfold portAfter
      split
      · exact absurd (ends ':' rfl) (by cases kind <;> decide)
      · rfl
  | some n =>
      obtain ⟨small, unusual⟩ := bounds n rfl
      have digits : ∀ c ∈ Nat.toDigits 10 n, c.isDigit = true := fun c member =>
        Nat.isDigit_of_mem_toDigits (by decide) (by decide) member
      have value := foldl_toDigits n
      have ahead : portAhead none (Nat.toDigits 10 n ++ rest) = .ok (some n, rest) := by
        obtain ⟨c, ds, same⟩ := List.exists_cons_of_ne_nil (toDigits_ne_nil 10 n)
        rw [same] at digits value ⊢
        rw [List.foldl_cons] at value
        have later := portAhead_digits (fun d member => digits d (List.mem_cons_of_mem c member)) ends
          (value.symm ▸ small)
        have first := le_foldl_digits ds (0 * 10 + (c.toNat - '0'.toNat))
        rw [value] at later first
        rw [List.cons_append, portAhead, if_pos (digits c List.mem_cons_self)]
        simp only [Option.getD_none]
        rw [if_neg (by omega), later]
      simp only [portText, List.cons_append, portAfter, ahead, Except.map, Ne.symm unusual, ↓reduceIte]

/-- The text goes on with what ends a host. -/
theorem EndsAuthority.endsHost {kind : Kind} {rest : List Char} (ends : EndsAuthority kind rest)
    (port : Option Nat) : EndsHost kind (portText port ++ rest) := by
  intro c first
  cases port with
  | none => exact .inr (ends c first)
  | some n =>
      cases first
      exact .inl rfl

/-- Host and port are read up to the end of the authority. -/
theorem placeAhead_place {scheme : String} {a : Authority} (written : a.Written scheme)
    (no_file : kindOf scheme ≠ .file) {rest : List Char} (ends : EndsAuthority (kindOf scheme) rest) :
    placeAhead scheme (a.place ++ rest) = .ok (a.host, a.port, rest) := by
  have ahead := written.host.stands.ahead (kindOf scheme) _ (ends.endsHost a.port)
  have again := written.host.readsBack.resolve_left fun file => no_file file.1
  have some_text : ¬(kindOf scheme = .server ∧ a.host.text.isEmpty = true) := fun held =>
    written.host.some_name held.1 (List.isEmpty_iff.mp held.2)
  have placed : ¬(a.host = .name [] ∧ (portText a.port ++ rest).head? = some ':') := by
    rintro ⟨nowhere, colon⟩
    rw [(written.bare (.inr nowhere)).2.2, portText, List.nil_append] at colon
    exact absurd (ends ':' colon) (by cases kindOf scheme <;> decide)
  simp only [placeAhead, Authority.place, List.append_assoc, ahead, some_text, ↓reduceIte, again,
    placed, portAfter_portText written.port ends]

theorem isPlaceChar_place {scheme : String} {a : Authority} (written : a.Written scheme) :
    ∀ c ∈ a.place, IsPlaceChar c := by
  intro c member
  rcases List.mem_append.mp member with host | port
  · exact written.host.stands.place c host
  · cases number : a.port with
    | none =>
        rw [number] at port
        cases port
    | some n =>
        rw [number] at port
        rcases List.mem_cons.mp port with rfl | digit
        · decide
        · exact (isDomainChar_toDigits digit).1.isPlaceChar.1

/-- The text before the last `@`, which is given, and the text after it. -/
theorem cutAt_append {s t : List Char} (bare : '@' ∉ t) : cutAt (s ++ '@' :: t) = some (s, t) := by
  have inside : (s ++ '@' :: t).contains '@' = true := by simp
  have kept : ∀ c ∈ t, (c != '@') = true := by
    intro c member
    rw [bne_iff_ne]
    rintro rfl
    exact bare member
  have after : ((s ++ '@' :: t).reverse.takeWhile (· != '@')).reverse = t :=
    Text.takeWhile_reverse_append kept (by decide) s
  simp only [cutAt, inside, ↓reduceIte, after, Text.length_before, List.take_left]

theorem cutAt_of_not_mem {s : List Char} (bare : '@' ∉ s) : cutAt s = none := by
  have outside : s.contains '@' = false := by simpa using bare
  simp only [cutAt, outside, Bool.false_eq_true, ↓reduceIte]

theorem inside_userinfo {c : Char} (spared : inUserinfoSet c = false) (kind : Kind) :
    isEnd kind c = false ∧ c ≠ ':' := by
  have apart : ∀ d, inUserinfoSet d = true → c ≠ d := by
    rintro d encoded rfl
    rw [encoded] at spared
    cases spared
  exact ⟨by simp [isEnd, isSlash, apart '/' rfl, apart '\\' rfl, apart '?' rfl, apart '#' rfl],
    apart ':' rfl⟩

/-- User and password as they stand before the `@`. -/
def Authority.login (a : Authority) : List Char :=
  a.user ++ (if a.password.isEmpty then [] else ':' :: a.password)

theorem Authority.Written.login_inside {scheme : String} {a : Authority} (written : a.Written scheme)
    (kind : Kind) : ∀ c ∈ a.login, isEnd kind c = false := by
  intro c member
  rcases List.mem_append.mp member with user | password
  · exact (inside_userinfo (written.user c user) kind).1
  · split at password
    · cases password
    · rcases List.mem_cons.mp password with rfl | inside
      · cases kind <;> decide
      · exact (inside_userinfo (written.password c inside) kind).1

/-- A user is read up to the colon before the password. -/
theorem Authority.Written.login_split {scheme : String} {a : Authority} (written : a.Written scheme) :
    a.login.takeWhile (· != ':') = a.user ∧ (a.login.dropWhile (· != ':')).drop 1 = a.password := by
  have no_colon : ∀ c ∈ a.user, (c != ':') = true := fun c member =>
    bne_iff_ne.mpr (inside_userinfo (written.user c member) .other).2
  rw [Authority.login, List.takeWhile_append_of_pos no_colon, List.dropWhile_append_of_pos no_colon]
  cases a.password <;> simp

/-- User and password are read up to the `@` after them. -/
theorem userAhead_credentials {scheme : String} {a : Authority} (written : a.Written scheme)
    {rest : List Char} (ends : EndsAuthority (kindOf scheme) rest) :
    userAhead (kindOf scheme) (a.credentials ++ a.place ++ rest) =
      .ok (a.user, a.password, a.place ++ rest) := by
  have place := isPlaceChar_place written
  have inside : ∀ c ∈ a.place, isEnd (kindOf scheme) c = false := fun c member =>
    (place c member).isEnd_eq_false _
  have bare : '@' ∉ a.place := fun member => (place '@' member).at_sign rfl
  by_cases nobody : a.user = [] ∧ a.password = []
  · obtain ⟨no_user, no_password⟩ := nobody
    have none_given : a.credentials = [] := by simp [Authority.credentials, no_user, no_password]
    obtain ⟨before, -⟩ := takeWhile_authority inside ends
    simp only [userAhead, none_given, List.nil_append, before, cutAt_of_not_mem bare, no_user,
      no_password]
  · have given : a.credentials = a.login ++ ['@'] := by
      simp [Authority.credentials, Authority.login, nobody]
    have someone : a.login ≠ [] := by
      intro empty
      obtain ⟨no_user, no_password⟩ := List.append_eq_nil_iff.mp empty
      refine nobody ⟨no_user, ?_⟩
      split at no_password
      · rename_i empty_password
        exact List.isEmpty_iff.mp empty_password
      · cases no_password
    have all_inside : ∀ c ∈ a.login ++ '@' :: a.place, isEnd (kindOf scheme) c = false := by
      intro c member
      rcases List.mem_append.mp member with login | after
      · exact written.login_inside _ c login
      · rcases List.mem_cons.mp after with rfl | inside_place
        · cases kindOf scheme <;> decide
        · exact inside c inside_place
    obtain ⟨before, after⟩ := takeWhile_authority all_inside ends
    obtain ⟨user, password⟩ := written.login_split
    have text : a.credentials ++ a.place ++ rest = a.login ++ '@' :: a.place ++ rest := by
      simp [given]
    simp only [userAhead, text, before, after, cutAt_append bare]
    split
    · rename_i none_cut
      cases none_cut
    · rename_i empty
      exact absurd (Prod.mk.inj (Option.some.inj empty)).1 someone
    · rename_i same
      obtain ⟨rfl, rfl⟩ := Prod.mk.inj (Option.some.inj same)
      rw [user, password, encode_of_clean written.user, encode_of_clean written.password]

end PageExtract.Url
