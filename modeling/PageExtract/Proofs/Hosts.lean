import PageExtract.Proofs.Addresses
import PageExtract.Proofs.PercentEncoding
import PageExtract.Url.Parser

/-!
Hosts read back: a host is read from its text, for every kind of scheme, and no character of its
text ends the part of a URL that it stands in.
-/

set_option autoImplicit false

namespace PageExtract.Url

/-- A character of a part of a URL between its scheme and its path: it is printed as it is, and ends
neither that part nor what stands before the host. -/
structure IsPlaceChar (c : Char) : Prop where
  low : 0x20 < c.toNat
  high : c.toNat < 0x7F
  slash : c ≠ '/'
  backslash : c ≠ '\\'
  query : c ≠ '?'
  fragment : c ≠ '#'
  at_sign : c ≠ '@'

theorem IsPlaceChar.isEnd_eq_false {c : Char} (place : IsPlaceChar c) (kind : Kind) :
    isEnd kind c = false := by
  simp [isEnd, isSlash, place.slash, place.backslash, place.query, place.fragment]

instance (c : Char) : Decidable (IsPlaceChar c) :=
  decidable_of_iff (0x20 < c.toNat ∧ c.toNat < 0x7F ∧ c ≠ '/' ∧ c ≠ '\\' ∧ c ≠ '?' ∧ c ≠ '#' ∧ c ≠ '@')
    ⟨fun ⟨a, b, c, d, e, f, g⟩ => ⟨a, b, c, d, e, f, g⟩, fun ⟨a, b, c, d, e, f, g⟩ =>
      ⟨a, b, c, d, e, f, g⟩⟩

theorem isPlaceChar_of_isEscape {c : Char} (escape : IsEscape c) : IsPlaceChar c := by
  rcases escape with rfl | ⟨n, small, rfl⟩
  · decide
  · have all : ∀ n < 16, IsPlaceChar (upperHexDigit n) := by decide
    exact all n small

/-- The text ends or goes on with what ends a host. -/
def EndsHost (kind : Kind) (rest : List Char) : Prop :=
  ∀ c, rest.head? = some c → c = ':' ∨ isEnd kind c = true

theorem hostAhead_of_endsHost {kind : Kind} {rest : List Char} (ends : EndsHost kind rest) :
    hostAhead kind false rest = ([], rest) := by
  cases rest with
  | nil => rfl
  | cons c rest =>
      have stop : ((c == ':' && !false) || isEnd kind c) = true := by
        rcases ends c rfl with rfl | stop
        · rfl
        · simp [stop]
      rw [hostAhead, if_pos stop]

/-- A host without brackets goes up to the next colon. -/
theorem hostAhead_append {kind : Kind} {s rest : List Char}
    (bare : ∀ c ∈ s, c ≠ ':' ∧ c ≠ '[' ∧ isEnd kind c = false) (ends : EndsHost kind rest) :
    hostAhead kind false (s ++ rest) = (s, rest) := by
  induction s with
  | nil => exact hostAhead_of_endsHost ends
  | cons c s ih =>
      obtain ⟨colon, bracket, inside⟩ := bare c List.mem_cons_self
      simp [hostAhead, colon, bracket, inside, ih fun d member => bare d (List.mem_cons_of_mem c member)]

/-- A host in brackets goes up to the closing one. -/
theorem hostAhead_brackets {kind : Kind} {s rest : List Char}
    (bare : ∀ c ∈ s, c ≠ ']' ∧ isEnd kind c = false) (ends : EndsHost kind rest) :
    hostAhead kind true (s ++ ']' :: rest) = (s ++ [']'], rest) := by
  induction s with
  | nil =>
      have closes : isEnd kind ']' = false := by cases kind <;> rfl
      simp [hostAhead, closes, hostAhead_of_endsHost ends]
  | cons c s ih =>
      obtain ⟨bracket, inside⟩ := bare c List.mem_cons_self
      simp [hostAhead, bracket, inside, ih fun d member => bare d (List.mem_cons_of_mem c member)]

/-- A host whose text stands in a URL as it is. -/
structure Host.Stands (h : Host) : Prop where
  place : ∀ c ∈ h.text, IsPlaceChar c
  no_drive : isDriveLike h.text = false
  ahead : ∀ kind rest, EndsHost kind rest → hostAhead kind false (h.text ++ rest) = (h.text, rest)

theorem isDriveLike_eq_false {s : List Char}
    (last : ∀ c, s.getLast? = some c → c ≠ ':' ∧ c ≠ '|') : isDriveLike s = false := by
  unfold isDriveLike
  split
  · rename_i a b
    obtain ⟨colon, bar⟩ := last b rfl
    simp [colon, bar]
  · rfl

theorem Host.stands_of_bare {h : Host} (place : ∀ c ∈ h.text, IsPlaceChar c)
    (bare : ∀ c ∈ h.text, c ≠ ':' ∧ c ≠ '[' ∧ c ≠ '|') : h.Stands := by
  refine ⟨place, isDriveLike_eq_false fun c last => ?_, fun kind _ ends => hostAhead_append
    (fun c member => ?_) ends⟩
  · obtain ⟨colon, -, bar⟩ := bare c (List.mem_of_getLast? last)
    exact ⟨colon, bar⟩
  · obtain ⟨colon, bracket, -⟩ := bare c member
    exact ⟨colon, bracket, (place c member).isEnd_eq_false kind⟩

theorem IsDomainChar.isPlaceChar {c : Char} (domain : IsDomainChar c) :
    IsPlaceChar c ∧ c ≠ '%' ∧ c ≠ ':' ∧ c ≠ '[' ∧ c ≠ '|' := by
  obtain ⟨ascii, -, allowed⟩ := domain
  simp only [isForbidden, Bool.or_eq_false_iff, beq_eq_false_iff_ne, decide_eq_false_iff_not] at allowed
  refine ⟨⟨?_, ?_, ?_, ?_, ?_, ?_, ?_⟩, ?_, ?_, ?_, ?_⟩ <;> first | omega | tauto

theorem Host.stands_of_domain {h : Host} (domain : ∀ c ∈ h.text, IsDomainChar c) : h.Stands :=
  Host.stands_of_bare (fun c member => (domain c member).isPlaceChar.1) fun c member =>
    (domain c member).isPlaceChar.2.2

theorem mem_shownGroups {gs : List Nat} {c : Char} (member : c ∈ shownGroups gs) :
    c = ':' ∨ ∃ d < 16, c = Nat.digitChar d := by
  rcases Text.mem_intercalate member with colon | ⟨part, among, inside⟩
  · exact .inl colon
  · obtain ⟨v, -, rfl⟩ := List.mem_map.mp among
    exact .inr (mem_toDigits (by decide) inside)

theorem mem_address128Text {groups : List Nat} {c : Char} (member : c ∈ address128Text groups) :
    c = ':' ∨ ∃ d < 16, c = Nat.digitChar d := by
  simp only [address128Text] at member
  split at member
  · exact mem_shownGroups member
  · simp only [List.mem_append, List.mem_cons, List.not_mem_nil, or_false] at member
    rcases member with (before | colon | colon) | after
    · exact mem_shownGroups before
    · exact .inl colon
    · exact .inl colon
    · exact mem_shownGroups after

theorem isPlaceChar_of_mem_address128Text {groups : List Nat} {c : Char}
    (member : c ∈ address128Text groups) : IsPlaceChar c ∧ c ≠ ']' := by
  rcases mem_address128Text member with rfl | ⟨d, small, rfl⟩
  · decide
  · have all : ∀ d < 16, IsPlaceChar (Nat.digitChar d) ∧ Nat.digitChar d ≠ ']' := by decide
    exact all d small

theorem Host.stands_address128 (groups : List Nat) : (Host.address128 groups).Stands := by
  refine ⟨fun c member => ?_, isDriveLike_eq_false fun c last => ?_, fun kind rest ends => ?_⟩
  · simp only [Host.text, List.cons_append, List.mem_cons, List.mem_append, List.not_mem_nil,
      or_false] at member
    rcases member with rfl | inside | rfl
    · decide
    · exact (isPlaceChar_of_mem_address128Text inside).1
    · decide
  · rw [Host.text, List.getLast?_concat] at last
    cases last
    decide
  · have opens : isEnd kind '[' = false := by cases kind <;> rfl
    have inside := hostAhead_brackets (fun c (member : c ∈ address128Text groups) =>
      ⟨(isPlaceChar_of_mem_address128Text member).2,
        (isPlaceChar_of_mem_address128Text member).1.isEnd_eq_false kind⟩) ends
    simp [Host.text, hostAhead, opens, inside]

/-! ## Reading -/

theorem Host.bracketed_text {s : List Char} {h : Host} (read : Host.bracketed s = .ok h) :
    ∃ groups, h = .address128 groups ∧ Host.bracketed (address128Text groups ++ [']']) = .ok h := by
  unfold Host.bracketed at read
  split at read
  · split at read
    · rename_i groups parsed
      obtain ⟨eight, small⟩ := address128?_spec parsed
      cases read
      refine ⟨groups, rfl, ?_⟩
      simp only [Host.bracketed, List.getLast?_concat, ↓reduceIte, List.dropLast_concat,
        address128?_address128Text eight small]
    · cases read
  · cases read

theorem Host.read_of_ne_bracket {s : List Char} (bare : ∀ rest, s ≠ '[' :: rest) : Host.read s =
    match (Text.ofUtf8? (decodedBytes s)).bind domain? with
    | none => .error .domainName
    | some domain =>
      if domain.isEmpty then .error .emptyHost
      else if endsInNumber domain then
        match address32? domain with
        | some n => .ok (.address32 n)
        | none => .error .address32
      else .ok (.name domain) := by
  unfold Host.read
  split
  · rename_i rest
    exact absurd rfl (bare rest)
  · rfl

/-- The written form of a domain name is read as it is. -/
theorem Host.read_of_domain {s : List Char} (domain : ∀ c ∈ s, IsDomainChar c)
    (same : domain? s = some s) : Host.read s =
      if s.isEmpty then .error .emptyHost
      else if endsInNumber s then
        match address32? s with
        | some n => .ok (.address32 n)
        | none => .error .address32
      else .ok (.name s) := by
  have bare : ∀ rest, s ≠ '[' :: rest := by
    rintro rest rfl
    exact (domain '[' List.mem_cons_self).isPlaceChar.2.2.2.1 rfl
  have bytes : Text.ofUtf8? (decodedBytes s) = some s := by
    rw [decodedBytes_of_unescaped fun c member => (domain c member).isPlaceChar.2.1]
    exact Text.ofUtf8?_utf8 s
  rw [Host.read_of_ne_bracket bare, bytes, Option.bind_some, same]

/-- What a host of a server or of a file is, and that it is read from its text. -/
theorem Host.read_text {s : List Char} {h : Host} (read : Host.read s = .ok h) :
    h.Stands ∧ h.text ≠ [] ∧ Host.read h.text = .ok h := by
  by_cases bracket : ∃ rest, s = '[' :: rest
  · obtain ⟨rest, rfl⟩ := bracket
    obtain ⟨groups, rfl, again⟩ := Host.bracketed_text read
    exact ⟨Host.stands_address128 groups, by simp [Host.text], again⟩
  · rw [Host.read_of_ne_bracket fun rest same => bracket ⟨rest, same⟩] at read
    split at read
    · cases read
    · rename_i domain parsed
      obtain ⟨decoded, -, written⟩ := Option.bind_eq_some_iff.mp parsed
      obtain ⟨characters, same⟩ := domain?_domain? written
      split at read
      · cases read
      · rename_i some_name
        split at read
        · split at read
          · rename_i n address
            cases read
            obtain ⟨digits, itself⟩ := domain?_address32Text n
            have number := endsInNumber_address32Text n
            have some_text : address32Text n ≠ [] := by
              intro empty
              rw [empty] at number
              exact absurd number (by decide)
            refine ⟨Host.stands_of_domain digits, some_text, ?_⟩
            rw [Host.text, Host.read_of_domain digits itself, if_neg (by simpa using some_text),
              if_pos number, address32?_address32Text (address32?_lt address)]
          · cases read
        · rename_i no_number
          cases read
          refine ⟨Host.stands_of_domain characters, fun empty => some_name (List.isEmpty_iff.mpr empty), ?_⟩
          rw [Host.text, Host.read_of_domain characters same, if_neg some_name, if_neg no_number]

theorem isPlaceChar_of_allowed {c : Char} (allowed : Host.isForbiddenInOpaque c = false)
    (printed : isControl c = false) : IsPlaceChar c ∧ c ≠ ':' ∧ c ≠ '[' ∧ c ≠ '|' := by
  simp only [Host.isForbiddenInOpaque, Bool.or_eq_false_iff, beq_eq_false_iff_ne] at allowed
  simp only [isControl, Bool.or_eq_false_iff, decide_eq_false_iff_not] at printed
  have space : c.toNat ≠ 0x20 := fun same => by
    have blank := Text.eq_space same
    tauto
  refine ⟨⟨?_, ?_, ?_, ?_, ?_, ?_, ?_⟩, ?_, ?_, ?_⟩ <;> first | omega | tauto

theorem allowed_of_isEscape {c : Char} (escape : IsEscape c) : Host.isForbiddenInOpaque c = false := by
  rcases escape with rfl | ⟨n, small, rfl⟩
  · decide
  · have all : ∀ n < 16, Host.isForbiddenInOpaque (upperHexDigit n) = false := by decide
    exact all n small

/-- What a host under any other scheme is, and that it is read from its text. -/
theorem Host.readOpaque_text {s : List Char} {h : Host} (read : Host.readOpaque s = .ok h) :
    h.Stands ∧ Host.readOpaque h.text = .ok h := by
  unfold Host.readOpaque at read
  split at read
  · obtain ⟨groups, rfl, again⟩ := Host.bracketed_text read
    exact ⟨Host.stands_address128 groups, again⟩
  · split at read
    · cases read
    · rename_i allowed
      cases read
      have clean := clean_encode sparesEscapes_control s
      have spared : ∀ c ∈ encode isControl s, Host.isForbiddenInOpaque c = false := by
        intro c member
        rcases mem_encode member with ⟨original, -⟩ | escape
        · simp only [Bool.not_eq_true, List.any_eq_false] at allowed
          exact allowed c original
        · exact allowed_of_isEscape escape
      have place := fun c member => isPlaceChar_of_allowed (spared c member) (clean c member)
      refine ⟨Host.stands_of_bare (fun c member => (place c member).1) fun c member =>
        (place c member).2, ?_⟩
      change Host.readOpaque (encode isControl s) = _
      unfold Host.readOpaque
      split
      · rename_i rest same
        exact absurd rfl (place '[' (same ▸ List.mem_cons_self)).2.2.1
      · rw [if_neg (by simpa using spared), encode_of_clean clean]

end PageExtract.Url
