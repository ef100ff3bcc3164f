import PageExtract.Proofs.ReadAuthorities

/-!
URLs read back: a URL in written form is what its text is read as on its own. The parts are read one
after the other, each up to the character that the next one starts with.
-/

set_option autoImplicit false

namespace PageExtract.Url

/-! ## Characters -/

/-- No character of the text is a control or a space. -/
def Visible (s : List Char) : Prop :=
  ∀ c ∈ s, 0x20 < c.toNat

theorem visible_append {s t : List Char} (first : Visible s) (second : Visible t) : Visible (s ++ t) :=
  fun c member => (List.mem_append.mp member).elim (first c) (second c)

theorem visible_cons {c : Char} {s : List Char} (first : 0x20 < c.toNat) (rest : Visible s) :
    Visible (c :: s) := by
  intro d member
  rcases List.mem_cons.mp member with rfl | later
  · exact first
  · exact rest d later

/-- A set with all controls and the space leaves nothing but visible characters. -/
theorem visible_of_clean {inSet : Char → Bool} {s : List Char} (clean : Clean inSet s)
    (blanks : ∀ c, isControl c = true ∨ c = ' ' → inSet c = true) : Visible s := by
  intro c member
  have spared := Bool.eq_false_iff.mp (clean c member)
  by_contra low
  refine spared (blanks c ?_)
  rcases Nat.lt_or_ge c.toNat 0x20 with control | space
  · exact .inl (by simp [isControl, control])
  · exact .inr (Text.eq_space (by omega))

theorem inFragmentSet_blank {c : Char} (blank : isControl c = true ∨ c = ' ') :
    inFragmentSet c = true := by
  rcases blank with control | rfl
  · simp [inFragmentSet, control]
  · rfl

theorem inPathSet_blank {c : Char} (blank : isControl c = true ∨ c = ' ') : inPathSet c = true := by
  simp [inPathSet, inFragmentSet_blank blank]

theorem inUserinfoSet_blank {c : Char} (blank : isControl c = true ∨ c = ' ') :
    inUserinfoSet c = true := by
  simp [inUserinfoSet, inPathSet_blank blank]

theorem querySet_blank (scheme : String) {c : Char} (blank : isControl c = true ∨ c = ' ') :
    querySet scheme c = true := by
  have query : inQuerySet c = true := by
    rcases blank with control | rfl
    · simp [inQuerySet, control]
    · rfl
  unfold querySet
  split
  · exact query
  · simp [inSpecialQuerySet, query]

/-- A text that neither starts nor ends with a space and holds no controls is taken as it is. -/
theorem cleaned_eq_self {s : List Char} (printed : ∀ c ∈ s, 0x20 ≤ c.toNat)
    (first : ∀ c, s.head? = some c → c ≠ ' ') (last : ∀ c, s.getLast? = some c → c ≠ ' ') :
    cleaned s = s := by
  have edge : ∀ t : List Char, (∀ c ∈ t, 0x20 ≤ c.toNat) → (∀ c, t.head? = some c → c ≠ ' ') →
      (t.dropWhile fun c => decide (c.toNat ≤ 0x20)) = t := by
    intro t shown starts
    cases t with
    | nil => rfl
    | cons c t =>
        have low := shown c List.mem_cons_self
        have space : c.toNat ≠ 0x20 := fun same => starts c rfl (Text.eq_space same)
        rw [List.dropWhile_cons_of_neg (by simp; omega)]
  have kept : ∀ c ∈ s, (c != '\t' && c != '\n' && c != '\r') = true := by
    intro c member
    have low := printed c member
    simp only [Bool.and_eq_true, bne_iff_ne, ne_eq]
    refine ⟨⟨?_, ?_⟩, ?_⟩
    all_goals
      rintro rfl
      exact absurd low (by decide)
  simp only [cleaned]
  rw [edge s printed first, edge s.reverse (fun c member => printed c (List.mem_reverse.mp member))
    (fun c starts => last c (by rwa [List.head?_reverse] at starts)), List.reverse_reverse,
    List.filter_eq_self.mpr kept]

theorem Visible.no_space {s : List Char} (visible : Visible s) : ∀ c ∈ s, c ≠ ' ' := by
  rintro c member rfl
  exact absurd (visible ' ' member) (by decide)

theorem cleaned_of_visible {s : List Char} (visible : Visible s) : cleaned s = s :=
  cleaned_eq_self (fun c member => Nat.le_of_lt (visible c member))
    (fun c first => visible.no_space c (List.mem_of_head? first))
    fun c last => visible.no_space c (List.mem_of_getLast? last)

/-- Spaces are kept behind what is visible, but not at the end. -/
theorem cleaned_between {before inside behind : List Char} (shown : Visible before)
    (starts : before ≠ []) (printed : ∀ c ∈ inside, 0x20 ≤ c.toNat) (tail : Visible behind)
    (ends : behind ≠ [] ∨ inside.getLast? ≠ some ' ') :
    cleaned (before ++ (inside ++ behind)) = before ++ (inside ++ behind) := by
  refine cleaned_eq_self (fun c member => ?_) (fun c first => ?_) fun c last => ?_
  · simp only [List.mem_append] at member
    rcases member with front | middle | back
    · exact Nat.le_of_lt (shown c front)
    · exact printed c middle
    · exact Nat.le_of_lt (tail c back)
  · rw [List.head?_append_of_ne_nil _ starts] at first
    exact shown.no_space c (List.mem_of_head? first)
  · by_cases bare : behind = []
    · rw [bare, List.append_nil] at last
      by_cases empty : inside = []
      · rw [empty, List.append_nil] at last
        exact shown.no_space c (List.mem_of_getLast? last)
      · rw [List.getLast?_append_of_ne_nil _ empty] at last
        rintro rfl
        exact ends.resolve_left (not_not.mpr bare) last
    · rw [List.getLast?_append_of_ne_nil _ (List.append_ne_nil_of_right_ne_nil _ bare),
        List.getLast?_append_of_ne_nil _ bare] at last
      exact tail.no_space c (List.mem_of_getLast? last)

/-! ## Scheme, query and fragment -/

theorem schemeAhead?_append {s rest : List Char} (chars : ∀ c ∈ s, isSchemeChar c = true)
    (lower : ∀ c ∈ s, c.toLower = c) : schemeAhead? (s ++ ':' :: rest) = some (s, rest) := by
  induction s with
  | nil => rfl
  | cons c s ih =>
      have valid := chars c List.mem_cons_self
      have colon : c ≠ ':' := by
        rintro rfl
        exact absurd valid (by decide)
      rw [isSchemeChar] at valid
      rw [List.cons_append, schemeAhead?.eq_3 _ _ (by simpa using colon), if_pos valid,
        ih (fun d member => chars d (List.mem_cons_of_mem c member))
          fun d member => lower d (List.mem_cons_of_mem c member)]
      simp [lower c List.mem_cons_self]

/-- A scheme is read up to its colon. -/
theorem scheme?_append {scheme : String} (valid : IsScheme scheme.toList) (rest : List Char) :
    scheme? (scheme.toList ++ ':' :: rest) = some (scheme, rest) := by
  have ahead : schemeAhead? (scheme.toList ++ ':' :: rest) = _ :=
    schemeAhead?_append valid.chars valid.lower
  obtain ⟨c, tail, same, letter⟩ := valid.letter
  rw [same, List.cons_append] at ahead ⊢
  simp only [scheme?, letter, ↓reduceIte, ahead, Option.map_some, ← same, String.ofList_toList]

theorem IsScheme.visible {s : List Char} (valid : IsScheme s) : Visible s := fun c member =>
  Text.ascii_induction (p := fun c => isSchemeChar c = true → 0x20 < c.toNat) (by decide)
    (toNat_lt_of_isSchemeChar (valid.chars c member)) (valid.chars c member)

/-- Query and fragment of a URL as they stand after its path. -/
def tailText (u : Url) : List Char :=
  optionText '?' u.query ++ optionText '#' u.fragment

theorem isTail_tailText (u : Url) : IsTail (tailText u) := by
  intro c first
  unfold tailText at first
  cases query : u.query with
  | some q =>
      rw [query] at first
      cases first
      exact .inl rfl
  | none =>
      cases fragment : u.fragment with
      | some f =>
          rw [query, fragment] at first
          cases first
          exact .inr rfl
      | none =>
          rw [query, fragment] at first
          cases first

/-- A query is read up to the fragment after it. -/
theorem takeWhile_query {scheme : String} {q : List Char} (clean : Clean (querySet scheme) q)
    (fragment : Option (List Char)) :
    (q ++ optionText '#' fragment).takeWhile (· != '#') = q ∧
      (q ++ optionText '#' fragment).dropWhile (· != '#') = optionText '#' fragment := by
  have number_sign : ∀ c ∈ q, (c != '#') = true := by
    intro c member
    rw [bne_iff_ne]
    rintro rfl
    have encoded : querySet scheme '#' = true := by
      unfold querySet
      split <;> rfl
    exact absurd (clean '#' member) (by simp [encoded])
  have stops : ∀ c, (optionText '#' fragment).head? = some c → (c != '#') = false := by
    intro c first
    cases fragment <;> cases first
    rfl
  exact ⟨Text.takeWhile_append number_sign stops, Text.dropWhile_append number_sign stops⟩

/-- Query and fragment are read back after any path. -/
theorem withTail_tailText {u : Url} (written : u.Written) :
    withTail ⟨u.scheme, u.authority, u.path, none, none⟩ (tailText u) = u := by
  have query := written.query
  have fragment := written.fragment
  obtain ⟨scheme, authority, path, query', fragment'⟩ := u
  cases query' with
  | none =>
      cases fragment' with
      | none => rfl
      | some f => simp [tailText, optionText, withTail, encode_of_clean (fragment f rfl)]
  | some q =>
      obtain ⟨before, after⟩ := takeWhile_query (query q rfl) fragment'
      have encoded : encode (if kindOf scheme = .other then inQuerySet else inSpecialQuerySet) q = q :=
        encode_of_clean (query q rfl)
      cases fragment' with
      | none =>
          simp only [tailText, optionText, List.cons_append] at before after ⊢
          simp only [withTail, before, after, encoded]
      | some f =>
          simp only [tailText, optionText, List.cons_append] at before after ⊢
          simp only [withTail, before, after, encoded, encode_of_clean (fragment f rfl)]

/-! ## Paths -/

theorem endsAuthority_path (kind : Kind) (ss : List (List Char)) {rest : List Char}
    (tail : IsTail rest) : EndsAuthority kind ((Path.segments ss).text ++ rest) := by
  cases ss with
  | nil => exact tail.endsAuthority kind
  | cons s ss => exact endsAuthority_slash kind _

/-- A path after an authority is read up to the tail. -/
theorem pathAfter_text {kind : Kind} (no_file : kind ≠ .file) {ss : List (List Char)}
    (written : WrittenSegments kind ss) (some_segment : ss = [] → kind = .other) {rest : List Char}
    (tail : IsTail rest) : pathAfter kind ((Path.segments ss).text ++ rest) = (ss, rest) := by
  cases ss with
  | nil =>
      have other := some_segment rfl
      have text : (Path.segments []).text ++ rest = rest := rfl
      rw [text]
      cases rest with
      | nil => simp [pathAfter, other]
      | cons c rest =>
          have mark := tail c rfl
          have no_slash : isSlash kind c = false := by
            rcases mark with rfl | rfl <;> cases kind <;> rfl
          rw [pathAfter, if_neg (by simp [no_slash]), if_pos ⟨other, mark⟩]
  | cons s ss =>
      have slash : isSlash kind '/' = true := by cases kind <;> rfl
      have text : (Path.segments (s :: ss)).text ++ rest =
          '/' :: (s ++ (Path.segments ss).text ++ rest) := by
        simp [Path.text]
      have dots := fun p member => (written.all p member).dots no_file
      rw [text, pathAfter, if_pos slash,
        readSegments_text written dots (fun file => absurd file no_file) tail]
      rfl

/-- A URL is read back from its authority on. -/
theorem afterSlashes_text {u : Url} {a : Authority} {ss : List (List Char)} (written : u.Written)
    (no_file : kindOf u.scheme ≠ .file) (authority : u.authority = some a)
    (path : u.path = .segments ss) :
    afterSlashes u.scheme (a.credentials ++ a.place ++ ((Path.segments ss).text ++ tailText u)) =
      .ok u := by
  have a_written := written.authority a authority
  have tail := isTail_tailText u
  have ends := endsAuthority_path (kindOf u.scheme) ss tail
  have no_host : ¬(a.host = .name [] ∧ ¬(a.user.isEmpty = true ∧ a.password.isEmpty = true)) := by
    rintro ⟨nowhere, someone⟩
    obtain ⟨no_user, no_password, -⟩ := a_written.bare (.inr nowhere)
    exact someone (by simp [no_user, no_password])
  have u_path := written.path
  rw [path] at u_path
  cases u_path with
  | segments segments some_segment =>
      have after := pathAfter_text no_file segments (fun empty => (some_segment empty).1) tail
      simp only [afterSlashes, userAhead_credentials a_written ends,
        placeAhead_place a_written no_file ends, no_host, ↓reduceIte, after]
      rw [← authority, ← path, withTail_tailText written]

/-! ## Kinds of schemes -/

/-- The segment `.` before an empty one is dropped when it is read. -/
theorem readSegments_dot {p : List Char} {ps : List (List Char)}
    (written : WrittenSegments .other ([] :: p :: ps)) {rest : List Char} (tail : IsTail rest) :
    readSegments .other [] (['.'] ++ '/' :: ((Path.segments (p :: ps)).text ++ rest)) =
      (⟨[] :: p :: ps, false⟩, rest) := by
  have dots := fun s member => (written.all s member).dots (by decide)
  have dot : segmentAhead .other (['.'] ++ '/' :: ((Path.segments (p :: ps)).text ++ rest)) =
      (['.'], '/' :: ((Path.segments (p :: ps)).text ++ rest)) :=
    segmentAhead_append (by simp [isSlash]) fun c starts => by
      cases starts
      exact .inl rfl
  have dropped : Trail.add .other ⟨[], false⟩ ['.'] false = ⟨[], false⟩ := rfl
  have slash : isSlash .other '/' = true := rfl
  have enough : (p :: ps).length <
      (['.'] ++ '/' :: ((Path.segments (p :: ps)).text ++ rest)).length := by
    have long := length_le_text (p :: ps)
    simp only [List.length_cons, List.length_append] at long ⊢
    omega
  have read := trail_text (fun s member => written.all s (List.mem_cons_of_mem [] member))
    (fun s member => dots s (List.mem_cons_of_mem [] member)) tail
    (written.all [] List.mem_cons_self) (dots [] List.mem_cons_self) (t := ⟨[], false⟩)
    (fun file => by cases file) enough
  rw [List.nil_append] at read
  rw [readSegments, trail, dot]
  simp only [slash, ↓reduceIte, dropped, read, reduceCtorEq]
  rfl

theorem marked_of_shown {first : List Char} {ss : List (List Char)} (shown : first = [] → ss = []) :
    marked (.segments (first :: ss)) = (Path.segments (first :: ss)).text := by
  unfold marked
  split
  · rename_i same
    cases same
    cases shown rfl
  · rfl

/-- A path without an authority is read back as segments, also if the first one is empty. -/
theorem readSegments_marked {first : List Char} {ss : List (List Char)}
    (written : WrittenSegments .other (first :: ss)) {rest : List Char} (tail : IsTail rest) :
    ∃ s, marked (.segments (first :: ss)) ++ rest = '/' :: s ∧ s.head? ≠ some '/' ∧
      readSegments .other [] s = (⟨first :: ss, false⟩, rest) := by
  by_cases hidden : first = [] ∧ ss ≠ []
  · obtain ⟨rfl, more⟩ := hidden
    obtain ⟨p, ps, rfl⟩ := List.exists_cons_of_ne_nil more
    exact ⟨_, by simp [marked, Path.text], by simp, readSegments_dot written tail⟩
  · have alone : first = [] → ss = [] := fun empty =>
      not_not.mp fun more => hidden ⟨empty, more⟩
    have dots := fun p member => (written.all p member).dots (by decide)
    refine ⟨first ++ (Path.segments ss).text ++ rest, by simp [marked_of_shown alone, Path.text], ?_,
      readSegments_text written dots (fun file => by cases file) tail⟩
    intro slash
    cases first with
    | nil =>
        rw [alone rfl] at slash
        rcases tail '/' slash with mark | mark <;> exact absurd mark (by decide)
    | cons c first =>
        cases slash
        exact absurd ((written.all _ List.mem_cons_self).slash '/' List.mem_cons_self) (by decide)

theorem afterOther_slash {scheme : String} {s : List Char} (single : s.head? ≠ some '/') :
    afterOther scheme ('/' :: s) =
      .ok (withSegments ⟨scheme, none, .segments [], none, none⟩ [] s) := by
  unfold afterOther
  split
  · rename_i same
    cases same
    exact absurd rfl single
  · rename_i same
    cases same
    rfl
  · rename_i bare
    exact absurd rfl (bare s)

/-- A path without structure is read up to the tail. -/
theorem afterOther_unstructured {scheme : String} {s rest : List Char} (clean : Clean isControl s)
    (bare : ∀ c ∈ s, c ≠ '?' ∧ c ≠ '#') (relative : s.head? ≠ some '/') (tail : IsTail rest) :
    afterOther scheme (s ++ rest) =
      .ok (withTail ⟨scheme, none, .unstructured s, none, none⟩ rest) := by
  have inside : ∀ c ∈ s, (c != '?' && c != '#') = true := fun c member => by simp [bare c member]
  have stops : ∀ c, rest.head? = some c → (c != '?' && c != '#') = false := by
    intro c first
    rcases tail c first with rfl | rfl <;> rfl
  have no_slash : ∀ tail, s ++ rest ≠ '/' :: tail := by
    intro after_slash same
    cases s with
    | nil => exact absurd (stops '/' (by rw [← List.nil_append rest, same]; rfl)) (by decide)
    | cons c s =>
        cases same
        exact relative rfl
  unfold afterOther
  split
  · rename_i same
    exact absurd same (no_slash _)
  · rename_i same
    exact absurd same (no_slash _)
  · simp only [Text.takeWhile_append inside stops, Text.dropWhile_append inside stops,
      encode_of_clean clean]

/-- What stands after the colon of a URL up to its query. -/
def hierText (u : Url) : List Char :=
  match u.authority with
  | some a => '/' :: '/' :: (a.credentials ++ a.place ++ u.path.text)
  | none => marked u.path

theorem chars_eq (u : Url) : u.chars = u.scheme.toList ++ ':' :: (hierText u ++ tailText u) := by
  unfold chars hierText tailText
  cases u.authority <;> simp

theorem hierText_of_authority {u : Url} {a : Authority} {ss : List (List Char)}
    (authority : u.authority = some a) (path : u.path = .segments ss) :
    hierText u ++ tailText u =
      '/' :: '/' :: (a.credentials ++ a.place ++ ((Path.segments ss).text ++ tailText u)) := by
  simp [hierText, authority, path]

/-- A URL whose scheme names neither files nor a server is read back after its scheme. -/
theorem afterOther_text {u : Url} (written : u.Written) (other : kindOf u.scheme = .other) :
    afterOther u.scheme (hierText u ++ tailText u) = .ok u := by
  have no_file : kindOf u.scheme ≠ .file := by
    rw [other]
    decide
  have u_path := written.path
  have whole := withTail_tailText written
  cases path : u.path with
  | unstructured s =>
      rw [path] at u_path whole
      cases u_path with
      | unstructured _ alone clean bare relative _ =>
          have authority : u.authority = none := by simpa using alone
          have text : hierText u = s := by simp [hierText, authority, path, marked, Path.text]
          rw [authority] at whole
          rw [text, afterOther_unstructured clean bare relative (isTail_tailText u), whole]
  | segments ss =>
      rw [path] at u_path
      cases u_path with
      | segments segments some_segment _ =>
          cases authority : u.authority with
          | some a =>
              rw [hierText_of_authority authority path]
              exact afterSlashes_text written no_file authority path
          | none =>
              have more : ss ≠ [] := fun empty => by
                have placed := (some_segment empty).2
                rw [authority] at placed
                cases placed
              obtain ⟨first, ss, rfl⟩ := List.exists_cons_of_ne_nil more
              rw [other] at segments
              obtain ⟨s, text, single, read⟩ := readSegments_marked segments (isTail_tailText u)
              have shown : hierText u = marked (.segments (first :: ss)) := by
                simp [hierText, authority, path]
              rw [path, authority] at whole
              rw [shown, text, afterOther_slash single]
              simp only [withSegments, other, read, whole]

theorem Authority.Written.inside {scheme : String} {a : Authority} (written : a.Written scheme)
    (kind : Kind) : ∀ c ∈ a.credentials ++ a.place, isEnd kind c = false := by
  intro c member
  rcases List.mem_append.mp member with credentials | place
  · unfold Authority.credentials at credentials
    split at credentials
    · cases credentials
    · rcases List.mem_append.mp credentials with login | at_sign
      · exact written.login_inside kind c login
      · rw [List.mem_singleton.mp at_sign]
        cases kind <;> decide
  · exact (isPlaceChar_place written c place).isEnd_eq_false kind

/-- A URL that isn't of another scheme has an authority and segments. -/
theorem Written.placed {u : Url} (written : u.Written) (known : kindOf u.scheme ≠ .other) :
    ∃ a first ss, u.authority = some a ∧ u.path = .segments (first :: ss) ∧
      WrittenSegments (kindOf u.scheme) (first :: ss) := by
  have u_path := written.path
  cases path : u.path with
  | unstructured s =>
      rw [path] at u_path
      cases u_path with
      | unstructured other => exact absurd other known
  | segments ss =>
      rw [path] at u_path
      cases u_path with
      | segments segments some_segment server =>
          obtain ⟨a, authority⟩ := Option.isSome_iff_exists.mp (server known)
          have more : ss ≠ [] := fun empty => known (some_segment empty).1
          obtain ⟨first, ss, rfl⟩ := List.exists_cons_of_ne_nil more
          exact ⟨a, first, ss, authority, rfl, segments⟩

/-- The URL of a server is read back after its scheme. -/
theorem afterServer_text {u : Url} (written : u.Written) (server : kindOf u.scheme = .server) :
    afterScheme none u.scheme (hierText u ++ tailText u) = .ok u := by
  have no_file : kindOf u.scheme ≠ .file := by
    rw [server]
    decide
  obtain ⟨a, first, ss, authority, path, -⟩ := written.placed (by rw [server]; decide)
  have a_written := written.authority a authority
  have some_place : a.credentials ++ a.place ≠ [] := by
    have some_host := a_written.host.some_name server
    simp [Authority.place, some_host]
  obtain ⟨c, s, same⟩ := List.exists_cons_of_ne_nil some_place
  have inside := a_written.inside .server c (by rw [same]; exact List.mem_cons_self)
  have no_slash : (c == '/' || c == '\\') = false := by
    simp only [isEnd, isSlash, Bool.or_eq_false_iff] at inside
    simpa using inside.1.1
  have read := afterSlashes_text written no_file authority path
  rw [same, List.cons_append] at read
  rw [hierText_of_authority authority path, same, List.cons_append]
  simp only [afterScheme, server]
  rw [List.dropWhile_cons_of_pos (by decide), List.dropWhile_cons_of_pos (by decide),
    List.dropWhile_cons_of_neg (by simpa using no_slash), read]

/-- A path of a file that is read as it stands: without dot segments, which only a drive can keep, and
without a drive first if there is a host. -/
def standsInFile (host : Host) (ss : List (List Char)) : Bool :=
  ss.all (fun s => !isDot s && !isDoubleDot s) &&
  (host == .name [] || (ss.take 1).all fun s => !startsDrive s)

theorem standsInFile_iff {host : Host} {first : List Char} {ss : List (List Char)} :
    standsInFile host (first :: ss) = true ↔
      (∀ s ∈ first :: ss, isDot s = false ∧ isDoubleDot s = false) ∧
        (host = .name [] ∨ startsDrive first = false) := by
  simp [standsInFile]

/-- The URL of a file is read back from its host on. -/
theorem fileAfterSlashes_text {host : Host} (written : WrittenHost .file host) {first : List Char}
    {ss : List (List Char)} (segments : WrittenSegments .file (first :: ss))
    (stands : standsInFile host (first :: ss) = true) {rest : List Char} (tail : IsTail rest) :
    fileAfterSlashes (host.text ++ ((Path.segments (first :: ss)).text ++ rest)) =
      .ok (withTail ⟨"file", some { nowhere with host := host }, .segments (first :: ss), none, none⟩
        rest) := by
  obtain ⟨dots, drive⟩ := standsInFile_iff.mp stands
  have inside : ∀ c ∈ host.text, isEnd .file c = false := fun c member =>
    (written.stands.place c member).isEnd_eq_false .file
  obtain ⟨before, after⟩ := takeWhile_authority inside
    (endsAuthority_path .file (first :: ss) tail)
  simp only [fileAfterSlashes, before, after, written.stands.no_drive, Bool.false_eq_true, false_or]
  by_cases none_given : host.text = []
  -- Without a host the path is read with its slash, so that its first segment is no drive.
  · have nowhere_else : host = .name [] := by
      rcases written.readsBack with ⟨-, same⟩ | again
      · exact same
      · exact absurd none_given (Host.read_text again).2.1
    subst nowhere_else
    simp only [Host.text, List.isEmpty_nil, ↓reduceIte, List.nil_append, ite_self,
      readSegments_slash_text segments dots tail]
  · have elsewhere : host ≠ .name [] := by
      rintro rfl
      exact none_given rfl
    have again : Host.read host.text = .ok host :=
      written.readsBack.resolve_left fun nowhere_given => elsewhere nowhere_given.2
    have some_text : ¬host.text.isEmpty = true := fun empty => none_given (List.isEmpty_iff.mp empty)
    have slash : isSlash .file '/' = true := rfl
    have text : (Path.segments (first :: ss)).text ++ rest =
        '/' :: (first ++ (Path.segments ss).text ++ rest) := by
      simp [Path.text]
    have read := readSegments_text segments dots (fun _ => drive.resolve_left elsewhere) tail
    simp only [some_text, ↓reduceIte, again, written.abroad rfl, text, slash, read,
      Bool.false_eq_true]

/-- The URL of a file is read back after its scheme. -/
theorem afterFile_text {u : Url} (written : u.Written) (file : kindOf u.scheme = .file)
    (stands : ∀ a ss, u.authority = some a → u.path = .segments ss → standsInFile a.host ss = true) :
    afterFile none (hierText u ++ tailText u) = .ok u := by
  obtain ⟨a, first, ss, authority, path, segments⟩ := written.placed (by rw [file]; decide)
  have a_written := written.authority a authority
  obtain ⟨no_user, no_password, no_port⟩ := a_written.bare (.inl file)
  have host_written := a_written.host
  rw [file] at segments host_written
  have alone : a = { nowhere with host := a.host } := by
    obtain ⟨user, password, host, port⟩ := a
    simp_all [nowhere]
  have place : a.credentials ++ a.place = a.host.text := by
    simp [Authority.credentials, Authority.place, portText, no_user, no_password, no_port]
  have name : u.scheme = "file" := by
    unfold kindOf at file
    split at file
    · assumption
    · split at file <;> cases file
  have slash : isSlash .file '/' = true := rfl
  have read := fileAfterSlashes_text host_written segments (stands a _ authority path)
    (isTail_tailText u)
  have whole := withTail_tailText written
  rw [name, authority, path, alone] at whole
  rw [hierText_of_authority authority path, place]
  simp only [afterFile, slash, Bool.not_true, Bool.false_eq_true, ↓reduceIte, read, whole]

/-! ## All URLs -/

theorem visible_optionText {inSet : Char → Bool} {mark : Char} (shown : 0x20 < mark.toNat)
    {s : Option (List Char)} (clean : ∀ t, s = some t → Clean inSet t)
    (blanks : ∀ c, isControl c = true ∨ c = ' ' → inSet c = true) : Visible (optionText mark s) := by
  cases s with
  | none => exact fun c member => absurd member List.not_mem_nil
  | some t => exact visible_cons shown (visible_of_clean (clean t rfl) blanks)

theorem visible_tailText {u : Url} (written : u.Written) : Visible (tailText u) :=
  visible_append
    (visible_optionText (by decide) written.query fun _ => querySet_blank u.scheme)
    (visible_optionText (by decide) written.fragment fun _ => inFragmentSet_blank)

theorem visible_segments {kind : Kind} {ss : List (List Char)}
    (written : ∀ s ∈ ss, WrittenSegment kind s) : Visible (Path.segments ss).text := by
  intro c member
  obtain ⟨s, among, inside⟩ := List.mem_flatMap.mp member
  exact visible_cons (show 0x20 < '/'.toNat by decide)
    (visible_of_clean (written s among).clean fun _ => inPathSet_blank) c inside

theorem visible_credentials {scheme : String} {a : Authority} (written : a.Written scheme) :
    Visible a.credentials := by
  have user := visible_of_clean written.user fun _ => inUserinfoSet_blank
  have password := visible_of_clean written.password fun _ => inUserinfoSet_blank
  have at_sign : Visible ['@'] := visible_cons (by decide) fun c member =>
    absurd member List.not_mem_nil
  unfold Authority.credentials
  split
  · exact fun c member => absurd member List.not_mem_nil
  · split
    · exact visible_append (by simpa using user) at_sign
    · exact visible_append (visible_append user (visible_cons (by decide) password)) at_sign

/-- A URL with a path of segments is of visible characters up to its query. -/
theorem visible_hierText {u : Url} (written : u.Written) {ss : List (List Char)}
    (path : u.path = .segments ss) : Visible (hierText u) := by
  have u_path := written.path
  rw [path] at u_path
  cases u_path with
  | segments segments =>
      have shown := visible_segments segments.all
      unfold hierText
      split
      · rename_i a authority
        have a_written := written.authority a authority
        have place : Visible a.place := fun c member => (isPlaceChar_place a_written c member).low
        rw [path]
        exact visible_cons (by decide) (visible_cons (by decide)
          (visible_append (visible_append (visible_credentials a_written) place) shown))
      · rw [path]
        unfold marked
        split
        · exact visible_cons (by decide) (visible_cons (by decide) shown)
        · exact shown

theorem tailed_iff (u : Url) :
    u.query.isSome = true ∨ u.fragment.isSome = true ↔ tailText u ≠ [] := by
  unfold tailText
  cases u.query <;> cases u.fragment <;> simp [optionText]

/-- The text of a URL in written form is taken as it is. -/
theorem cleaned_chars {u : Url} (written : u.Written) : cleaned u.chars = u.chars := by
  have scheme := written.scheme.visible
  have tail := visible_tailText written
  have u_path := written.path
  rw [chars_eq]
  cases path : u.path with
  | segments ss =>
      exact cleaned_of_visible (visible_append scheme (visible_cons (by decide)
        (visible_append (visible_hierText written path) tail)))
  | unstructured s =>
      rw [path] at u_path
      cases u_path with
      | unstructured _ alone clean _ _ last =>
          have text : hierText u = s := by
            have authority : u.authority = none := by simpa using alone
            simp [hierText, authority, path, marked, Path.text]
          have printed : ∀ c ∈ s, 0x20 ≤ c.toNat := by
            intro c member
            have spared := clean c member
            simp only [isControl, Bool.or_eq_false_iff, decide_eq_false_iff_not] at spared
            omega
          have colon : Visible [':'] := visible_cons (by decide) fun c none_left => by cases none_left
          rw [text, List.append_cons]
          exact cleaned_between (visible_append scheme colon) (by simp) printed tail
            (last.imp_left (tailed_iff u).mp)

/-- The path is read as it stands, as that of any URL but a file's is. -/
def pathStands (u : Url) : Bool :=
  match u.authority, u.path with
  | some a, .segments ss => kindOf u.scheme != .file || standsInFile a.host ss
  | _, _ => true

/-- A URL in written form is what its text is read as. -/
theorem readWith_chars {u : Url} (written : u.Written) (stands : pathStands u = true) :
    readWith none u.chars = .ok u := by
  have found := scheme?_append written.scheme (hierText u ++ tailText u)
  rw [← chars_eq] at found
  simp only [readWith, cleaned_chars written, found]
  cases kind : kindOf u.scheme with
  | server => exact afterServer_text written kind
  | other =>
      simp only [afterScheme, kind]
      exact afterOther_text written kind
  | file =>
      simp only [afterScheme, kind]
      refine afterFile_text written kind fun a ss authority path => ?_
      simpa [pathStands, kind, authority, path] using stands

theorem read_text {u : Url} (written : u.Written) (stands : pathStands u = true) :
    Url.read u.text = .ok u := by
  rw [Url.read, Url.text, String.toList_ofList, readWith_chars written stands]

end PageExtract.Url
