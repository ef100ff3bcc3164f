import PageExtract.Proofs.Hosts
import PageExtract.Proofs.PathSegments

/-!
URLs in written form: what holds of the parts of a URL that a text is read as, on its own or
relative to the URL of a server. Scheme and host are in lower case, what has to be encoded is, and
what the reader takes for granted when it goes on to the next part is true of the part before.
-/

set_option autoImplicit false

namespace PageExtract.Url

/-! ## Parts -/

/-- A character of a scheme. -/
def isSchemeChar (c : Char) : Bool :=
  c.isAlphanum || c == '+' || c == '-' || c == '.'

/-- A scheme in lower case. -/
structure IsScheme (s : List Char) : Prop where
  letter : ∃ c rest, s = c :: rest ∧ c.isAlpha = true
  chars : ∀ c ∈ s, isSchemeChar c = true
  lower : ∀ c ∈ s, c.toLower = c

/-- A host as it stands in URLs of a kind; only files may have none. -/
structure WrittenHost (kind : Kind) (h : Host) : Prop where
  stands : h.Stands
  readsBack : (kind = .file ∧ h = .name []) ∨
    (if kind = .other then Host.readOpaque h.text else Host.read h.text) = .ok h
  some_name : kind = .server → h.text ≠ []
  abroad : kind = .file → h ≠ .name "localhost".toList

/-- User, password, host and port as they stand in URLs of a scheme. -/
structure Authority.Written (scheme : String) (a : Authority) : Prop where
  user : Clean inUserinfoSet a.user
  password : Clean inUserinfoSet a.password
  host : WrittenHost (kindOf scheme) a.host
  port : ∀ n, a.port = some n → n ≤ 65535 ∧ defaultPort? scheme ≠ some n
  bare : kindOf scheme = .file ∨ a.host = .name [] → a.user = [] ∧ a.password = [] ∧ a.port = none

/-- A path as it stands in URLs of a scheme, with an authority before it or not and with a query or
a fragment after it or not. -/
inductive Path.Written (scheme : String) (placed tailed : Prop) : Path → Prop where
  | segments {ss : List (List Char)} (written : WrittenSegments (kindOf scheme) ss)
      (some_segment : ss = [] → kindOf scheme = .other ∧ placed)
      (server : kindOf scheme ≠ .other → placed) : Path.Written scheme placed tailed (.segments ss)
  | unstructured {s : List Char} (other : kindOf scheme = .other) (alone : ¬placed)
      (clean : Clean isControl s) (bare : ∀ c ∈ s, c ≠ '?' ∧ c ≠ '#') (relative : s.head? ≠ some '/')
      (last : tailed ∨ s.getLast? ≠ some ' ') : Path.Written scheme placed tailed (.unstructured s)

/-- The characters of a query that are encoded. -/
def querySet (scheme : String) : Char → Bool :=
  if kindOf scheme = .other then inQuerySet else inSpecialQuerySet

end Url

open Url

/-- A URL in written form. -/
structure Url.Written (u : Url) : Prop where
  scheme : IsScheme u.scheme.toList
  authority : ∀ a, u.authority = some a → a.Written u.scheme
  path : u.path.Written u.scheme (u.authority.isSome = true)
    (u.query.isSome = true ∨ u.fragment.isSome = true)
  query : ∀ q, u.query = some q → Clean (querySet u.scheme) q
  fragment : ∀ f, u.fragment = some f → Clean inFragmentSet f

namespace Url

/-! ## Schemes -/

theorem toNat_lt_of_isSchemeChar {c : Char} (scheme : isSchemeChar c = true) : c.toNat < 0x80 := by
  simp only [isSchemeChar, Bool.or_eq_true, beq_iff_eq] at scheme
  rcases scheme with ((letter | rfl) | rfl) | rfl
  · exact toNat_lt_of_isAlphanum letter
  · decide
  · decide
  · decide

theorem isSchemeChar_toLower {c : Char} (scheme : isSchemeChar c = true) :
    isSchemeChar c.toLower = true ∧ c.toLower.toLower = c.toLower :=
  Text.ascii_induction
    (p := fun c => isSchemeChar c = true →
      isSchemeChar c.toLower = true ∧ c.toLower.toLower = c.toLower)
    (by decide) (toNat_lt_of_isSchemeChar scheme) scheme

theorem isAlpha_toLower {c : Char} (letter : c.isAlpha = true) : c.toLower.isAlpha = true :=
  Text.ascii_induction (p := fun c => c.isAlpha = true → c.toLower.isAlpha = true) (by decide)
    (toNat_lt_of_isAlphanum (isAlphanum_of_isAlpha letter)) letter

theorem schemeAhead?_spec {s scheme rest : List Char} (ahead : schemeAhead? s = some (scheme, rest)) :
    (∃ before, s = before ++ ':' :: rest ∧ scheme = before.map Char.toLower) ∧
      ∀ c ∈ scheme, isSchemeChar c = true ∧ c.toLower = c := by
  induction s generalizing scheme with
  | nil => simp [schemeAhead?] at ahead
  | cons c s ih =>
      unfold schemeAhead? at ahead
      split at ahead
      · cases ahead
      · rename_i same
        cases same
        cases ahead
        exact ⟨⟨[], rfl, rfl⟩, by simp⟩
      · rename_i same
        cases same
        split at ahead
        · rename_i valid
          obtain ⟨⟨scheme', rest'⟩, later, whole⟩ := Option.map_eq_some_iff.mp ahead
          cases whole
          obtain ⟨⟨before, split, lower⟩, all⟩ := ih later
          refine ⟨⟨c :: before, by rw [split, List.cons_append], by rw [lower, List.map_cons]⟩, ?_⟩
          simp only [List.mem_cons, forall_eq_or_imp]
          exact ⟨isSchemeChar_toLower valid, all⟩
        · cases ahead

theorem scheme?_spec {s rest : List Char} {scheme : String} (found : scheme? s = some (scheme, rest)) :
    IsScheme scheme.toList ∧ ∃ before, s = before ++ ':' :: rest := by
  unfold scheme? at found
  split at found
  · rename_i c tail
    split at found
    · rename_i letter
      obtain ⟨⟨lower, rest'⟩, ahead, whole⟩ := Option.map_eq_some_iff.mp found
      cases whole
      obtain ⟨⟨before, split, same⟩, all⟩ := schemeAhead?_spec ahead
      rw [String.toList_ofList]
      refine ⟨⟨?_, fun d member => (all d member).1, fun d member => (all d member).2⟩, before, split⟩
      cases before with
      | nil =>
          cases split
          exact absurd letter (by decide)
      | cons d before =>
          cases split
          exact ⟨c.toLower, before.map Char.toLower, same, isAlpha_toLower letter⟩
    · cases found
  · cases found

/-! ## Query and fragment -/

section

variable (u : Url) (rest : List Char)

@[simp] theorem withTail_scheme : (withTail u rest).scheme = u.scheme := by
  unfold withTail
  split <;> rfl

@[simp] theorem withTail_authority : (withTail u rest).authority = u.authority := by
  unfold withTail
  split <;> rfl

@[simp] theorem withTail_path : (withTail u rest).path = u.path := by
  unfold withTail
  split <;> rfl

end

theorem withTail_query {u : Url} {rest q : List Char} (query : (withTail u rest).query = some q) :
    Clean (querySet u.scheme) q := by
  unfold withTail at query
  split at query
  · cases query
    unfold querySet
    split
    · exact clean_encode sparesEscapes_query _
    · exact clean_encode sparesEscapes_specialQuery _
  · cases query

theorem withTail_fragment {u : Url} {rest f : List Char}
    (fragment : (withTail u rest).fragment = some f) : Clean inFragmentSet f := by
  unfold withTail at fragment
  split at fragment
  all_goals
    simp only at fragment
    split at fragment
    · cases fragment
      exact clean_encode sparesEscapes_fragment _
    · cases fragment

/-- A URL is tailed if anything comes after its path. -/
theorem withTail_tailed {u : Url} {rest : List Char} (tail : IsTail rest) (more : rest ≠ []) :
    (withTail u rest).query.isSome = true ∨ (withTail u rest).fragment.isSome = true := by
  obtain ⟨c, s, rfl⟩ := List.exists_cons_of_ne_nil more
  rcases tail c rfl with rfl | rfl
  · exact .inl rfl
  · exact .inr rfl

theorem Path.Written.tailed {scheme : String} {placed tailed tailed' : Prop} {ss : List (List Char)}
    (written : (Path.segments ss).Written scheme placed tailed) :
    (Path.segments ss).Written scheme placed tailed' := by
  cases written with
  | segments written some_segment server => exact .segments written some_segment server

/-- A URL with a path of segments is in written form with any tail. -/
theorem written_withTail {u : Url} (scheme : IsScheme u.scheme.toList)
    (authority : ∀ a, u.authority = some a → a.Written u.scheme) {ss : List (List Char)}
    (path : u.path = .segments ss) (segments : WrittenSegments (kindOf u.scheme) ss)
    (some_segment : ss = [] → kindOf u.scheme = .other ∧ u.authority.isSome = true)
    (server : kindOf u.scheme ≠ .other → u.authority.isSome = true) {rest : List Char} :
    (withTail u rest).Written := by
  refine ⟨by simpa using scheme, by simpa using authority, ?_, ?_, fun f => withTail_fragment⟩
  · simp only [withTail_scheme, withTail_authority, withTail_path, path]
    exact .segments segments some_segment server
  · intro q query
    rw [withTail_scheme]
    exact withTail_query query

/-! ## Authorities -/

theorem userAhead_spec {kind : Kind} {s user password rest : List Char}
    (ahead : userAhead kind s = .ok (user, password, rest)) :
    Clean inUserinfoSet user ∧ Clean inUserinfoSet password := by
  simp only [userAhead] at ahead
  split at ahead
  · cases ahead
    exact ⟨clean_nil, clean_nil⟩
  · split at ahead
    · cases ahead
      exact ⟨clean_nil, clean_nil⟩
    · cases ahead
  · cases ahead
    exact ⟨clean_encode sparesEscapes_userinfo _, clean_encode sparesEscapes_userinfo _⟩

theorem portAhead_le {port port' : Option Nat} {s rest : List Char}
    (ahead : portAhead port s = .ok (port', rest)) (small : ∀ n, port = some n → n ≤ 65535) :
    ∀ n, port' = some n → n ≤ 65535 := by
  induction s generalizing port with
  | nil =>
      cases ahead
      exact small
  | cons c s ih =>
      simp only [portAhead] at ahead
      split at ahead
      · split at ahead
        · cases ahead
        · rename_i bound
          exact ih ahead fun n same => by cases same; omega
      · split at ahead
        · cases ahead
          exact small
        · cases ahead

theorem portAfter_spec {scheme : String} {s rest : List Char} {port : Option Nat}
    (after : portAfter scheme s = .ok (port, rest)) :
    (∀ n, port = some n → n ≤ 65535 ∧ defaultPort? scheme ≠ some n) ∧
      (s.head? ≠ some ':' → port = none) := by
  unfold portAfter at after
  split at after
  · rename_i digits
    cases ahead : portAhead none digits with
    | error p => simp [ahead, Except.map] at after
    | ok r =>
        obtain ⟨port', rest'⟩ := r
        have small := portAhead_le ahead (by simp)
        simp only [ahead, Except.map, Except.ok.injEq, Prod.mk.injEq] at after
        obtain ⟨same, -⟩ := after
        refine ⟨fun n found => ?_, fun bare => absurd rfl bare⟩
        split at same
        · rw [← same] at found
          cases found
        · rename_i other
          subst same
          exact ⟨small n found, fun default => other (by rw [found, default])⟩
  · cases after
    exact ⟨by simp, fun _ => rfl⟩

/-- A host that is read, other than that of a file. -/
theorem writtenHost_of_read {kind : Kind} (no_file : kind ≠ .file) {s : List Char} {h : Host}
    (read : (if kind = .other then Host.readOpaque s else Host.read s) = .ok h) :
    WrittenHost kind h := by
  split at read
  · rename_i other
    obtain ⟨stands, again⟩ := Host.readOpaque_text read
    refine ⟨stands, .inr ?_, fun server => ?_, fun file => absurd file no_file⟩
    · rw [if_pos other]
      exact again
    · rw [other] at server
      cases server
  · rename_i other
    obtain ⟨stands, some_text, again⟩ := Host.read_text read
    refine ⟨stands, .inr ?_, fun _ => some_text, fun file => absurd file no_file⟩
    rw [if_neg other]
    exact again

theorem placeAhead_spec {scheme : String} (no_file : kindOf scheme ≠ .file) {s rest : List Char}
    {host : Host} {port : Option Nat} (ahead : placeAhead scheme s = .ok (host, port, rest)) :
    WrittenHost (kindOf scheme) host ∧
      (∀ n, port = some n → n ≤ 65535 ∧ defaultPort? scheme ≠ some n) ∧
      (host = .name [] → port = none) := by
  simp only [placeAhead] at ahead
  split at ahead
  · cases ahead
  · split at ahead
    · cases ahead
    · rename_i host' read
      split at ahead
      · cases ahead
      · rename_i placed
        split at ahead
        · cases ahead
        · rename_i port' rest' after
          cases ahead
          obtain ⟨bounds, bare⟩ := portAfter_spec after
          exact ⟨writtenHost_of_read no_file read, bounds, fun empty =>
            bare fun colon => placed ⟨empty, colon⟩⟩

theorem pathAfter_spec (kind : Kind) (s : List Char) :
    WrittenSegments kind (pathAfter kind s).1 ∧ ((pathAfter kind s).1 = [] → kind = .other) := by
  have none_written : WrittenSegments kind [] := ⟨by simp, fun _ => rfl⟩
  have empty_written : WrittenSegments kind [[]] :=
    ⟨by simpa using writtenSegment_nil, fun _ => rfl⟩
  have nothing : ∀ p ∈ ([] : List (List Char)), WrittenSegment kind p := by simp
  have read : ∀ s, WrittenSegments kind (readSegments kind [] s).1.segments ∧
      ((readSegments kind [] s).1.segments = [] → kind = .other) := fun s => by
    obtain ⟨written, some_segment, -⟩ := readSegments_written nothing s
    exact ⟨written, fun empty => absurd empty some_segment⟩
  unfold pathAfter
  split
  · split
    · rename_i other
      exact ⟨none_written, fun _ => other⟩
    · exact ⟨empty_written, fun empty => absurd empty (by simp)⟩
  · split
    · exact read _
    · split
      · rename_i bare
        exact ⟨none_written, fun _ => bare.1⟩
      · exact read _

/-- What is read after two slashes, other than the host of a file, is in written form. -/
theorem afterSlashes_written {scheme : String} (valid : IsScheme scheme.toList)
    (no_file : kindOf scheme ≠ .file) {s : List Char} {u : Url}
    (read : afterSlashes scheme s = .ok u) : u.Written := by
  simp only [afterSlashes] at read
  split at read
  · cases read
  · rename_i user password rest ahead
    obtain ⟨user_clean, password_clean⟩ := userAhead_spec ahead
    split at read
    · cases read
    · rename_i host port rest place
      obtain ⟨host_written, bounds, bare_port⟩ := placeAhead_spec no_file place
      split at read
      · cases read
      · rename_i named
        obtain ⟨segments, some_segment⟩ := pathAfter_spec (kindOf scheme) rest
        cases read
        refine written_withTail valid ?_ rfl segments (fun empty => ⟨some_segment empty, rfl⟩)
          (fun _ => rfl)
        intro a same
        cases same
        refine ⟨user_clean, password_clean, host_written, bounds, fun empty => ?_⟩
        have no_host := empty.resolve_left no_file
        have no_user : user.isEmpty = true ∧ password.isEmpty = true := by
          by_contra someone
          exact named ⟨no_host, someone⟩
        exact ⟨List.isEmpty_iff.mp no_user.1, List.isEmpty_iff.mp no_user.2, bare_port no_host⟩

/-! ## Relative texts -/

theorem onlyTail_written {base : Url} (written : base.Written) {ss : List (List Char)}
    (path : base.path = .segments ss) (s : List Char) : (onlyTail base s).Written := by
  obtain ⟨scheme, authority, base_path, query, fragment⟩ := written
  rw [path] at base_path
  unfold onlyTail
  split
  · refine ⟨scheme, authority, ?_, query, fun f same => ?_⟩
    · simp only [path]
      exact base_path.tailed
    · cases same
      exact clean_encode sparesEscapes_fragment _
  · cases base_path with
    | segments segments some_segment server =>
        exact written_withTail scheme authority path segments some_segment server
  · refine ⟨scheme, authority, ?_, query, fun f same => by cases same⟩
    simp only [path]
    exact base_path.tailed

theorem withSegments_written {base : Url} (scheme : IsScheme base.scheme.toList)
    (authority : ∀ a, base.authority = some a → a.Written base.scheme)
    (server : kindOf base.scheme ≠ .other → base.authority.isSome = true)
    {before : List (List Char)} (held : ∀ s ∈ before, WrittenSegment (kindOf base.scheme) s)
    (s : List Char) : (withSegments base before s).Written := by
  obtain ⟨segments, some_segment, -⟩ := readSegments_written held s
  simp only [withSegments]
  exact written_withTail (u := { base with path := .segments _ }) scheme authority rfl segments
    (fun empty => absurd empty some_segment) server

theorem folder_written {base : Url} (written : base.Written) :
    ∀ s ∈ folder base, WrittenSegment (kindOf base.scheme) s := by
  intro s member
  have path := written.path
  unfold folder at member
  split at member
  · exact absurd member List.not_mem_nil
  · rename_i ss same
    rw [same] at path
    cases path with
    | segments segments =>
        split at member
        · split at member
          · exact segments.all s member
          · exact segments.all s (List.mem_of_mem_dropLast member)
        · exact absurd member List.not_mem_nil

/-- The URL of a server that texts are read relative to. -/
structure IsBase (base : Url) : Prop where
  written : base.Written
  server : kindOf base.scheme = .server

theorem IsBase.segments {base : Url} (held : IsBase base) : ∃ ss, base.path = .segments ss := by
  have path := held.written.path
  cases same : base.path with
  | segments ss => exact ⟨ss, rfl⟩
  | unstructured s =>
      rw [same] at path
      cases path with
      | unstructured other =>
          rw [held.server] at other
          cases other

theorem afterRelative_written {base : Url} (held : IsBase base) {s : List Char} {u : Url}
    (read : afterRelative base s = .ok u) : u.Written := by
  obtain ⟨ss, path⟩ := held.segments
  have no_file : kindOf base.scheme ≠ .file := by
    rw [held.server]
    decide
  have placed : kindOf base.scheme ≠ .other → base.authority.isSome = true := by
    have base_path := held.written.path
    rw [path] at base_path
    cases base_path with
    | segments _ _ server => exact server
  simp only [afterRelative] at read
  split at read
  · cases read
    exact onlyTail_written held.written path _
  · exact afterSlashes_written held.written.scheme no_file read
  · split at read
    · split at read
      · exact afterSlashes_written held.written.scheme no_file read
      · cases read
        exact withSegments_written held.written.scheme held.written.authority placed (by simp) _
    · split at read
      · cases read
        exact onlyTail_written held.written path _
      · cases read
        exact withSegments_written held.written.scheme held.written.authority placed
          (folder_written held.written) _

/-! ## Files -/

theorem isScheme_file : IsScheme "file".toList := by
  have found : scheme? ['f', 'i', 'l', 'e', ':'] = some ("file", []) := rfl
  exact (scheme?_spec found).1

theorem authority_written_file {h : Host} (host : WrittenHost .file h) :
    ({ nowhere with host := h } : Authority).Written "file" :=
  ⟨clean_nil, clean_nil, host, fun _ same => (by cases same), fun _ => ⟨rfl, rfl, rfl⟩⟩

theorem writtenHost_none : WrittenHost .file (.name []) :=
  ⟨Host.stands_of_bare (by simp [Host.text]) (by simp [Host.text]), .inl ⟨rfl, rfl⟩,
    fun server => (by cases server), fun _ => by decide⟩

theorem fileAfterSlashes_written {s : List Char} {u : Url} (read : fileAfterSlashes s = .ok u) :
    u.Written := by
  have file : ∀ (h : Host) (s : List Char), WrittenHost .file h →
      (withTail ⟨"file", some { nowhere with
          host := if (readSegments .file [] s).1.drive then .name [] else h },
        .segments (readSegments .file [] s).1.segments, none, none⟩
        (readSegments .file [] s).2).Written := by
    intro h s host
    have nothing : ∀ p ∈ ([] : List (List Char)), WrittenSegment .file p := by simp
    obtain ⟨segments, some_segment, -⟩ := readSegments_written nothing s
    refine written_withTail (u := ⟨"file", some _, .segments _, none, none⟩) isScheme_file ?_ rfl
      segments (fun empty => absurd empty some_segment) (fun _ => rfl)
    intro a same
    cases same
    split
    · exact authority_written_file writtenHost_none
    · exact authority_written_file host
  simp only [fileAfterSlashes] at read
  split at read
  · cases read
    exact file _ _ writtenHost_none
  · split at read
    · cases read
    · rename_i host parsed
      obtain ⟨stands, some_text, again⟩ := Host.read_text parsed
      split at read
      · cases read
        exact file _ _ writtenHost_none
      · rename_i abroad
        cases read
        exact file _ _ ⟨stands, .inr again, fun server => (by cases server), fun _ => abroad⟩

/-- The URL of a file that is read on its own is in written form. -/
theorem afterFile_written {s : List Char} {u : Url} (read : afterFile none s = .ok u) : u.Written := by
  have fresh : ∀ s, (withSegments ⟨"file", some nowhere, .segments [], none, none⟩ [] s).Written := by
    intro s
    refine withSegments_written isScheme_file ?_ (fun _ => rfl) (by simp) s
    intro a same
    cases same
    exact authority_written_file writtenHost_none
  have root : ∀ rest, fileRoot none rest = (nowhere, []) := fun rest => by
    unfold fileRoot
    split <;> rfl
  simp only [afterFile, root] at read
  split at read
  · cases read
    exact fresh _
  · split at read
    · cases read
      exact fresh _
    · split at read
      · split at read
        · exact fileAfterSlashes_written read
        · cases read
          exact fresh _
      · cases read
        exact fresh _

/-! ## Other schemes -/

/-- The path up to the tail, if it doesn't begin with a slash, is one without segments. -/
theorem unstructured_written {scheme : String} (other : kindOf scheme = .other) {s : List Char}
    (ends : ∀ c, s.getLast? = some c → c ≠ ' ') (single : s.head? ≠ some '/') {placed tailed : Prop}
    (alone : ¬placed) (more : s.dropWhile (fun c => c != '?' && c != '#') ≠ [] → tailed) :
    Path.Written scheme placed tailed
      (.unstructured (encode isControl (s.takeWhile fun c => c != '?' && c != '#'))) := by
  refine .unstructured other alone (clean_encode sparesEscapes_control _) ?_ ?_ ?_
  · intro c member
    rcases mem_encode member with ⟨original, -⟩ | escape
    · simpa using List.mem_takeWhile_imp original
    · exact ⟨(isPlaceChar_of_isEscape escape).query, (isPlaceChar_of_isEscape escape).fragment⟩
  · intro slash
    rcases head?_encode slash with first | escape
    · rw [List.head?_takeWhile, Option.filter_eq_some_iff] at first
      exact single first.1
    · exact (isPlaceChar_of_isEscape escape).slash rfl
  · refine or_iff_not_imp_left.mpr fun untailed space => ?_
    have none_left := not_not.mp fun rest => untailed (more rest)
    have whole : (s.takeWhile fun c => c != '?' && c != '#') = s := by
      have halves := List.takeWhile_append_dropWhile (l := s) (p := fun c => c != '?' && c != '#')
      rwa [none_left, List.append_nil] at halves
    rw [whole] at space
    rcases getLast?_encode space with last | escape
    · exact ends ' ' last rfl
    · exact absurd (isPlaceChar_of_isEscape escape).low (by decide)

theorem afterOther_written {scheme : String} (valid : IsScheme scheme.toList)
    (other : kindOf scheme = .other) {s : List Char}
    (ends : ∀ c, s.getLast? = some c → c ≠ ' ') {u : Url} (read : afterOther scheme s = .ok u) :
    u.Written := by
  have no_file : kindOf scheme ≠ .file := by
    rw [other]
    decide
  simp only [afterOther] at read
  split at read
  · exact afterSlashes_written valid no_file read
  · cases read
    exact withSegments_written valid (by simp) (fun server => absurd other server) (by simp) _
  · rename_i single
    have relative : s.head? ≠ some '/' := by
      intro slash
      obtain ⟨rest, same⟩ := List.head?_eq_some_iff.mp slash
      exact single rest same
    have tail : IsTail (s.dropWhile fun c => c != '?' && c != '#') := by
      intro c first
      have stop := List.head?_dropWhile_not (fun c => c != '?' && c != '#') s
      rw [first] at stop
      simpa [or_iff_not_imp_left] using stop
    cases read
    refine ⟨by simpa using valid, by simp, ?_, fun q query => ?_, fun f => withTail_fragment⟩
    · simp only [withTail_scheme, withTail_authority, withTail_path]
      exact unstructured_written other ends relative (by simp) (withTail_tailed tail)
    · rw [withTail_scheme]
      exact withTail_query query

/-! ## All texts -/

theorem getLast?_cleaned {text : List Char} {c : Char} (last : (cleaned text).getLast? = some c) :
    c ≠ ' ' := by
  have edge : ∀ s : List Char, ∀ d, (s.dropWhile fun c => decide (c.toNat ≤ 0x20)).head? = some d →
      0x20 < d.toNat := by
    intro s d first
    have stop := List.head?_dropWhile_not (fun c : Char => decide (c.toNat ≤ 0x20)) s
    rw [first] at stop
    simpa using stop
  simp only [cleaned] at last
  rw [List.filter_reverse, List.getLast?_reverse] at last
  generalize trimmed : ((text.dropWhile fun c => decide (c.toNat ≤ 0x20)).reverse.dropWhile
    fun c => decide (c.toNat ≤ 0x20)) = s at last
  cases s with
  | nil => cases last
  | cons d s =>
      have visible := edge _ d (by rw [trimmed]; rfl)
      have kept : (d != '\t' && d != '\n' && d != '\r') = true := by
        simp only [Bool.and_eq_true, bne_iff_ne, ne_eq]
        refine ⟨⟨?_, ?_⟩, ?_⟩
        all_goals
          rintro rfl
          exact absurd visible (by decide)
      rw [List.filter_cons, if_pos kept] at last
      cases last
      rintro rfl
      exact absurd visible (by decide)

theorem afterScheme_written {base : Option Url} (held : ∀ b, base = some b → IsBase b)
    {scheme : String} (valid : IsScheme scheme.toList) {s : List Char}
    (ends : ∀ c, s.getLast? = some c → c ≠ ' ') {u : Url}
    (read : afterScheme base scheme s = .ok u) : u.Written := by
  have no_base : base.filter (·.scheme == "file") = none := by
    cases base with
    | none => rfl
    | some b =>
        have server := (held b rfl).server
        have no_file : b.scheme ≠ "file" := by
          intro same
          rw [same] at server
          exact absurd server (by decide)
        simp [no_file]
  simp only [afterScheme, no_base] at read
  split at read
  · exact afterFile_written read
  · rename_i other
    exact afterOther_written valid other ends read
  · rename_i server
    have no_file : kindOf scheme ≠ .file := by
      rw [server]
      decide
    split at read
    · rename_i b
      split at read
      · exact afterRelative_written (held b rfl) read
      · exact afterSlashes_written valid no_file read
    · exact afterSlashes_written valid no_file read

/-- What a text is read as, on its own or relative to the URL of a server, is in written form. -/
theorem readWith_written {base : Option Url} (held : ∀ b, base = some b → IsBase b)
    {text : List Char} {u : Url} (read : readWith base text = .ok u) : u.Written := by
  simp only [readWith] at read
  split at read
  · rename_i scheme rest found
    obtain ⟨valid, before, split⟩ := scheme?_spec found
    refine afterScheme_written held valid (fun c last => ?_) read
    have whole : (cleaned text).getLast? = some c := by
      rw [split, List.getLast?_append, List.getLast?_cons, last]
      rfl
    exact getLast?_cleaned whole
  · split at read
    · cases read
    · rename_i b
      obtain ⟨ss, path⟩ := (held b rfl).segments
      split at read
      · cases read
        exact onlyTail_written (held b rfl).written path _
      · rw [path] at read
        simp only [(held b rfl).server, reduceCtorEq, ↓reduceIte] at read
        exact afterRelative_written (held b rfl) read

end PageExtract.Url
