import PageExtract.Proofs.Cuts
import PageExtract.Proofs.PercentEncoding
import PageExtract.Url.Segments

/-!
Paths of segments, written and read back. Every segment of a path that is read is encoded and holds
no slash, and segments that are no dot segments are read back from their text one by one.
-/

set_option autoImplicit false

namespace PageExtract.Url

variable {kind : Kind}

/-- A segment as it stands in a path. In paths of files a dot segment may stand after a drive. -/
structure WrittenSegment (kind : Kind) (s : List Char) : Prop where
  clean : Clean inPathSet s
  slash : ∀ c ∈ s, isSlash kind c = false
  dots : kind ≠ .file → isDot s = false ∧ isDoubleDot s = false

/-- What may come after a path: nothing, a query or a fragment. -/
def IsTail (rest : List Char) : Prop :=
  ∀ c, rest.head? = some c → c = '?' ∨ c = '#'

theorem writtenSegment_nil : WrittenSegment kind [] :=
  ⟨clean_nil, by simp, fun _ => ⟨rfl, rfl⟩⟩

theorem isSlash_of_isEscape {c : Char} (escape : IsEscape c) : isSlash kind c = false := by
  rcases escape with rfl | ⟨n, small, rfl⟩
  · cases kind <;> rfl
  · have all : ∀ n < 16, ∀ kind : Kind, isSlash kind (upperHexDigit n) = false := by
      intro n small kind
      revert n
      cases kind <;> decide
    exact all n small kind

/-! ## One segment -/

theorem segmentAhead_spec {s raw rest : List Char} (ahead : segmentAhead kind s = (raw, rest)) :
    s = raw ++ rest ∧ (∀ c ∈ raw, isSlash kind c = false) ∧
      ∀ c, rest.head? = some c → isSlash kind c = true ∨ c = '?' ∨ c = '#' := by
  induction s generalizing raw with
  | nil =>
      cases ahead
      simp
  | cons c s ih =>
      simp only [segmentAhead] at ahead
      split at ahead
      · rename_i stop
        cases ahead
        refine ⟨rfl, by simp, fun d first => ?_⟩
        cases first
        simpa [or_assoc] using stop
      · rename_i inside
        cases ahead
        obtain ⟨split, bare, stops⟩ := ih rfl
        refine ⟨by simp only [List.cons_append, id_eq, List.cons.injEq, true_and]; exact split, ?_,
          stops⟩
        simp only [Bool.or_eq_true, not_or, Bool.not_eq_true] at inside
        simpa [inside.1.1] using bare

/-- A segment is read up to the slash or the tail after it. -/
theorem segmentAhead_append {s rest : List Char}
    (bare : ∀ c ∈ s, isSlash kind c = false ∧ c ≠ '?' ∧ c ≠ '#')
    (stops : ∀ c, rest.head? = some c → isSlash kind c = true ∨ c = '?' ∨ c = '#') :
    segmentAhead kind (s ++ rest) = (s, rest) := by
  induction s with
  | nil =>
      cases rest with
      | nil => rfl
      | cons c rest =>
          have stop : (isSlash kind c || c == '?' || c == '#') = true := by
            simpa [or_assoc] using stops c rfl
          rw [List.nil_append, segmentAhead, if_pos stop]
  | cons c s ih =>
      obtain ⟨slash, query, fragment⟩ := bare c List.mem_cons_self
      simp [segmentAhead, slash, query, fragment,
        ih fun d member => bare d (List.mem_cons_of_mem c member)]

theorem WrittenSegment.bare {s : List Char} (written : WrittenSegment kind s) :
    ∀ c ∈ s, isSlash kind c = false ∧ c ≠ '?' ∧ c ≠ '#' := by
  intro c member
  refine ⟨written.slash c member, ?_, ?_⟩
  · rintro rfl
    exact absurd (written.clean '?' member) (by decide)
  · rintro rfl
    exact absurd (written.clean '#' member) (by decide)

theorem toNat_lt_of_isAlphanum {c : Char} (letter : c.isAlphanum = true) : c.toNat < 0x80 := by
  have ranges : ((decide (c.val ≥ 'A'.val ∧ c.val ≤ 'Z'.val) ||
      (decide (c.val ≥ 'a'.val) && decide (c.val ≤ 'z'.val))) ||
      (decide (c.val ≥ '0'.val) && decide (c.val ≤ '9'.val))) = true := letter
  simp only [Bool.or_eq_true, Bool.and_eq_true, decide_eq_true_eq, ge_iff_le,
    UInt32.le_iff_toNat_le] at ranges
  change c.val.toNat < _
  rcases ranges with (upper | lower) | digit
  · exact lt_of_le_of_lt upper.2 (by decide)
  · exact lt_of_le_of_lt lower.2 (by decide)
  · exact lt_of_le_of_lt digit.2 (by decide)

theorem isAlphanum_of_isAlpha {c : Char} (letter : c.isAlpha = true) : c.isAlphanum = true := by
  simp [Char.isAlphanum, letter]

theorem spared_of_isAlpha {c : Char} (letter : c.isAlpha = true) :
    inPathSet c = false ∧ c ≠ '/' ∧ c ≠ '\\' :=
  Text.ascii_induction
    (p := fun c => c.isAlpha = true → inPathSet c = false ∧ c ≠ '/' ∧ c ≠ '\\') (by decide)
    (toNat_lt_of_isAlphanum (isAlphanum_of_isAlpha letter)) letter

theorem writtenSegment_of_isDrive {s : List Char} (drive : isDrive s = true) :
    WrittenSegment kind s := by
  unfold isDrive at drive
  split at drive
  · rename_i a
    obtain ⟨clean, slash, backslash⟩ := spared_of_isAlpha drive
    have colon : inPathSet ':' = false := by decide
    have apart : isSlash kind ':' = false := by cases kind <;> rfl
    refine ⟨?_, ?_, fun _ => ?_⟩
    · simp [Clean, clean, colon]
    · simp [isSlash, slash, backslash]
    · refine ⟨by simp [isDot], ?_⟩
      unfold isDoubleDot
      split
      · rename_i same
        cases same
        rfl
      · rename_i same
        cases same
      · rfl
  · cases drive

theorem isDrive_of_isDriveLike {s : List Char} (drive : isDriveLike s = true) :
    isDrive (s.take 1 ++ [':']) = true := by
  unfold isDriveLike at drive
  split at drive
  · rw [Bool.and_eq_true] at drive
    exact drive.1
  · cases drive

theorem mem_of_mem_parent {ss : List (List Char)} {s : List Char} (member : s ∈ parent ss) :
    s ∈ ss := by
  unfold parent at member
  split at member
  · split at member
    · exact member
    · exact List.mem_of_mem_dropLast member
  · exact absurd member List.not_mem_nil

/-- A segment that is read adds segments as they stand in paths. -/
theorem Trail.add_written {t : Trail} (before : ∀ s ∈ t.segments, WrittenSegment kind s)
    {raw : List Char} (bare : ∀ c ∈ raw, isSlash kind c = false) (last : Bool) :
    (∀ s ∈ (t.add kind raw last).segments, WrittenSegment kind s) ∧
      (last = true → (t.add kind raw last).segments ≠ []) := by
  have encoded : Clean inPathSet (encode inPathSet raw) := clean_encode sparesEscapes_path raw
  have slash : ∀ c ∈ encode inPathSet raw, isSlash kind c = false := fun c member =>
    (mem_encode member).elim (fun original => bare c original.1) isSlash_of_isEscape
  have close : ∀ ss : List (List Char), (∀ s ∈ ss, WrittenSegment kind s) →
      (∀ s ∈ (if last then ss ++ [[]] else ss), WrittenSegment kind s) ∧
        (last = true → (if last then ss ++ [[]] else ss) ≠ []) := by
    intro ss all
    cases last with
    | false => exact ⟨all, by simp⟩
    | true =>
        refine ⟨fun s member => ?_, by simp⟩
        rcases List.mem_append.mp member with old | new
        · exact all s old
        · rw [List.mem_singleton.mp new]
          exact writtenSegment_nil
  -- A drive with more after it, `..`, `.`, a drive alone, any other segment.
  simp only [Trail.add]
  split
  · rename_i named
    obtain ⟨file, -, drive, -⟩ := named
    subst file
    refine ⟨fun s member => ?_, by simp⟩
    simp only [List.mem_cons, List.not_mem_nil, or_false] at member
    rcases member with rfl | rfl
    · exact writtenSegment_of_isDrive drive
    · exact ⟨clean_encode sparesEscapes_path _, fun c inside => (mem_encode inside).elim
        (fun original => bare c (List.mem_of_mem_drop original.1)) isSlash_of_isEscape,
        fun other => absurd rfl other⟩
  split
  · exact close _ fun s member => before s (mem_of_mem_parent member)
  split
  · exact close _ before
  rename_i no_double_dot no_dot
  split
  · rename_i named
    obtain ⟨-, -, drive⟩ := named
    refine ⟨fun s member => ?_, by simp⟩
    rw [List.mem_singleton.mp member]
    exact writtenSegment_of_isDrive (isDrive_of_isDriveLike drive)
  · refine ⟨fun s member => ?_, by simp⟩
    rcases List.mem_append.mp member with old | new
    · exact before s old
    · rw [List.mem_singleton.mp new]
      exact ⟨encoded, slash, fun _ => ⟨Bool.eq_false_iff.mpr no_dot, Bool.eq_false_iff.mpr no_double_dot⟩⟩

/-- The segments of a path that is read stand in it, and a query or a fragment may come after. -/
theorem trail_written {fuel : Nat} {t : Trail} {s : List Char} (enough : s.length < fuel)
    (before : ∀ p ∈ t.segments, WrittenSegment kind p) :
    (∀ p ∈ (trail kind fuel t s).1.segments, WrittenSegment kind p) ∧
      (trail kind fuel t s).1.segments ≠ [] ∧ IsTail (trail kind fuel t s).2 := by
  induction fuel generalizing t s with
  | zero => omega
  | succ fuel ih =>
      simp only [trail]
      split
      · rename_i raw ahead
        obtain ⟨-, bare, -⟩ := segmentAhead_spec ahead
        obtain ⟨all, some_segment⟩ := Trail.add_written before bare true
        exact ⟨all, some_segment rfl, by simp [IsTail]⟩
      · rename_i raw c rest ahead
        obtain ⟨whole, bare, stops⟩ := segmentAhead_spec ahead
        split
        · have fewer : rest.length < fuel := by
            rw [whole, List.length_append, List.length_cons] at enough
            omega
          exact ih fewer (Trail.add_written before bare false).1
        · rename_i no_slash
          obtain ⟨all, some_segment⟩ := Trail.add_written before bare true
          refine ⟨all, some_segment rfl, fun d first => ?_⟩
          cases first
          exact (stops c rfl).resolve_left no_slash

theorem mem_of_mem_withoutLeadingEmpty {ss : List (List Char)} {s : List Char}
    (member : s ∈ withoutLeadingEmpty ss) : s ∈ ss := by
  fun_induction withoutLeadingEmpty ss with
  | case1 p ps ih => exact List.mem_cons_of_mem _ (ih member)
  | case2 => exact member

theorem withoutLeadingEmpty_ne_nil {ss : List (List Char)} (some_segment : ss ≠ []) :
    withoutLeadingEmpty ss ≠ [] := by
  fun_induction withoutLeadingEmpty ss with
  | case1 p ps ih => exact ih (by simp)
  | case2 => exact some_segment

theorem withoutLeadingEmpty_withoutLeadingEmpty (ss : List (List Char)) :
    withoutLeadingEmpty (withoutLeadingEmpty ss) = withoutLeadingEmpty ss := by
  fun_induction withoutLeadingEmpty ss with
  | case1 p ps ih => exact ih
  | case2 ss other => exact withoutLeadingEmpty.eq_2 ss other

/-- The segments of a path as they stand in it. -/
structure WrittenSegments (kind : Kind) (ss : List (List Char)) : Prop where
  all : ∀ s ∈ ss, WrittenSegment kind s
  leading : kind = .file → withoutLeadingEmpty ss = ss

/-- Reading a path extends segments by segments, and a query or a fragment may come after. -/
theorem readSegments_written {before : List (List Char)} (held : ∀ s ∈ before, WrittenSegment kind s)
    (s : List Char) :
    WrittenSegments kind (readSegments kind before s).1.segments ∧
      (readSegments kind before s).1.segments ≠ [] ∧ IsTail (readSegments kind before s).2 := by
  obtain ⟨all, some_segment, tail⟩ :=
    trail_written (t := ⟨before, false⟩) (Nat.lt_succ_self s.length) held
  simp only [readSegments]
  split
  · exact ⟨⟨fun s member => all s (mem_of_mem_withoutLeadingEmpty member), fun _ =>
      withoutLeadingEmpty_withoutLeadingEmpty _⟩, withoutLeadingEmpty_ne_nil some_segment, tail⟩
  · rename_i other
    exact ⟨⟨all, fun file => absurd file other⟩, some_segment, tail⟩

/-! ## Reading back -/

/-- A segment that starts with a drive, or is one. -/
def startsDrive (s : List Char) : Bool :=
  isDriveLike s || isDrive (s.take 2)

theorem Trail.add_of_written {t : Trail} {s : List Char} (written : WrittenSegment kind s)
    (dots : isDot s = false ∧ isDoubleDot s = false)
    (drive : kind = .file → t.segments = [] → startsDrive s = false) (last : Bool) :
    t.add kind s last = { t with segments := t.segments ++ [s] } := by
  simp only [Trail.add, encode_of_clean written.clean, dots.1, dots.2, Bool.false_eq_true, ↓reduceIte]
  rw [if_neg, if_neg]
  · rintro ⟨file, first, named⟩
    have no_drive := drive file first
    simp [startsDrive, named] at no_drive
  · rintro ⟨file, first, named, -⟩
    have no_drive := drive file first
    simp [startsDrive, named] at no_drive

/-- Segments are read back from their text. -/
theorem trail_text {ss : List (List Char)} (written : ∀ s ∈ ss, WrittenSegment kind s)
    (dots : ∀ s ∈ ss, isDot s = false ∧ isDoubleDot s = false) {rest : List Char} (tail : IsTail rest)
    {first : List Char} (first_written : WrittenSegment kind first)
    (first_dots : isDot first = false ∧ isDoubleDot first = false) {t : Trail}
    (drive : kind = .file → t.segments = [] → startsDrive first = false) {fuel : Nat}
    (enough : ss.length < fuel) :
    trail kind fuel t (first ++ (Path.segments ss).text ++ rest) =
      ({ t with segments := t.segments ++ first :: ss }, rest) := by
  obtain ⟨fuel, rfl⟩ : ∃ left, fuel = left + 1 := ⟨fuel - 1, by omega⟩
  induction ss generalizing first t fuel with
  | nil =>
      have ahead : segmentAhead kind (first ++ (Path.segments []).text ++ rest) = (first, rest) := by
        have none_after : (Path.segments []).text = [] := rfl
        rw [none_after, List.append_nil]
        exact segmentAhead_append first_written.bare fun c starts => .inr (tail c starts)
      simp only [trail, ahead]
      cases rest with
      | nil => simp only [Trail.add_of_written first_written first_dots drive]
      | cons c rest =>
          have no_slash : isSlash kind c = false := by
            rcases tail c rfl with rfl | rfl <;> cases kind <;> rfl
          simp only [no_slash, Bool.false_eq_true, ↓reduceIte,
            Trail.add_of_written first_written first_dots drive]
  | cons s ss ih =>
      have text : first ++ (Path.segments (s :: ss)).text ++ rest =
          first ++ '/' :: (s ++ (Path.segments ss).text ++ rest) := by
        simp [Path.text]
      have slash : isSlash kind '/' = true := by cases kind <;> rfl
      have stops : ∀ c, ('/' :: (s ++ (Path.segments ss).text ++ rest)).head? = some c →
          isSlash kind c = true ∨ c = '?' ∨ c = '#' := by
        intro c starts
        cases starts
        exact .inl slash
      have ahead := segmentAhead_append first_written.bare stops
      rw [List.length_cons] at enough
      obtain ⟨fuel, rfl⟩ : ∃ left, fuel = left + 1 := ⟨fuel - 1, by omega⟩
      rw [text, trail, ahead]
      simp only [slash, ↓reduceIte, Trail.add_of_written first_written first_dots drive]
      -- Drives are looked for at the start of a path, which isn't empty any more.
      rw [ih (fun p member => written p (List.mem_cons_of_mem s member))
        (fun p member => dots p (List.mem_cons_of_mem s member)) (written s List.mem_cons_self)
        (dots s List.mem_cons_self) (fun _ empty => absurd empty (by simp)) fuel (by omega)]
      simp

theorem length_le_text (ss : List (List Char)) : ss.length ≤ (Path.segments ss).text.length := by
  induction ss with
  | nil => exact Nat.zero_le _
  | cons s ss ih =>
      simp only [Path.text, List.flatMap_cons, List.length_append, List.length_cons] at ih ⊢
      omega

/-- Segments without dot segments, the first of which starts with no drive, are read back after the
slash before the first. -/
theorem readSegments_text {first : List Char} {ss : List (List Char)}
    (written : WrittenSegments kind (first :: ss))
    (dots : ∀ s ∈ first :: ss, isDot s = false ∧ isDoubleDot s = false)
    (drive : kind = .file → startsDrive first = false) {rest : List Char} (tail : IsTail rest) :
    readSegments kind [] (first ++ (Path.segments ss).text ++ rest) = (⟨first :: ss, false⟩, rest) := by
  have enough : ss.length < (first ++ (Path.segments ss).text ++ rest).length + 1 := by
    have long := length_le_text ss
    simp only [List.length_append]
    omega
  have read := trail_text (fun s member => written.all s (List.mem_cons_of_mem first member))
    (fun s member => dots s (List.mem_cons_of_mem first member)) tail
    (written.all first List.mem_cons_self) (dots first List.mem_cons_self) (t := ⟨[], false⟩)
    (fun file _ => drive file) enough
  simp only [readSegments, read, List.nil_append]
  split
  · rename_i file
    rw [written.leading file]
  · rfl

/-- Segments of a file are read back from their text with its leading slash, which names no drive. -/
theorem readSegments_slash_text {first : List Char} {ss : List (List Char)}
    (written : WrittenSegments .file (first :: ss))
    (dots : ∀ s ∈ first :: ss, isDot s = false ∧ isDoubleDot s = false) {rest : List Char}
    (tail : IsTail rest) :
    readSegments .file [] ((Path.segments (first :: ss)).text ++ rest) =
      (⟨first :: ss, false⟩, rest) := by
  have enough : (first :: ss).length < ((Path.segments (first :: ss)).text ++ rest).length + 1 := by
    have long := length_le_text (first :: ss)
    rw [List.length_append]
    omega
  have read := trail_text written.all dots tail writtenSegment_nil ⟨rfl, rfl⟩ (t := ⟨[], false⟩)
    (fun _ _ => rfl) enough
  simp only [List.nil_append] at read
  simp only [readSegments, read, ↓reduceIte, withoutLeadingEmpty, written.leading rfl]

end PageExtract.Url
