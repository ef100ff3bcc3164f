import PageExtract.Url.Basic

/-!
Paths of segments. A segment `.` is dropped, `..` drops itself and the segment before it; in paths
of files a first segment such as `C:` names a drive, which is never dropped.
-/

set_option autoImplicit false

namespace PageExtract.Url

def isSlash (kind : Kind) (c : Char) : Bool :=
  c == '/' || (c == '\\' && kind != .other)

/-- A letter and a colon. -/
def isDrive (s : List Char) : Bool :=
  match s with
  | [a, ':'] => a.isAlpha
  | _ => false

/-- A letter and a colon or a bar. -/
def isDriveLike (s : List Char) : Bool :=
  match s with
  | [a, b] => a.isAlpha && (b == ':' || b == '|')
  | _ => false

/-- Starts with a drive that ends the text or has one of the characters that end a segment after it. -/
def startsWithDrive (s : List Char) : Bool :=
  isDriveLike (s.take 2) &&
  (match s.drop 2 with
    | [] => true
    | c :: _ => c == '/' || c == '\\' || c == '?' || c == '#')

def isDot (s : List Char) : Bool :=
  s == ['.'] || s.map Char.toLower == ['%', '2', 'e']

def isDoubleDot (s : List Char) : Bool :=
  match s with
  | '.' :: rest => isDot rest
  | '%' :: a :: b :: rest => isDot ['%', a, b] && isDot rest
  | _ => false

/-- Without the last segment, unless that names a drive. -/
def parent (ss : List (List Char)) : List (List Char) :=
  match ss.getLast? with
  | some s => if startsWithDrive s then ss else ss.dropLast
  | none => []

/-- The raw text up to the end of the segment, and what follows it. -/
def segmentAhead (kind : Kind) : List Char → List Char × List Char
  | [] => ([], [])
  | c :: rest =>
    if isSlash kind c || c == '?' || c == '#' then ([], c :: rest)
    else ((segmentAhead kind rest).map (c :: ·) id)

/-- Segments read so far, and whether a drive was named. -/
structure Trail where
  segments : List (List Char)
  drive : Bool

/-- Adds a segment; a dot segment adds nothing unless it is the last. -/
def Trail.add (kind : Kind) (t : Trail) (raw : List Char) (last : Bool) : Trail :=
  let segment := encode inPathSet raw
  let close (ss : List (List Char)) : List (List Char) := if last then ss ++ [[]] else ss
  if kind = .file ∧ t.segments = [] ∧ isDrive (raw.take 2) ∧ 2 < raw.length then
    { t with segments := [raw.take 2, encode inPathSet (raw.drop 2)] }
  else if isDoubleDot segment then { t with segments := close (parent t.segments) }
  else if isDot segment then { t with segments := close t.segments }
  else if kind = .file ∧ t.segments = [] ∧ isDriveLike segment then
    ⟨[segment.take 1 ++ [':']], true⟩
  else { t with segments := t.segments ++ [segment] }

/-- Reads segments up to the query, the fragment or the end. -/
def trail (kind : Kind) : Nat → Trail → List Char → Trail × List Char
  | 0, t, s => (t, s)
  | fuel + 1, t, s =>
    match segmentAhead kind s with
    | (raw, []) => (t.add kind raw true, [])
    | (raw, c :: rest) =>
      if isSlash kind c then trail kind fuel (t.add kind raw false) rest
      else (t.add kind raw true, c :: rest)

/-- Drops empty segments from the front of a path of a file. -/
def withoutLeadingEmpty : List (List Char) → List (List Char)
  | [] :: s :: ss => withoutLeadingEmpty (s :: ss)
  | ss => ss

/-- Extends segments by those of a text that doesn't begin with their slash. -/
def readSegments (kind : Kind) (before : List (List Char)) (s : List Char) : Trail × List Char :=
  let (t, rest) := trail kind (s.length + 1) ⟨before, false⟩ s
  if kind = .file then ({ t with segments := withoutLeadingEmpty t.segments }, rest) else (t, rest)

end PageExtract.Url
