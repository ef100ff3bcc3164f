import PageExtract.Url.Segments

/-!
Reading URLs. Main definitions: `Url.read` for a text on its own, `Url.join` for a text relative to
another URL, and `Url.origin?`.
-/

set_option autoImplicit false

namespace PageExtract.Url

def isEnd (kind : Kind) (c : Char) : Bool :=
  isSlash kind c || c == '?' || c == '#'

/-- The text without controls and spaces at its ends and without tabs and line ends anywhere. -/
def cleaned (s : List Char) : List Char :=
  let isEdge : Char → Bool := fun c => c.toNat ≤ 0x20
  (((s.dropWhile isEdge).reverse.dropWhile isEdge).reverse).filter fun c =>
    c != '\t' && c != '\n' && c != '\r'

/-- A scheme in lower case and what comes after its colon. -/
def schemeAhead? : List Char → Option (List Char × List Char)
  | [] => none
  | ':' :: rest => some ([], rest)
  | c :: rest =>
    if c.isAlphanum || c == '+' || c == '-' || c == '.' then
      (schemeAhead? rest).map fun r => (c.toLower :: r.1, r.2)
    else none

def scheme? (s : List Char) : Option (String × List Char) :=
  match s with
  | c :: _ => if c.isAlpha then (schemeAhead? s).map fun r => (String.ofList r.1, r.2) else none
  | [] => none

/-- Sets query and fragment from what comes after the path. -/
def withTail (u : Url) (rest : List Char) : Url :=
  let fragment? : List Char → Option (List Char)
    | '#' :: s => some (encode inFragmentSet s)
    | _ => none
  match rest with
  | '?' :: s =>
    let inSet := if kindOf u.scheme = .other then inQuerySet else inSpecialQuerySet
    { u with query := some (encode inSet (s.takeWhile (· != '#')))
             fragment := fragment? (s.dropWhile (· != '#')) }
  | _ => { u with query := none, fragment := fragment? rest }

/-- The text before the last `@` and the text after it. -/
def cutAt (s : List Char) : Option (List Char × List Char) :=
  if s.contains '@' then
    let after := (s.reverse.takeWhile (· != '@')).reverse
    some (s.take (s.length - after.length - 1), after)
  else none

/-- User and password, and the text from the host on. -/
def userAhead (kind : Kind) (s : List Char) :
    Except Problem (List Char × List Char × List Char) :=
  let before := s.takeWhile fun c => !isEnd kind c
  let rest := s.dropWhile fun c => !isEnd kind c
  match cutAt before with
  | none => .ok ([], [], s)
  | some ([], []) => if rest.isEmpty then .ok ([], [], rest) else .error .emptyHost
  | some (user, after) =>
    .ok (encode inUserinfoSet (user.takeWhile (· != ':')),
      encode inUserinfoSet ((user.dropWhile (· != ':')).drop 1), after ++ rest)

/-- The text of the host, up to a colon outside brackets or the end of the authority. -/
def hostAhead (kind : Kind) : Bool → List Char → List Char × List Char
  | _, [] => ([], [])
  | inBrackets, c :: rest =>
    if (c == ':' && !inBrackets) || isEnd kind c then ([], c :: rest)
    else
      let inBrackets := if c == '[' then true else if c == ']' then false else inBrackets
      (hostAhead kind inBrackets rest).map (c :: ·) id

/-- The digits of a port, at most 65535, up to the end of the authority. -/
def portAhead : Option Nat → List Char → Except Problem (Option Nat × List Char)
  | port, [] => .ok (port, [])
  | port, c :: rest =>
    if c.isDigit then
      let n := port.getD 0 * 10 + (c.toNat - '0'.toNat)
      if 65535 < n then .error .port else portAhead (some n) rest
    else if c == '/' || c == '\\' || c == '?' || c == '#' then .ok (port, c :: rest)
    else .error .port

def portAfter (scheme : String) (rest : List Char) : Except Problem (Option Nat × List Char) :=
  match rest with
  | ':' :: s => (portAhead none s).map fun r => (if r.1 = defaultPort? scheme then none else r.1, r.2)
  | _ => .ok (none, rest)

/-- Host and port, and what comes after them. -/
def placeAhead (scheme : String) (s : List Char) :
    Except Problem (Host × Option Nat × List Char) :=
  let kind := kindOf scheme
  let (text, rest) := hostAhead kind false s
  if kind = .server ∧ text.isEmpty then .error .emptyHost
  else match if kind = .other then Host.readOpaque text else Host.read text with
    | .error p => .error p
    | .ok host =>
      if host = .name [] ∧ rest.head? = some ':' then .error .emptyHost
      else match portAfter scheme rest with
        | .error p => .error p
        | .ok (port, rest) => .ok (host, port, rest)

/-- The path after an authority. -/
def pathAfter (kind : Kind) (s : List Char) : List (List Char) × List Char :=
  match s with
  | [] => (if kind = .other then [] else [[]], [])
  | c :: rest =>
    if isSlash kind c then (readSegments kind [] rest).map Trail.segments id
    else if kind = .other ∧ (c = '?' ∨ c = '#') then ([], s)
    else (readSegments kind [] s).map Trail.segments id

/-- A URL from its authority on. -/
def afterSlashes (scheme : String) (s : List Char) : Except Problem Url :=
  match userAhead (kindOf scheme) s with
  | .error p => .error p
  | .ok (user, password, rest) =>
    match placeAhead scheme rest with
    | .error p => .error p
    | .ok (host, port, rest) =>
      if host = .name [] ∧ ¬(user.isEmpty ∧ password.isEmpty) then .error .emptyHost
      else
        let (segments, rest) := pathAfter (kindOf scheme) rest
        .ok (withTail ⟨scheme, some ⟨user, password, host, port⟩, .segments segments, none, none⟩ rest)

/-- Replaces query and fragment by what comes after an unchanged path. -/
def onlyTail (base : Url) (s : List Char) : Url :=
  match s with
  | '#' :: rest => { base with fragment := some (encode inFragmentSet rest) }
  | '?' :: _ => withTail base s
  | _ => { base with fragment := none }

/-- The segments that a relative path is appended to. -/
def folder (base : Url) : List (List Char) :=
  match base.path with
  | .unstructured _ => []
  | .segments ss =>
    match ss.getLast? with
    | some s => if kindOf base.scheme = .file ∧ isDrive s then ss else ss.dropLast
    | none => []

/-- A URL with the authority of `base`, its path read after the segments `before`. -/
def withSegments (base : Url) (before : List (List Char)) (s : List Char) : Url :=
  let (t, rest) := readSegments (kindOf base.scheme) before s
  withTail { base with path := .segments t.segments } rest

def afterRelative (base : Url) (s : List Char) : Except Problem Url :=
  let slash : Char → Bool := fun c => c == '/' || c == '\\'
  match s with
  | [] => .ok (onlyTail base s)
  | '/' :: '/' :: rest => afterSlashes base.scheme rest
  | c :: rest =>
    if slash c then
      if (rest.headD ' ').toNat == 0x2F || (rest.headD ' ') == '\\' then
        afterSlashes base.scheme (rest.dropWhile slash)
      else .ok (withSegments base [] rest)
    else if c == '?' || c == '#' then .ok (onlyTail base s)
    else .ok (withSegments base (folder base) s)

def nowhere : Authority :=
  ⟨[], [], .name [], none⟩

/-- A URL of a file from its host on; a path that names a drive has no host. -/
def fileAfterSlashes (s : List Char) : Except Problem Url :=
  let file (host : Host) (t : Trail) (rest : List Char) : Url :=
    withTail ⟨"file", some { nowhere with host := if t.drive then .name [] else host },
      .segments t.segments, none, none⟩ rest
  let text := s.takeWhile fun c => !isEnd .file c
  let rest := s.dropWhile fun c => !isEnd .file c
  if isDriveLike text ∨ text.isEmpty then
    let (t, rest) := readSegments .file [] s
    .ok (file (.name []) t rest)
  else match Host.read text with
    | .error p => .error p
    | .ok host =>
      if host = .name ("localhost".toList) then
        let (t, rest) := readSegments .file [] rest
        .ok (file (.name []) t rest)
      else
        let (t, rest) := readSegments .file [] (match rest with
          | c :: tail => if isSlash .file c then tail else rest
          | [] => [])
        .ok (file host t rest)

/-- What a path of a file that begins with one slash keeps of the base: its drive or its host. -/
def fileRoot (base : Option Url) (s : List Char) : Authority × List (List Char) :=
  if startsWithDrive s then (nowhere, [])
  else match base with
    | none => (nowhere, [])
    | some b =>
      let first := match b.path with
        | .segments (f :: _) => f
        | _ => []
      if isDrive first then (nowhere, [first])
      else (⟨[], [], (b.host?).getD (.name []), none⟩, [])

/-- A URL of a file after its scheme. -/
def afterFile (base : Option Url) (s : List Char) : Except Problem Url :=
  let fresh : Url := ⟨"file", some nowhere, .segments [], none, none⟩
  let plain : Except Problem Url :=
    match base with
    | none => .ok (withSegments fresh [] s)
    | some b =>
      match s with
      | [] => .ok (onlyTail b s)
      | c :: _ =>
        if c == '?' || c == '#' then .ok (onlyTail b s)
        else if startsWithDrive s then .ok (withSegments fresh [] s)
        else .ok (withSegments b (folder b) s)
  match s with
  | [] => plain
  | c :: rest =>
    if !isSlash .file c then plain
    else match rest with
      | d :: tail =>
        if isSlash .file d then fileAfterSlashes tail
        else
          let (authority, before) := fileRoot base rest
          .ok (withSegments { fresh with authority := some authority } before rest)
      | [] =>
        let (authority, before) := fileRoot base rest
        .ok (withSegments { fresh with authority := some authority } before rest)

/-- A URL after a scheme that names neither files nor a server. -/
def afterOther (scheme : String) (s : List Char) : Except Problem Url :=
  match s with
  | '/' :: '/' :: rest => afterSlashes scheme rest
  | '/' :: rest => .ok (withSegments ⟨scheme, none, .segments [], none, none⟩ [] rest)
  | _ =>
    let inPath : Char → Bool := fun c => c != '?' && c != '#'
    .ok (withTail ⟨scheme, none, .unstructured (encode isControl (s.takeWhile inPath)), none, none⟩
      (s.dropWhile inPath))

def afterScheme (base : Option Url) (scheme : String) (s : List Char) : Except Problem Url :=
  match kindOf scheme with
  | .file => afterFile (base.filter (·.scheme == "file")) s
  | .other => afterOther scheme s
  | .server =>
    let slash : Char → Bool := fun c => c == '/' || c == '\\'
    match base with
    | some b =>
      if (s.takeWhile slash).length < 2 ∧ b.scheme = scheme then afterRelative b s
      else afterSlashes scheme (s.dropWhile slash)
    | none => afterSlashes scheme (s.dropWhile slash)

/-- Reads a text on its own, or relative to `base`. -/
def readWith (base : Option Url) (text : List Char) : Except Problem Url :=
  let s := cleaned text
  match scheme? s with
  | some (scheme, rest) => afterScheme base scheme rest
  | none =>
    match base with
    | none => .error .relativeWithoutBase
    | some b =>
      if s.head? = some '#' then .ok (onlyTail b s)
      else match b.path with
        | .unstructured _ => .error .relativeToOpaque
        | .segments _ => if kindOf b.scheme = .file then afterFile (some b) s else afterRelative b s

def read (s : String) : Except Problem Url :=
  readWith none s.toList

/-- Reads a text relative to a URL. -/
def join (base : Url) (s : String) : Except Problem Url :=
  readWith (some base) s.toList

/-- Scheme, host and port, for the schemes of servers; `blob:` URLs have the origin of their path. -/
def originOf : Nat → Url → Option (List Char)
  | fuel, u =>
    match kindOf u.scheme, u.authority with
    | .server, some a => some (u.scheme.toList ++ [':', '/', '/'] ++ a.place)
    | _, _ =>
      match fuel with
      | 0 => none
      | fuel + 1 =>
        if u.scheme = "blob" then
          match readWith none u.path.text with
          | .ok inner => originOf fuel inner
          | .error _ => none
        else none

def origin? (u : Url) : Option (List Char) :=
  originOf u.path.text.length u

end PageExtract.Url
