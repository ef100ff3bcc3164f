import PageExtract.Html.CharacterReference

/-!
Tokens of a markup text. `Token.read` takes the next token from the text that is left, by the rules
of the content it is in.
-/

set_option autoImplicit false

namespace PageExtract.Html

structure Tag where
  name : String
  attributes : List (String × String)
  selfClosing : Bool
  deriving DecidableEq, Repr, Inhabited

structure Doctype where
  name : Option String
  publicId : Option String
  systemId : Option String
  /-- Whether it ends before its time or holds what it shouldn't. -/
  isMalformed : Bool
  deriving DecidableEq, Repr, Inhabited

inductive Token where
  | doctype (d : Doctype)
  | startTag (t : Tag)
  | endTag (t : Tag)
  | comment (text : String)
  | text (s : List Char)
  | eof
  deriving DecidableEq, Repr, Inhabited

/-- How text is to be read: as markup, or up to the end tag with the given name. -/
inductive TextMode where
  | markup
  | withReferences (endName : List Char)
  | raw (endName : List Char)
  | script
  | plain
  deriving DecidableEq, Repr, Inhabited

namespace Lexeme

/-- The blanks of markup. -/
def isSpace (c : Char) : Bool :=
  c == ' ' || c == '\t' || c == '\n' || c == '\x0c' || c == '\r'

def noNull (c : Char) : Char := if c = '\x00' then '\uFFFD' else c

def lower (cs : List Char) : List Char := cs.map Char.toLower

def ofChars (cs : List Char) : String := String.ofList cs

/-- Attributes read so far, the last one first; a name that is there already keeps its value. -/
abbrev Attributes := List (String × String)

def addAttribute (attributes : Attributes) (name value : List Char) : Attributes :=
  let name := ofChars name
  if attributes.any fun a => a.1 == name then attributes else (name, ofChars value) :: attributes

/-- The value of an attribute, after the equals sign. `none` if the text ends in it. -/
def attributeValue? (s : List Char) : Option (List Char × List Char) :=
  let quotedBy (q : Char) (rest : List Char) : Option (List Char × List Char) :=
    match decodeUntil true (· == q) (rest.length + 1) [] rest with
    | (value, _ :: rest) => some (value.map noNull, rest)
    | (_, []) => none
  match s.dropWhile isSpace with
  | '"' :: rest => quotedBy '"' rest
  | '\'' :: rest => quotedBy '\'' rest
  | '>' :: rest => some ([], '>' :: rest)
  | rest =>
    match decodeUntil true (fun c => isSpace c || c == '>') (rest.length + 1) [] rest with
    | (_, []) => none
    | (value, rest) => some (value.map noNull, rest)

/-- Attributes of a tag up to its end: the attributes, whether a slash closes the tag, the rest. -/
def attributesFrom : Nat → Attributes → List Char → Option (Attributes × Bool × List Char)
  | 0, _, _ => none
  | fuel + 1, acc, s =>
    match s.dropWhile isSpace with
    | [] => none
    | '>' :: rest => some (acc.reverse, false, rest)
    | '/' :: '>' :: rest => some (acc.reverse, true, rest)
    | '/' :: rest => attributesFrom fuel acc rest
    | c :: rest =>
      -- The first character belongs to the name whatever it is.
      let (name, rest) := rest.span fun d => !(isSpace d || d == '/' || d == '=' || d == '>')
      let name := lower ((c :: name).map noNull)
      match rest.dropWhile isSpace with
      | '=' :: rest =>
        match attributeValue? rest with
        | none => none
        | some (value, rest) => attributesFrom fuel (addAttribute acc name value) rest
      | rest => attributesFrom fuel (addAttribute acc name []) rest

/-- A tag, at its name. -/
def tag? (s : List Char) : Option (Tag × List Char) :=
  let (name, rest) := s.span fun c => !(isSpace c || c == '/' || c == '>')
  (attributesFrom (rest.length + 1) [] rest).map fun (attributes, closing, rest) =>
    (⟨ofChars (lower (name.map noNull)), attributes, closing⟩, rest)

/-- A comment up to `-->` or `--!>`; an unfinished one loses what may have begun its end. -/
def commentText : List Char → List Char → List Char × List Char
  | acc, [] =>
    (match acc with
      | '!' :: '-' :: '-' :: acc => acc.reverse
      | '-' :: '-' :: acc => acc.reverse
      | '-' :: acc => acc.reverse
      | acc => acc.reverse, [])
  | acc, c :: rest =>
    match c, rest with
    | '-', '-' :: '>' :: rest => (acc.reverse, rest)
    | '-', '-' :: '!' :: '>' :: rest => (acc.reverse, rest)
    | c, rest => commentText (c :: acc) rest

def comment (s : List Char) : Token × List Char :=
  match s with
  | '>' :: rest => (.comment "", rest)
  | '-' :: '>' :: rest => (.comment "", rest)
  | s =>
    let (text, rest) := commentText [] s
    (.comment (ofChars (text.map noNull)), rest)

/-- What isn't a comment but read as one, up to the next `>`. -/
def bogusComment (s : List Char) : Token × List Char :=
  let (text, rest) := s.span (· != '>')
  (.comment (ofChars (text.map noNull)), rest.drop 1)

/-- A quoted identifier of a doctype: its text, whether its quote was found, the rest. -/
def identifier (quote : Char) (s : List Char) : List Char × Bool × List Char :=
  let (text, rest) := s.span fun c => c != quote && c != '>'
  match rest with
  | c :: rest => if c = quote then (text.map noNull, true, rest) else (text.map noNull, false, c :: rest)
  | [] => (text.map noNull, false, [])

def isQuote (c : Char) : Bool := c == '"' || c == '\''

/-- After the identifiers of a doctype: what is left before `>` is dropped. -/
def doctypeEnd (d : Doctype) (s : List Char) : Token × List Char :=
  match s.dropWhile isSpace with
  | '>' :: rest => (.doctype d, rest)
  | [] => (.doctype { d with isMalformed := true }, [])
  | rest => (.doctype d, (rest.dropWhile (· != '>')).drop 1)

def doctypeBogus (d : Doctype) (s : List Char) : Token × List Char :=
  (.doctype { d with isMalformed := true }, (s.dropWhile (· != '>')).drop 1)

def doctypeSystem (d : Doctype) (quote : Char) (s : List Char) : Token × List Char :=
  let (text, closed, rest) := identifier quote s
  let d := { d with systemId := some (ofChars text) }
  if closed then doctypeEnd d rest else doctypeBogus d rest

def doctypePublic (d : Doctype) (quote : Char) (s : List Char) : Token × List Char :=
  let (text, closed, rest) := identifier quote s
  let d := { d with publicId := some (ofChars text) }
  if closed then
    match rest.dropWhile isSpace with
    | '>' :: rest => (.doctype d, rest)
    | c :: rest => if isQuote c then doctypeSystem d c rest else doctypeBogus d (c :: rest)
    | [] => (.doctype { d with isMalformed := true }, [])
  else doctypeBogus d rest

def startsWithFolded (word s : List Char) : Bool :=
  lower (s.take word.length) == word

/-- A doctype, after its keyword. -/
def doctype (s : List Char) : Token × List Char :=
  let none : Doctype := ⟨.none, .none, .none, false⟩
  match s.dropWhile isSpace with
  | [] => (.doctype { none with isMalformed := true }, [])
  | '>' :: rest => (.doctype { none with isMalformed := true }, rest)
  | s =>
    let (name, rest) := s.span fun c => !(isSpace c || c == '>')
    let d := { none with name := some (ofChars (lower (name.map noNull))) }
    match rest.dropWhile isSpace with
    | [] => (.doctype { d with isMalformed := true }, [])
    | '>' :: rest => (.doctype d, rest)
    | rest =>
      let afterKeyword := (rest.drop 6).dropWhile isSpace
      if startsWithFolded ['p', 'u', 'b', 'l', 'i', 'c'] rest then
        match afterKeyword with
        | c :: rest => if isQuote c then doctypePublic d c rest else doctypeBogus d (c :: rest)
        | [] => doctypeBogus d []
      else if startsWithFolded ['s', 'y', 's', 't', 'e', 'm'] rest then
        match afterKeyword with
        | c :: rest => if isQuote c then doctypeSystem d c rest else doctypeBogus d (c :: rest)
        | [] => doctypeBogus d []
      else doctypeBogus d rest

/-- A section of plain characters up to `]]>`. -/
def sectionText : List Char → List Char → List Char × List Char
  | acc, [] => (acc.reverse, [])
  | acc, c :: rest =>
    match c, rest with
    | ']', ']' :: '>' :: rest => (acc.reverse, rest)
    | c, rest => sectionText (c :: acc) rest

/-- Declarations, after `<!`. -/
def declaration (foreign : Bool) (s : List Char) : Token × List Char :=
  match s with
  | '-' :: '-' :: rest => comment rest
  | s =>
    if startsWithFolded ['d', 'o', 'c', 't', 'y', 'p', 'e'] s then doctype (s.drop 7)
    else if foreign && s.take 7 == ['[', 'C', 'D', 'A', 'T', 'A', '['] then
      let (text, rest) := sectionText [] (s.drop 7)
      (.text text, rest)
    else bogusComment s

/-- Markup, at its opening `<`. -/
def markup (foreign : Bool) (rest : List Char) : Token × List Char :=
  match rest with
  | '!' :: rest => declaration foreign rest
  | '/' :: after =>
    match after with
    | [] => (.text ['<', '/'], [])
    | '>' :: rest => (.text [], rest)
    | c :: _ =>
      if c.isAlpha then
        match tag? after with
        | some (t, rest) => (.endTag t, rest)
        | none => (.eof, [])
      else bogusComment after
  | '?' :: _ => bogusComment rest
  | c :: _ =>
    if c.isAlpha then
      match tag? rest with
      | some (t, rest) => (.startTag t, rest)
      | none => (.eof, [])
    else (.text ['<'], rest)
  | [] => (.text ['<'], [])

/-- The text starts with a slash and the name of the element, and the name ends there. -/
def closes (name s : List Char) : Bool :=
  match s with
  | '/' :: rest =>
    startsWithFolded name rest &&
    (match rest.drop name.length with
      | c :: _ => isSpace c || c == '/' || c == '>'
      | [] => false)
  | _ => false

/-- Raw text up to the `<` of the end tag. -/
def rawText (name : List Char) : List Char → List Char → List Char × List Char
  | acc, [] => (acc.reverse, [])
  | acc, c :: rest =>
    if c = '<' ∧ closes name rest then (acc.reverse, c :: rest) else rawText name (noNull c :: acc) rest

/-- Inside of a script: plain, in a comment, or in a script tag in a comment. -/
inductive ScriptState where
  | plain | escaped | doublyEscaped
  deriving DecidableEq, Repr

def scriptName : List Char := ['s', 'c', 'r', 'i', 'p', 't']

/-- The name `script`, ended by a blank, a slash or `>`. -/
def opensScript (s : List Char) : Bool :=
  closes scriptName ('/' :: s)

/-- Script text up to the `<` of the end tag; `dashes` counts the dashes just passed. -/
def scriptText : ScriptState → Nat → List Char → List Char → List Char × List Char
  | _, _, acc, [] => (acc.reverse, [])
  | state, dashes, acc, c :: rest =>
    let on (state : ScriptState) (dashes : Nat) :=
      scriptText state dashes (noNull c :: acc) rest
    match state with
    | .plain =>
      if c = '<' then
        if closes scriptName rest then (acc.reverse, c :: rest)
        else if rest.take 3 = ['!', '-', '-'] then on .escaped 0
        else on .plain 0
      else on .plain 0
    | .escaped =>
      if c = '-' then on .escaped (dashes + 1)
      else if c = '>' ∧ 2 ≤ dashes then on .plain 0
      else if c = '<' then
        if closes scriptName rest then (acc.reverse, c :: rest)
        else if opensScript rest then on .doublyEscaped 0
        else on .escaped 0
      else on .escaped 0
    | .doublyEscaped =>
      if c = '-' then on .doublyEscaped (dashes + 1)
      else if c = '>' ∧ 2 ≤ dashes then on .plain 0
      else if c = '<' ∧ closes scriptName rest then on .escaped 0
      else on .doublyEscaped 0

/-- The end tag of raw text, at its `<`. -/
def closingTag (rest : List Char) : Token × List Char :=
  match tag? (rest.drop 1) with
  | some (t, rest) => (.endTag t, rest)
  | none => (.eof, [])

/-- Text up to the next markup, or else the markup. -/
def markupOrText (foreign : Bool) (s : List Char) : Token × List Char :=
  match s with
  | [] => (.eof, [])
  | '<' :: rest => markup foreign rest
  | s =>
    let (text, rest) := decodeUntil false (· == '<') (s.length + 1) [] s
    (.text text, rest)

/-- Text with references up to the `<` of the end tag. -/
def referenceText (name : List Char) : Nat → List Char → List Char → List Char × List Char
  | 0, acc, s => (acc.reverse, s)
  | _, acc, [] => (acc.reverse, [])
  | fuel + 1, acc, c :: rest =>
    if c = '<' ∧ closes name rest then (acc.reverse, c :: rest)
    else if c = '&' then
      match reference? false rest with
      | some (cs, rest) => referenceText name fuel (cs.reverse ++ acc) rest
      | none => referenceText name fuel ('&' :: acc) rest
    else referenceText name fuel (noNull c :: acc) rest

/-- Text before an end tag, the end tag itself, or the end of the text. -/
def elementText (name : List Char) (read : List Char → List Char × List Char) (s : List Char) :
    Token × List Char :=
  match s with
  | [] => (.eof, [])
  | c :: rest =>
    if c = '<' ∧ closes name rest then closingTag rest
    else
      let (text, rest) := read s
      (.text text, rest)

end Lexeme

open Lexeme in
/-- The next token. `foreign` allows sections of plain characters. -/
def Token.read (mode : TextMode) (foreign : Bool) (s : List Char) : Token × List Char :=
  match mode with
  | .markup => markupOrText foreign s
  | .withReferences name => elementText name (referenceText name (s.length + 1) []) s
  | .raw name => elementText name (rawText name []) s
  | .script => elementText scriptName (scriptText .plain 0 []) s
  | .plain =>
    match s with
    | [] => (.eof, [])
    | s => (.text (s.map noNull), [])

end PageExtract.Html
