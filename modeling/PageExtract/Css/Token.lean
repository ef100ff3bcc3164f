import PageExtract.Json.Shortest

/-!
Tokens of style sheets, with the content of functions and brackets nested in them. Comments are
left out.
-/

set_option autoImplicit false

namespace PageExtract.Css

inductive Bracket where
  | round | square | curly
  deriving DecidableEq, Repr

/-- A number as it was written: its sign, whether it has one, and `digits * 10 ^ exponent`. -/
structure Numeral where
  signed : Bool
  negative : Bool
  digits : Nat
  exponent : Int
  isWhole : Bool
  deriving DecidableEq, Repr

inductive Token where
  | ident (s : String)
  | atKeyword (s : String)
  | hash (s : String)
  | idHash (s : String)
  | string (s : String)
  | badString (s : String)
  | url (s : String)
  | badUrl (s : String)
  | delim (c : Char)
  | number (n : Numeral)
  | percentage (n : Numeral)
  | dimension (n : Numeral) (unit : String)
  | blank
  | colon | semicolon | comma
  | includeMatch | dashMatch | prefixMatch | suffixMatch | substringMatch
  | cdo | cdc
  | function (name : String) (content : List Token)
  | block (b : Bracket) (content : List Token)
  | close (b : Bracket)
  deriving Inhabited

/-- A token as it stands in the text, brackets not yet matched. -/
inductive Piece where
  | token (t : Token)
  | function (name : String)
  | opening (b : Bracket)

namespace Lexer

def isBlank (c : Char) : Bool :=
  c == ' ' || c == '\t' || c == '\n' || c == '\r' || c == '\x0c'

def isLineEnd (c : Char) : Bool :=
  c == '\n' || c == '\r' || c == '\x0c'

def isNameStart (c : Char) : Bool :=
  c.isAlpha || c == '_' || c == '\x00' || 0x7F < c.toNat

def isNameChar (c : Char) : Bool :=
  isNameStart c || c.isDigit || c == '-'

/-- A backslash starts an escape unless a line end follows. -/
def isEscape : List Char → Bool
  | '\\' :: c :: _ => !isLineEnd c
  | ['\\'] => true
  | _ => false

def startsIdent (s : List Char) : Bool :=
  match s with
  | '-' :: rest =>
    (match rest with
      | c :: _ => isNameStart c || c == '-'
      | [] => false) || (rest != [] && isEscape rest)
  | c :: _ => isNameStart c || isEscape s
  | [] => false

def isHexDigit (c : Char) : Bool :=
  c.isDigit || ('a' ≤ c && c ≤ 'f') || ('A' ≤ c && c ≤ 'F')

def hexValue (cs : List Char) : Nat :=
  cs.foldl (fun acc c =>
    acc * 16 + (if c.isDigit then c.toNat - '0'.toNat
      else if 'a' ≤ c then c.toNat - 'a'.toNat + 10
      else c.toNat - 'A'.toNat + 10)) 0

/-- One blank may end a hexadecimal escape. -/
def dropBlank : List Char → List Char
  | '\r' :: '\n' :: rest => rest
  | c :: rest => if isBlank c then rest else c :: rest
  | [] => []

/-- An escaped character, after its backslash. -/
def escaped (s : List Char) : Char × List Char :=
  match s with
  | [] => ('\uFFFD', [])
  | c :: rest =>
    if isHexDigit c then
      let digits := (s.take 6).takeWhile isHexDigit
      let n := hexValue digits
      let x :=
        if n = 0 ∨ (0xD800 ≤ n ∧ n ≤ 0xDFFF) ∨ 0x10FFFF < n then '\uFFFD' else Char.ofNat n
      (x, dropBlank (s.drop digits.length))
    else if c = '\x00' then ('\uFFFD', rest)
    else (c, rest)

def name : Nat → List Char → List Char → List Char × List Char
  | 0, acc, s => (acc.reverse, s)
  | _, acc, [] => (acc.reverse, [])
  | fuel + 1, acc, c :: rest =>
    if c = '\x00' then name fuel ('\uFFFD' :: acc) rest
    else if isNameChar c then name fuel (c :: acc) rest
    else if isEscape (c :: rest) then
      let (x, rest) := escaped rest
      name fuel (x :: acc) rest
    else (acc.reverse, c :: rest)

def nameOf (s : List Char) : String × List Char :=
  let (cs, rest) := name (s.length + 1) [] s
  (String.ofList cs, rest)

/-- A quoted text after its opening quote. A line end breaks it. -/
def quotedText (q : Char) : Nat → List Char → List Char → Token × List Char
  | 0, acc, s => (.string (String.ofList acc.reverse), s)
  | _, acc, [] => (.string (String.ofList acc.reverse), [])
  | fuel + 1, acc, c :: rest =>
    if c = q then (.string (String.ofList acc.reverse), rest)
    else if isLineEnd c then (.badString (String.ofList acc.reverse), c :: rest)
    else if c = '\\' then
      match rest with
      | [] => (.string (String.ofList acc.reverse), [])
      | '\r' :: '\n' :: rest => quotedText q fuel acc rest
      | d :: after =>
        if isLineEnd d then quotedText q fuel acc after
        else
          let (x, rest) := escaped rest
          quotedText q fuel (x :: acc) rest
    else quotedText q fuel ((if c = '\x00' then '\uFFFD' else c) :: acc) rest

def startsNumber (s : List Char) : Bool :=
  let digits (s : List Char) : Bool :=
    match s with
    | '.' :: d :: _ => d.isDigit
    | d :: _ => d.isDigit
    | [] => false
  match s with
  | '+' :: rest => digits rest
  | '-' :: rest => digits rest
  | s => digits s

def decimal (cs : List Char) : Nat :=
  cs.foldl (fun acc c => acc * 10 + (c.toNat - '0'.toNat)) 0

def numeral (s : List Char) : Numeral × List Char :=
  let (signed, negative, s) := match s with
    | '+' :: rest => (true, false, rest)
    | '-' :: rest => (true, true, rest)
    | s => (false, false, s)
  let (whole, s) := s.span Char.isDigit
  let (fraction, s) := match s with
    | '.' :: d :: rest => if d.isDigit then (d :: rest).span Char.isDigit else ([], s)
    | s => ([], s)
  let exponentOf (down : Bool) (s : List Char) : Int × List Char :=
    let (digits, rest) := s.span Char.isDigit
    (if down then -(decimal digits : Int) else decimal digits, rest)
  let (exponent, hasExponent, s) := match s with
    | e :: sign :: d :: rest =>
      if (e == 'e' || e == 'E') && (sign == '+' || sign == '-') && d.isDigit then
        let (x, rest) := exponentOf (sign == '-') (d :: rest)
        (x, true, rest)
      else if (e == 'e' || e == 'E') && sign.isDigit then
        let (x, rest) := exponentOf false (sign :: d :: rest)
        (x, true, rest)
      else (0, false, s)
    | [e, d] =>
      if (e == 'e' || e == 'E') && d.isDigit then ((decimal [d] : Int), true, []) else (0, false, s)
    | s => (0, false, s)
  ({ signed := signed
     negative := negative
     digits := decimal (whole ++ fraction)
     exponent := exponent - fraction.length
     isWhole := fraction.isEmpty && !hasExponent }, s)

def numeric (s : List Char) : Token × List Char :=
  let (n, rest) := numeral s
  match rest with
  | '%' :: rest => (.percentage n, rest)
  | rest =>
    if startsIdent rest then
      let (unit, rest) := nameOf rest
      (.dimension n unit, rest)
    else (.number n, rest)

def comment : List Char → List Char
  | [] => []
  | c :: rest =>
    match c, rest with
    | '*', '/' :: rest => rest
    | _, rest => comment rest

/-- What is left of a broken address up to its closing parenthesis. -/
def brokenUrl : Nat → List Char → List Char → Token × List Char
  | 0, acc, s => (.badUrl (String.ofList acc.reverse), s)
  | _, acc, [] => (.badUrl (String.ofList acc.reverse), [])
  | fuel + 1, acc, c :: rest =>
    if c = ')' then (.badUrl (String.ofList acc.reverse), rest)
    else match c, rest with
      | '\\', d :: rest =>
        if d = ')' ∨ d = '\\' then brokenUrl fuel (d :: '\\' :: acc) rest
        else brokenUrl fuel ('\\' :: acc) (d :: rest)
      | c, rest => brokenUrl fuel (c :: acc) rest

/-- An address without quotes. -/
def plainUrl : Nat → List Char → List Char → Token × List Char
  | 0, acc, s => (.url (String.ofList acc.reverse), s)
  | _, acc, [] => (.url (String.ofList acc.reverse), [])
  | fuel + 1, acc, c :: rest =>
    if c = ')' then (.url (String.ofList acc.reverse), rest)
    else if isBlank c then
      match rest.dropWhile isBlank with
      | [] => (.url (String.ofList acc.reverse), [])
      | ')' :: rest => (.url (String.ofList acc.reverse), rest)
      | _ => brokenUrl fuel (c :: acc) rest
    else if c = '"' ∨ c = '\'' ∨ c = '(' ∨ (0 < c.toNat ∧ c.toNat < 0x20) ∨ c = '\x7f' then
      brokenUrl fuel (c :: acc) rest
    else if c = '\\' then
      if isEscape (c :: rest) then
        let (x, rest) := escaped rest
        plainUrl fuel (x :: acc) rest
      else brokenUrl fuel (c :: acc) rest
    else plainUrl fuel ((if c = '\x00' then '\uFFFD' else c) :: acc) rest

def identLike (s : List Char) : Piece × List Char :=
  let (n, rest) := nameOf s
  match rest with
  | '(' :: rest =>
    if String.ofList (n.toList.map Char.toLower) == "url" then
      match rest.dropWhile isBlank with
      | '"' :: _ => (.function n, rest)
      | '\'' :: _ => (.function n, rest)
      | inner =>
        let (t, rest) := plainUrl (inner.length + 1) [] inner
        (.token t, rest)
    else (.function n, rest)
  | rest => (.token (.ident n), rest)

/-- The next piece of a text that isn't empty; `none` for a comment. -/
def next (s : List Char) : Option Piece × List Char :=
  let one (t : Token) (rest : List Char) : Option Piece × List Char := (some (.token t), rest)
  let ident : Option Piece × List Char :=
    let (p, rest) := identLike s
    (some p, rest)
  let number : Option Piece × List Char :=
    let (t, rest) := numeric s
    one t rest
  match s with
  | [] => (none, [])
  | c :: rest =>
    if isBlank c then one .blank (rest.dropWhile isBlank)
    else if c.isDigit then number
    else match c with
      | '"' =>
        let (t, rest) := quotedText '"' (rest.length + 1) [] rest
        one t rest
      | '\'' =>
        let (t, rest) := quotedText '\'' (rest.length + 1) [] rest
        one t rest
      | '#' =>
        match rest with
        | d :: _ =>
          if startsIdent rest then
            let (n, rest) := nameOf rest
            one (.idHash n) rest
          else if d.isDigit || d == '-' then
            let (n, rest) := nameOf rest
            one (.hash n) rest
          else one (.delim '#') rest
        | [] => one (.delim '#') []
      | '$' =>
        match rest with
        | '=' :: rest => one .suffixMatch rest
        | rest => one (.delim '$') rest
      | '(' => (some (.opening .round), rest)
      | ')' => one (.close .round) rest
      | '*' =>
        match rest with
        | '=' :: rest => one .substringMatch rest
        | rest => one (.delim '*') rest
      | '+' => if startsNumber s then number else one (.delim '+') rest
      | ',' => one .comma rest
      | '-' =>
        if startsNumber s then number
        else match rest with
          | '-' :: '>' :: rest => one .cdc rest
          | _ => if startsIdent s then ident else one (.delim '-') rest
      | '.' => if startsNumber s then number else one (.delim '.') rest
      | '/' =>
        match rest with
        | '*' :: rest => (none, comment rest)
        | rest => one (.delim '/') rest
      | ':' => one .colon rest
      | ';' => one .semicolon rest
      | '<' =>
        match rest with
        | '!' :: '-' :: '-' :: rest => one .cdo rest
        | rest => one (.delim '<') rest
      | '@' =>
        if startsIdent rest then
          let (n, rest) := nameOf rest
          one (.atKeyword n) rest
        else one (.delim '@') rest
      | '[' => (some (.opening .square), rest)
      | '\\' => if isEscape s then ident else one (.delim '\\') rest
      | ']' => one (.close .square) rest
      | '^' =>
        match rest with
        | '=' :: rest => one .prefixMatch rest
        | rest => one (.delim '^') rest
      | '\x7b' => (some (.opening .curly), rest)
      | '|' =>
        match rest with
        | '=' :: rest => one .dashMatch rest
        | rest => one (.delim '|') rest
      | '\x7d' => one (.close .curly) rest
      | '~' =>
        match rest with
        | '=' :: rest => one .includeMatch rest
        | rest => one (.delim '~') rest
      | c => if isNameStart c then ident else one (.delim c) rest

def pieces : Nat → List Char → List Piece
  | 0, _ => []
  | _, [] => []
  | fuel + 1, s =>
    match next s with
    | (some p, rest) => p :: pieces fuel rest
    | (none, rest) => pieces fuel rest

def isClosing (b : Bracket) : Token → Bool
  | .close c => c == b
  | _ => false

/-- Matches brackets: tokens up to the closing bracket, which is taken, or to the end. -/
def nest : Nat → Option Bracket → List Token → List Piece → List Token × List Piece
  | 0, _, acc, ps => (acc.reverse, ps)
  | _, _, acc, [] => (acc.reverse, [])
  | fuel + 1, closing, acc, p :: ps =>
    match p with
    | .token t =>
      if closing.any fun b => isClosing b t then (acc.reverse, ps)
      else nest fuel closing (t :: acc) ps
    | .function name =>
      let (content, ps) := nest fuel (some .round) [] ps
      nest fuel closing (.function name content :: acc) ps
    | .opening b =>
      let (content, ps) := nest fuel (some b) [] ps
      nest fuel closing (.block b content :: acc) ps

end Lexer

/-- The tokens of a text. -/
def tokens (s : String) : List Token :=
  let ps := Lexer.pieces (s.length + 1) s.toList
  (Lexer.nest (ps.length + 1) none [] ps).1

end PageExtract.Css
