import PageExtract.Pattern.Flags
import PageExtract.Text.Blank

/-!
Escapes of regular expressions, the same inside and outside of brackets.
-/

set_option autoImplicit false

namespace PageExtract.Pattern

open PageExtract.Text (Ranges)

/-- What an escape or a plain character stands for. -/
inductive Atom where
  | char (c : Char)
  | set (members : Ranges)
  | look (l : Look)

def metaCharacters : List Char :=
  ['\\', '.', '+', '*', '?', '(', ')', '|', '[', ']', '\x7b', '\x7d', '^', '$', '#', '&', '-', '~']

/-- ASCII characters other than letters, digits and angle brackets may be escaped. -/
def isEscapable (c : Char) : Bool :=
  metaCharacters.contains c || (c.toNat < 0x80 && !c.isAlphanum && c != '<' && c != '>')

def hexNumber? (digits : List Char) : Option Nat :=
  if digits.isEmpty then none
  else digits.foldl (fun acc c =>
    match acc, Ranges.hexDigit? c with
    | some n, some d => some (n * 16 + d)
    | _, _ => none) (some 0)

def scalar? (n : Nat) : Option Char :=
  if n < 0xD800 ∨ (0xDFFF < n ∧ n ≤ 0x10FFFF) then some (Char.ofNat n) else none

/-- The code point after the letter of a hexadecimal escape, in braces or with `width` digits. -/
def hexEscape? (width : Nat) : List Char → Option (Char × List Char)
  | '\x7b' :: rest =>
    match rest.span (· != '\x7d') with
    | (digits, _ :: rest) => (hexNumber? digits).bind fun n => (scalar? n).map fun c => (c, rest)
    | (_, []) => none
  | rest =>
    let digits := rest.take width
    if digits.length < width then none
    else (hexNumber? digits).bind fun n => (scalar? n).map fun c => (c, rest.drop width)

/-- The name after the letter of a property escape, in braces or one letter. -/
def propertyEscape? (f : Flags) (negated : Bool) (input : List Char) : Option (Atom × List Char) :=
  let found (name rest : List Char) : Option (Atom × List Char) :=
    if f.unicode then
      ((named? name).bind (f.adjust negated)).map fun rs => (.set rs, rest)
    else none
  match input with
  | '\x7b' :: rest =>
    match rest.span (· != '\x7d') with
    | (name, _ :: rest) => found name rest
    | (_, []) => none
  | '\\' :: _ => none
  | c :: rest => found [c] rest
  | [] => none

/-- The kinds of word boundary that are named in braces. -/
def namedBoundary? (ascii : Bool) (name : List Char) : Option Look :=
  match String.ofList name with
  | "start" => some (.wordStart ascii)
  | "end" => some (.wordEnd ascii)
  | "start-half" => some (.wordStartHalf ascii)
  | "end-half" => some (.wordEndHalf ascii)
  | _ => none

/-- A boundary after its letter; braces that don't hold a name are a repetition. -/
def boundary? (f : Flags) (input : List Char) : Option (Atom × List Char) :=
  let isNameChar (c : Char) : Bool := c.isAlpha || c == '-'
  let plain : Atom := .look (.wordBoundary !f.unicode)
  match input with
  | '\x7b' :: rest =>
    match rest with
    | [] => none
    | c :: _ =>
      if isNameChar c then
        match rest.span isNameChar with
        | (name, '\x7d' :: rest) => (namedBoundary? (!f.unicode) name).map fun l => (.look l, rest)
        | _ => none
      else some (plain, input)
  | _ => some (plain, input)

/-- An escape, after its backslash. -/
def escape? (f : Flags) : List Char → Option (Atom × List Char)
  | [] => none
  | c :: rest =>
    if c = 'x' ∨ c = 'u' ∨ c = 'U' then
      let width := if c = 'x' then 2 else if c = 'u' then 4 else 8
      match hexEscape? width rest with
      | some (x, after) =>
        if !f.unicode && c == 'x' && rest.head? != some '\x7b' && 0x7F < x.toNat then none
        else some (.char x, after)
      | none => none
    else if c = 'p' ∨ c = 'P' then propertyEscape? f (c == 'P') rest
    else if ['d', 'D', 's', 'S', 'w', 'W'].contains c then
      (f.shorthand c).map fun rs => (.set rs, rest)
    else if isEscapable c then some (.char c, rest)
    else match c with
      | 'a' => some (.char '\x07', rest)
      | 'f' => some (.char '\x0c', rest)
      | 't' => some (.char '\t', rest)
      | 'n' => some (.char '\n', rest)
      | 'r' => some (.char '\r', rest)
      | 'v' => some (.char '\x0b', rest)
      | 'A' => some (.look .textStart, rest)
      | 'z' => some (.look .textEnd, rest)
      | 'b' => boundary? f rest
      | 'B' => some (.look (.notWordBoundary !f.unicode), rest)
      | '<' => some (.look (.wordStart !f.unicode), rest)
      | '>' => some (.look (.wordEnd !f.unicode), rest)
      | _ => none

/-- Where blanks are free, passes them and comments up to the end of their line. -/
def skipFree (f : Flags) (input : List Char) : List Char :=
  if f.verbose then go false input else input
where
  go : Bool → List Char → List Char
    | _, [] => []
    | true, c :: rest => go (c != '\n') rest
    | false, c :: rest =>
      if Text.isBlank c then go false rest
      else if c = '#' then go true rest
      else c :: rest

end PageExtract.Pattern
