import PageExtract.Pattern.CaseFold
import PageExtract.Pattern.Category
import PageExtract.Pattern.Script
import PageExtract.Pattern.Expression

/-!
What flags turn on and off, and the character sets that names stand for.
-/

set_option autoImplicit false

namespace PageExtract.Pattern

open PageExtract.Text (Ranges)

structure Flags where
  ignoreCase : Bool := false
  multiLine : Bool := false
  dotAll : Bool := false
  verbose : Bool := false
  unicode : Bool := true
  anyBreak : Bool := false

namespace Flags

/-- A set as the flags want it: closed under case, complemented if asked, within bytes of ASCII
where Unicode is off. -/
def adjust (f : Flags) (negated : Bool) (rs : Ranges) : Option Ranges :=
  let folded :=
    if f.ignoreCase then
      if f.unicode then foldCase rs
      else rs ++ rs.flatMap fun r =>
        (Ranges.inter [r] [(0x41, 0x5A)]).map (fun r => (r.1 + 32, r.2 + 32)) ++
        (Ranges.inter [r] [(0x61, 0x7A)]).map (fun r => (r.1 - 32, r.2 - 32))
    else rs.normalize
  let result := if negated then Ranges.complement folded else folded.normalize
  if !f.unicode && result.any (fun r => 0x7F < r.2) then none else some result

def allRanges : Ranges := [(0, 0x10FFFF)]

def digits (f : Flags) : Ranges :=
  if f.unicode then .read categoryNd else [(0x30, 0x39)]

def blanks (f : Flags) : Ranges :=
  if f.unicode then (property? "space").getD [] else [(9, 13), (32, 32)]

def wordChars (f : Flags) : Ranges :=
  if f.unicode then wordRanges else [(0x30, 0x39), (0x41, 0x5A), (0x5F, 0x5F), (0x61, 0x7A)]

/-- The set of `\d`, `\s`, `\w` and their complements. -/
def shorthand (f : Flags) (c : Char) : Option Ranges :=
  let pick (rs : Ranges) (negated : Bool) : Option Ranges :=
    ({ f with ignoreCase := false }).adjust negated rs
  match c with
  | 'd' => pick f.digits false
  | 'D' => pick f.digits true
  | 's' => pick f.blanks false
  | 'S' => pick f.blanks true
  | 'w' => pick f.wordChars false
  | 'W' => pick f.wordChars true
  | _ => none

end Flags

/-- The sets of names in double brackets. -/
def asciiClass? (name : String) : Option Ranges :=
  match name with
  | "alnum" => some [(0x30, 0x39), (0x41, 0x5A), (0x61, 0x7A)]
  | "alpha" => some [(0x41, 0x5A), (0x61, 0x7A)]
  | "ascii" => some [(0, 0x7F)]
  | "blank" => some [(9, 9), (32, 32)]
  | "cntrl" => some [(0, 0x1F), (0x7F, 0x7F)]
  | "digit" => some [(0x30, 0x39)]
  | "graph" => some [(0x21, 0x7E)]
  | "lower" => some [(0x61, 0x7A)]
  | "print" => some [(0x20, 0x7E)]
  | "punct" => some [(0x21, 0x2F), (0x3A, 0x40), (0x5B, 0x60), (0x7B, 0x7E)]
  | "space" => some [(9, 13), (32, 32)]
  | "upper" => some [(0x41, 0x5A)]
  | "word" => some [(0x30, 0x39), (0x41, 0x5A), (0x5F, 0x5F), (0x61, 0x7A)]
  | "xdigit" => some [(0x30, 0x39), (0x41, 0x46), (0x61, 0x66)]
  | _ => none

/-- A name without case and separators, a leading `is` dropped. -/
def looseName (s : List Char) : String :=
  let plain := (s.filter fun c => c != ' ' && c != '_' && c != '-').map Char.toLower
  let cut := match plain with
    | 'i' :: 's' :: rest => if rest = ['c'] then plain else rest
    | _ => plain
  String.ofList cut

/-- The short names of general categories that a name stands for. -/
def categoryParts? (name : String) : Option (List String) :=
  match name with
  | "l" | "letter" => some ["lu", "ll", "lt", "lm", "lo"]
  | "lc" | "casedletter" => some ["lu", "ll", "lt"]
  | "lu" | "uppercaseletter" => some ["lu"]
  | "ll" | "lowercaseletter" => some ["ll"]
  | "lt" | "titlecaseletter" => some ["lt"]
  | "lm" | "modifierletter" => some ["lm"]
  | "lo" | "otherletter" => some ["lo"]
  | "m" | "mark" | "combiningmark" => some ["mn", "mc", "me"]
  | "mn" | "nonspacingmark" => some ["mn"]
  | "mc" | "spacingmark" => some ["mc"]
  | "me" | "enclosingmark" => some ["me"]
  | "n" | "number" => some ["nd", "nl", "no"]
  | "nd" | "decimalnumber" | "digit" => some ["nd"]
  | "nl" | "letternumber" => some ["nl"]
  | "no" | "othernumber" => some ["no"]
  | "p" | "punctuation" | "punct" => some ["pc", "pd", "ps", "pe", "pi", "pf", "po"]
  | "pc" | "connectorpunctuation" => some ["pc"]
  | "pd" | "dashpunctuation" => some ["pd"]
  | "ps" | "openpunctuation" => some ["ps"]
  | "pe" | "closepunctuation" => some ["pe"]
  | "pi" | "initialpunctuation" => some ["pi"]
  | "pf" | "finalpunctuation" => some ["pf"]
  | "po" | "otherpunctuation" => some ["po"]
  | "s" | "symbol" => some ["sm", "sc", "sk", "so"]
  | "sm" | "mathsymbol" => some ["sm"]
  | "sc" | "currencysymbol" => some ["sc"]
  | "sk" | "modifiersymbol" => some ["sk"]
  | "so" | "othersymbol" => some ["so"]
  | "z" | "separator" => some ["zs", "zl", "zp"]
  | "zs" | "spaceseparator" => some ["zs"]
  | "zl" | "lineseparator" => some ["zl"]
  | "zp" | "paragraphseparator" => some ["zp"]
  | "c" | "other" => some ["cc", "cf", "co", "cn"]
  | "cc" | "control" | "cntrl" => some ["cc"]
  | "cf" | "format" => some ["cf"]
  | "co" | "privateuse" => some ["co"]
  | "cn" | "unassigned" => some ["cn"]
  | "cs" | "surrogate" => some []
  | _ => none

def category? (name : String) : Option Ranges :=
  match name with
  | "any" => some Flags.allRanges
  | "ascii" => some [(0, 0x7F)]
  | "assigned" => some (Ranges.complement (.read categoryCn))
  | _ =>
    (categoryParts? name).map fun parts =>
      categories.flatMap fun c => if parts.contains c.1 then c.2 else []

/-- The set that a property name in braces stands for, with a value after `=` or `:`. -/
def named? (name : List Char) : Option Ranges :=
  let value (key val : List Char) : Option Ranges :=
    match looseName key with
    | "gc" | "generalcategory" => category? (looseName val)
    | "sc" | "script" | "scx" | "scriptextensions" => script? (looseName val)
    | _ => none
  match name.span (fun c => c != '=' && c != ':') with
  | (key, _ :: val) =>
    match key.reverse with
    | '!' :: key => (value key.reverse val).map Ranges.complement
    | _ => value key val
  | (_, []) =>
    let n := looseName name
    if n = "cf" ∨ n = "sc" ∨ n = "lc" then category? n
    else match property? n with
      | some rs => some rs
      | none =>
        match category? n with
        | some rs => some rs
        | none => script? n

end PageExtract.Pattern
