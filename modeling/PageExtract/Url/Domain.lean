import PageExtract.Pattern.Category
import PageExtract.Text.Composition
import PageExtract.Text.Split
import PageExtract.Url.DomainTable
import PageExtract.Url.Punycode

/-!
Domain names. Characters are replaced by those they are compared as, and a label with characters
beyond ASCII is written in Punycode after `xn--`.
-/

set_option autoImplicit false

namespace PageExtract.Url

open PageExtract.Text (Ranges)

/-- A run of characters that each stand for the character at the same distance. -/
structure Shift where
  first : Nat
  last : Nat
  stride : Nat
  target : Nat

def shifts : List Shift :=
  (Text.tableEntries shiftedText).map fun e =>
    let stride := if e.1.getLast? = some '/' then 2 else 1
    let run := Ranges.ofWord (e.1.takeWhile (· ≠ '/'))
    ⟨run.1, run.2, stride, e.2.headD 0⟩

def expansions : List (Nat × List Nat) :=
  (Text.tableEntries expandedText).map fun e => (Ranges.number e.1, e.2)

/-- A character of a domain name that stands for itself. -/
def isPlain (c : Char) : Bool :=
  if c.toNat < 0x80 then !c.isUpper else plainRanges.contains c.toNat

/-- What a character stands for, if it may stand in a domain name. -/
def mapped? (c : Char) : Option (List Char) :=
  let n := c.toNat
  if n < 0x80 then some [c.toLower]
  else if plainRanges.contains n then some [c]
  else if ignoredRanges.contains n then some []
  else match shifts.find? fun s => s.first ≤ n && n ≤ s.last && (n - s.first) % s.stride == 0 with
    | some s => some [Char.ofNat (s.target + (n - s.first))]
    | none => (expansions.lookup n).map (·.map Char.ofNat)

def mappedAll? : List Char → Option (List Char)
  | [] => some []
  | c :: rest =>
    match mapped? c, mappedAll? rest with
    | some cs, some more => some (cs ++ more)
    | _, _ => none

def markRanges : Ranges :=
  .read Pattern.categoryMn ++ .read Pattern.categoryMc ++ .read Pattern.categoryMe

/-- Joiners stand only after a virama. -/
def joinersFit : Option Char → List Char → Bool
  | _, [] => true
  | before, c :: rest =>
    let fits := (c.toNat != 0x200C && c.toNat != 0x200D) ||
      (match before with
        | some b => Text.combiningClass b == 9
        | none => false)
    fits && joinersFit (some c) rest

def isForbidden (c : Char) : Bool :=
  c.toNat ≤ 0x20 || c.toNat == 0x7F || c == '%' || c == '#' || c == '/' || c == ':' || c == '<' ||
  c == '>' || c == '?' || c == '@' || c == '[' || c == '\\' || c == ']' || c == '^' || c == '|'

/-- A composed label of characters that stand for themselves. -/
def isLabel (label : List Char) : Bool :=
  label.all (fun c => isPlain c && !isForbidden c) && joinersFit none label &&
  (match label with
    | c :: _ => c.toNat < 0x300 || !markRanges.contains c.toNat
    | [] => true) &&
  Text.composed label == label

/-- The written form of a label; one that has `xn--` before it must stand for more than ASCII. -/
def writtenLabel? (label : List Char) : Option (List Char) :=
  if !isLabel label then none
  else match label with
  | 'x' :: 'n' :: '-' :: '-' :: code =>
    match Punycode.decode? code with
    | none => none
    | some decoded => if decoded.all (·.toNat < 0x80) || !isLabel decoded then none else some label
  | _ =>
    if label.all (·.toNat < 0x80) then some label
    else some ('x' :: 'n' :: '-' :: '-' :: Punycode.encode label)

def writtenLabels? : List (List Char) → Option (List (List Char))
  | [] => some []
  | label :: rest =>
    match writtenLabel? label, writtenLabels? rest with
    | some l, some ls => some (l :: ls)
    | _, _ => none

/-- The written form of a domain name, all in ASCII. -/
def domain? (name : List Char) : Option (List Char) :=
  match mappedAll? name with
  | none => none
  | some mapped =>
    (writtenLabels? (Text.splitAt '.' (Text.composed mapped))).map (List.intercalate ['.'])

end PageExtract.Url
