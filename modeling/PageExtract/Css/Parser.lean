import PageExtract.Css.Rendering
import PageExtract.Css.Selector

/-!
Reading selectors from tokens.
-/

set_option autoImplicit false

namespace PageExtract.Css

namespace Parser

abbrev Result (α : Type) := Except SelectorProblem α

def lower (s : String) : String := String.ofList (s.toList.map Char.toLower)

def skipBlanks : List Token → List Token
  | .blank :: rest => skipBlanks rest
  | ts => ts

/-- Nothing but blanks is left. -/
def exhausted (ts : List Token) : Result Unit :=
  match skipBlanks ts with
  | [] => .ok ()
  | t :: _ => .error (.unexpected t.shown)

/-- Parts between commas. -/
def splitCommas : List Token → List (List Token)
  | [] => [[]]
  | .comma :: rest => [] :: splitCommas rest
  | t :: rest =>
    match splitCommas rest with
    | [] => [[t]]
    | part :: parts => (t :: part) :: parts

/-- A combinator with the tokens after it, if one comes next. -/
def combinator? : Bool → List Token → Option (Combinator × List Token)
  | _, [] => none
  | afterBlank, t :: rest =>
    match t with
    | .blank => combinator? true rest
    | .delim '>' => some (.child, rest)
    | .delim '+' => some (.nextSibling, rest)
    | .delim '~' => some (.laterSibling, rest)
    | t => if afterBlank then some (.descendant, t :: rest) else none

/-- A type selector. A name before a bar would be a namespace, and none is declared. -/
def typeSelector (ts : List Token) : Result (Option (List Simple) × List Token) :=
  let afterBar (simples : List Simple) (rest : List Token) :
      Result (Option (List Simple) × List Token) :=
    match rest with
    | .delim '*' :: rest => .ok (some (simples ++ [.anyType]), rest)
    | .ident name :: rest => .ok (some (simples ++ [.type name]), rest)
    | [] => .ok (none, [])
    | _ => .error .notASelector
  match ts with
  | .ident name :: rest =>
    match rest with
    | .delim '|' :: _ => .error .notASelector
    | rest => .ok (some [.type name], rest)
  | .delim '*' :: rest =>
    match rest with
    | .delim '|' :: rest => afterBar [] rest
    | rest => .ok (some [.anyType], rest)
  | .delim '|' :: rest => afterBar [.noSpace] rest
  | ts => .ok (none, ts)

/-- Attributes of the page's elements whose values are compared without case. -/
def caselessAttributes : List String :=
  ["accept", "accept-charset", "align", "alink", "axis", "bgcolor", "charset", "checked", "clear",
   "codetype", "color", "compact", "declare", "defer", "dir", "direction", "disabled", "enctype",
   "face", "frame", "hreflang", "http-equiv", "lang", "language", "link", "media", "method",
   "multiple", "nohref", "noresize", "noshade", "nowrap", "readonly", "rel", "rev", "rules",
   "scope", "scrolling", "selected", "shape", "target", "text", "type", "valign", "valuetype",
   "vlink"]

/-- The name of an attribute: whether any namespace will do, the name, the rest. -/
def attributeName (ts : List Token) : Result (Bool × String × List Token) :=
  let afterBar (anySpace : Bool) (rest : List Token) : Result (Bool × String × List Token) :=
    match rest with
    | .ident name :: rest => .ok (anySpace, name, rest)
    | [] => .error .endOfInput
    | _ => .error .notASelector
  match ts with
  | .ident name :: rest =>
    match rest with
    | .delim '|' :: _ => .error .notASelector
    | rest => .ok (false, name, rest)
  | .delim '*' :: rest =>
    match rest with
    | .delim '|' :: rest => afterBar true rest
    | [] => .error .endOfInput
    | _ => .error .notASelector
  | .delim '|' :: rest => afterBar false rest
  | [] => .error .endOfInput
  | _ => .error .notASelector

def attributeTest? : Token → Option AttributeTest
  | .delim '=' => some .equal
  | .includeMatch => some .oneWord
  | .dashMatch => some .dashPrefix
  | .prefixMatch => some .starts
  | .suffixMatch => some .ends
  | .substringMatch => some .holds
  | _ => none

def caseRule (anySpace : Bool) (name : String) (ts : List Token) : Result CaseRule :=
  match skipBlanks ts with
  | [] =>
    .ok (if !anySpace && caselessAttributes.contains (lower name) then .ignoredInHtml else .exact)
  | .ident flag :: rest =>
    let rule : Option CaseRule :=
      if lower flag == "i" then some .ignored else if lower flag == "s" then some .exact else none
    match rule with
    | none => .error (.unexpected flag)
    | some r =>
      match exhausted rest with
      | .error p => .error p
      | .ok () => .ok r
  | t :: _ => .error (.unexpected t.shown)

/-- The content of an attribute selector's brackets. -/
def bracketContent (ts : List Token) : Result Simple :=
  match attributeName (skipBlanks ts) with
  | .error p => .error p
  | .ok (anySpace, name, rest) =>
    match skipBlanks rest with
    | [] => .ok (.withAttribute ⟨name, anySpace, none⟩)
    | t :: rest =>
      match attributeTest? t with
      | none => .error .notASelector
      | some test =>
        let finish (value : String) (rest : List Token) : Result Simple :=
          match caseRule anySpace name rest with
          | .error p => .error p
          | .ok rule => .ok (.withAttribute ⟨name, anySpace, some (test, value, rule)⟩)
        match skipBlanks rest with
        | [] => .error .endOfInput
        | .ident value :: rest => finish value rest
        | .string value :: rest => finish value rest
        | _ => .error .notASelector

def clamp (n : Int) : Int := max (-2147483648) (min n 2147483647)

def Numeral.whole? (n : Numeral) : Option Int :=
  if n.isWhole then some (clamp (if n.negative then -(n.digits : Int) else n.digits)) else none

/-- Digits after `n-`, as a negative number. -/
def dashDigits? (s : String) : Option Int :=
  match s.toList with
  | c :: '-' :: d :: rest =>
    if (c == 'n' || c == 'N') && (d :: rest).all Char.isDigit then
      some (clamp (-(Lexer.decimal (d :: rest) : Int)))
    else none
  | _ => none

/-- A number without sign, as the second part of a position. -/
def signless (a sign : Int) (ts : List Token) : Result (Int × Int × List Token) :=
  match skipBlanks ts with
  | [] => .error .endOfInput
  | t :: rest =>
    match t with
    | .number n =>
      match n.signed, Numeral.whole? n with
      | false, some b => .ok (a, sign * b, rest)
      | _, _ => .error (.unexpected t.shown)
    | t => .error (.unexpected t.shown)

/-- The second part of a position, if there is one. -/
def secondPart (a : Int) (ts : List Token) : Result (Int × Int × List Token) :=
  match skipBlanks ts with
  | .delim '+' :: rest => signless a 1 rest
  | .delim '-' :: rest => signless a (-1) rest
  | .number n :: rest =>
    match n.signed, Numeral.whole? n with
    | true, some b => .ok (a, b, rest)
    | _, _ => .ok (a, 0, ts)
  | _ => .ok (a, 0, ts)

/-- A position as in `2n+1`, `odd` or `3`. -/
def nth (ts : List Token) : Result (Int × Int × List Token) :=
  match skipBlanks ts with
  | [] => .error .endOfInput
  | t :: rest =>
    match t with
    | .number n =>
      match Numeral.whole? n with
      | some b => .ok (0, b, rest)
      | none => .error (.unexpected t.shown)
    | .dimension n unit =>
      match Numeral.whole? n with
      | none => .error (.unexpected t.shown)
      | some a =>
        if lower unit == "n" then secondPart a rest
        else if lower unit == "n-" then signless a (-1) rest
        else match dashDigits? unit with
          | some b => .ok (a, b, rest)
          | none => .error (.unexpected unit)
    | .ident name =>
      match lower name with
      | "even" => .ok (2, 0, rest)
      | "odd" => .ok (2, 1, rest)
      | "n" => secondPart 1 rest
      | "-n" => secondPart (-1) rest
      | "n-" => signless 1 (-1) rest
      | "-n-" => signless (-1) (-1) rest
      | _ =>
        let (tail, a) := match name.toList with
          | '-' :: tail => (String.ofList tail, -1)
          | _ => (name, (1 : Int))
        match dashDigits? tail with
        | some b => .ok (a, b, rest)
        | none => .error (.unexpected name)
    | .delim '+' =>
      match rest with
      | [] => .error .endOfInput
      | .ident name :: rest =>
        match lower name with
        | "n" => secondPart 1 rest
        | "n-" => signless 1 (-1) rest
        | _ =>
          match dashDigits? name with
          | some b => .ok (1, b, rest)
          | none => .error (.unexpected name)
      | t :: _ => .error (.unexpected t.shown)
    | t => .error (.unexpected t.shown)

def position (fromEnd sameType : Bool) (ts : List Token) : Result Simple :=
  match nth ts with
  | .error p => .error p
  | .ok (a, b, rest) =>
    match exhausted rest with
    | .error p => .error p
    | .ok () => .ok (.position ⟨a, b, fromEnd, sameType⟩)

/-- A named condition without arguments. -/
def plainPseudo (name : String) : Result Simple :=
  match lower name with
  | "first-child" => .ok (.position ⟨0, 1, false, false⟩)
  | "last-child" => .ok (.position ⟨0, 1, true, false⟩)
  | "only-child" => .ok (.onlyChild false)
  | "first-of-type" => .ok (.position ⟨0, 1, false, true⟩)
  | "last-of-type" => .ok (.position ⟨0, 1, true, true⟩)
  | "only-of-type" => .ok (.onlyChild true)
  | "root" => .ok .root
  | "empty" => .ok .empty
  | "scope" => .ok .scope
  | _ => .error .notASelector

mutual

/-- Closing brackets without their partners and broken texts are refused even where errors are
forgiven. -/
def broken? : Token → Option Token
  | .close b => some (.close b)
  | .badString s => some (.badString s)
  | .badUrl s => some (.badUrl s)
  | .function _ content => firstBroken? content
  | .block _ content => firstBroken? content
  | _ => none
  termination_by structural t => t

def firstBroken? : List Token → Option Token
  | [] => none
  | t :: rest =>
    match broken? t with
    | some t => some t
    | none => firstBroken? rest
  termination_by structural ts => ts

end

/-- How the chains of a list are read. -/
inductive ListMode where
  | strict | forgiving | relative
  deriving DecidableEq

/-- The outcome of a part, with the tokens that were left where it failed. -/
abbrev Attempt (α : Type) := Except (SelectorProblem × List Token) (α × List Token)

mutual

/-- One simple selector, or `none` if the next token can't begin one. -/
def simple : Nat → Bool → List Token → Attempt (Option Simple)
  | 0, _, ts => .error (.notASelector, ts)
  | fuel + 1, inHas, ts =>
    match ts with
    | .idHash name :: rest => .ok (some (.id name), rest)
    | .delim '.' :: rest =>
      match rest with
      | .ident name :: rest => .ok (some (.ofClass name), rest)
      | [] => .error (.endOfInput, [])
      | _ :: rest => .error (.notASelector, rest)
    | .block .square content :: rest =>
      match bracketContent content with
      | .ok a => .ok (some a, rest)
      | .error p => .error (p, rest)
    | .colon :: rest =>
      match rest with
      | [] => .error (.endOfInput, [])
      | .colon :: rest =>
        match rest with
        | [] => .error (.endOfInput, [])
        | .ident _ :: rest => .error (.notASelector, rest)
        | .function _ _ :: rest => .error (.notASelector, rest)
        | t :: rest => .error (.expectedName t.shown, rest)
      | .ident name :: rest =>
        match plainPseudo name with
        | .ok s => .ok (some s, rest)
        | .error p => .error (p, rest)
      | .function name content :: rest =>
        match functional fuel inHas (lower name) content with
        | .ok s => .ok (some s, rest)
        | .error p => .error (p, rest)
      | t :: rest => .error (.expectedName t.shown, rest)
    | ts => .ok (none, ts)

/-- A named condition with arguments. -/
def functional : Nat → Bool → String → List Token → Result Simple
  | 0, _, _, _ => .error .notASelector
  | fuel + 1, inHas, name, content =>
    match name with
    | "nth-child" => position false false content
    | "nth-last-child" => position true false content
    | "nth-of-type" => position false true content
    | "nth-last-of-type" => position true true content
    | "is" | "where" =>
      match chainList fuel inHas .forgiving (splitCommas content) with
      | .ok cs => .ok (.isAny cs)
      | .error p => .error p
    | "not" =>
      match chainList fuel inHas .strict (splitCommas content) with
      | .ok cs => .ok (.isNone cs)
      | .error p => .error p
    | "has" =>
      if inHas then .error .notASelector
      else match chainList fuel true .relative (splitCommas content) with
        | .ok cs => .ok (.hasAny cs)
        | .error p => .error p
    | _ => .error .notASelector

/-- Simple selectors one after the other. -/
def simples : Nat → Bool → List Simple → List Token → Attempt (List Simple)
  | 0, _, _, ts => .error (.notASelector, ts)
  | fuel + 1, inHas, acc, ts =>
    match simple fuel inHas ts with
    | .error e => .error e
    | .ok (none, ts) => .ok (acc.reverse, ts)
    | .ok (some s, ts) => simples fuel inHas (s :: acc) ts

def compound : Nat → Bool → List Token → Attempt (List Simple)
  | 0, _, ts => .error (.notASelector, ts)
  | fuel + 1, inHas, ts =>
    let ts := skipBlanks ts
    match typeSelector ts with
    | .error p => .error (p, ts)
    | .ok (first, ts) =>
      match simples fuel inHas [] ts with
      | .error e => .error e
      | .ok (ss, rest) =>
        let all := first.getD [] ++ ss
        if all.isEmpty then .error (.notASelector, rest) else .ok (all, rest)

/-- Compounds with combinators between them, after what stands to the left. -/
def chainFrom : Nat → Bool → Option (Chain × Combinator) → List Token → Attempt Chain
  | 0, _, _, ts => .error (.notASelector, ts)
  | fuel + 1, inHas, left, ts =>
    match compound fuel inHas ts with
    | .error e => .error e
    | .ok (ss, rest) =>
      let chain := match left with
        | none => Chain.single ss
        | some (l, how) => Chain.joined l how ss
      match combinator? false rest with
      | none => .ok (chain, rest)
      | some (how, rest) => chainFrom fuel inHas (some (chain, how)) rest

/-- The chains of a list, all tokens used. -/
def chainList : Nat → Bool → ListMode → List (List Token) → Result (List Chain)
  | 0, _, _, _ => .error .notASelector
  | _, _, _, [] => .ok []
  | fuel + 1, inHas, mode, part :: parts =>
    let start : Option (Chain × Combinator) × List Token :=
      if mode = .relative then
        let part := skipBlanks part
        match combinator? false part with
        | some (how, rest) => (some (.single [.anchor], how), rest)
        | none => (some (.single [.anchor], .descendant), part)
      else (none, part)
    let failed (p : SelectorProblem) (rest : List Token) : Result Chain :=
      if mode = .forgiving then
        match firstBroken? rest with
        | some t => .error (.unexpected t.shown)
        | none => .ok .invalid
      else .error p
    let read : Result Chain :=
      match chainFrom fuel inHas start.1 start.2 with
      | .ok (c, rest) =>
        match exhausted rest with
        | .ok () => .ok c
        | .error p => failed p rest
      | .error (p, rest) => failed p rest
    match read with
    | .error p => .error p
    | .ok c =>
      match chainList fuel inHas mode parts with
      | .error p => .error p
      | .ok cs => .ok (c :: cs)

end

end Parser

/-- The selector that a text describes. -/
def Selector.read (s : String) : Except SelectorProblem Selector :=
  match Parser.chainList (6 * s.length + 6) false .strict (Parser.splitCommas (tokens s)) with
  | .ok cs => .ok ⟨cs⟩
  | .error p => .error p

end PageExtract.Css
