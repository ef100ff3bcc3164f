import PageExtract.Pattern.Brackets

/-!
The grammar of regular expressions: alternatives, repetitions, groups and flags.
-/

set_option autoImplicit false

namespace PageExtract.Pattern

open PageExtract.Text (Ranges)

def atomExpression (f : Flags) : Atom → Option Expression
  | .char c =>
    if !f.unicode && 0x7F < c.toNat then some (.set [(c.toNat, c.toNat)])
    else (f.adjust false [(c.toNat, c.toNat)]).map .set
  | .set rs => some (.set rs)
  | .look l => some (.look l)

def dot? (f : Flags) : Option Expression :=
  let excluded : Ranges :=
    if f.dotAll then [] else if f.anyBreak then [(10, 10), (13, 13)] else [(10, 10)]
  if f.unicode then some (.set (Ranges.complement excluded)) else none

def lineStart (f : Flags) : Look :=
  if !f.multiLine then .textStart else if f.anyBreak then .breakStart else .lineStart

def lineEnd (f : Flags) : Look :=
  if !f.multiLine then .textEnd else if f.anyBreak then .breakEnd else .lineEnd

def setFlag? (c : Char) (on : Bool) (f : Flags) : Option Flags :=
  match c with
  | 'i' => some { f with ignoreCase := on }
  | 'm' => some { f with multiLine := on }
  | 's' => some { f with dotAll := on }
  | 'x' => some { f with verbose := on }
  | 'u' => some { f with unicode := on }
  | 'R' => some { f with anyBreak := on }
  | 'U' => some f
  | _ => none

/-- Flags up to a colon or a closing parenthesis, which is returned with them. -/
def flags? : Flags → List Char → Bool → Bool → List Char → Option (Flags × Bool × List Char)
  | _, _, _, _, [] => none
  | f, seen, negating, dangling, c :: rest =>
    if c = ':' ∨ c = ')' then
      if dangling then none
      else if c = ')' ∧ seen = [] ∧ !negating then none
      else some (f, c == ':', rest)
    else if c = '-' then
      if negating then none else flags? f seen true true rest
    else if seen.contains c then none
    else match setFlag? c (!negating) f with
      | none => none
      | some f => flags? f (c :: seen) negating false rest

def isAlphabetic (c : Char) : Bool :=
  c.isAlpha || (0x7F < c.toNat && ((property? "alphabetic").getD []).contains c.toNat)

def isNumeric (c : Char) : Bool :=
  c.isDigit || (0x7F < c.toNat && ((category? "n").getD []).contains c.toNat)

/-- The name of a group, after its opening angle bracket. -/
def groupName? (input : List Char) : Option (String × List Char) :=
  match input.span (· != '>') with
  | (name, '>' :: rest) =>
    match name with
    | [] => none
    | c :: cs =>
      if (c == '_' || isAlphabetic c) &&
          cs.all (fun c => c == '_' || c == '.' || c == '[' || c == ']' ||
            isAlphabetic c || isNumeric c) then
        some (String.ofList name, rest)
      else none
  | _ => none

def decimal? (input : List Char) : Option (Nat × List Char) :=
  let (digits, rest) := (input.dropWhile Text.isBlank).span Char.isDigit
  if digits.isEmpty then none
  else
    let n := digits.foldl (fun acc c => acc * 10 + (c.toNat - '0'.toNat)) 0
    if n < Nat.pow 2 32 then some (n, rest.dropWhile Text.isBlank) else none

/-- Bounds of a repetition, after the opening brace. -/
def bounds? (f : Flags) (input : List Char) : Option (Nat × Option Nat × List Char) :=
  match decimal? (skipFree f input) with
  | none => none
  | some (low, rest) =>
    match rest with
    | '\x7d' :: rest => some (low, some low, rest)
    | ',' :: rest =>
      match skipFree f rest with
      | '\x7d' :: rest => some (low, none, rest)
      | rest =>
        match decimal? rest with
        | some (high, '\x7d' :: rest) => if low ≤ high then some (low, some high, rest) else none
        | _ => none
    | _ => none

/-- A repetition may be followed by a question mark, which doesn't change what it describes. -/
def dropLazy : List Char → List Char
  | '?' :: rest => rest
  | rest => rest

/-- The items of a sequence so far, the last one first; flags count as an item without expression. -/
abbrev Items := List (Option Expression)

def sequenceOf (items : Items) : Expression :=
  (items.filterMap id).foldl (fun acc e =>
    match acc with
    | .empty => e
    | acc => .seq e acc) .empty

def eitherOf : List Expression → Expression
  | [] => .empty
  | [e] => e
  | e :: es => .either e (eitherOf es)

/-- Reads alternatives up to a closing parenthesis, which is left, or the end. -/
def alternatives : Nat → Flags → List String → List Expression → Items → List Char →
    Option (Expression × List String × List Char)
  | 0, _, _, _, _, _ => none
  | fuel + 1, f, names, done, items, input =>
    let finish (rest : List Char) : Option (Expression × List String × List Char) :=
      some (eitherOf (done ++ [sequenceOf items]), names, rest)
    let push (e : Option Expression) (rest : List Char) :=
      match e with
      | none => none
      | some e => alternatives fuel f names done (some e :: items) rest
    let repeatLast (low : Nat) (high : Option Nat) (rest : List Char) :=
      match items with
      | some e :: items =>
        alternatives fuel f names done (some (.repeated e low high) :: items) (dropLazy rest)
      | _ => none
    let group (f : Flags) (names : List String) (rest : List Char) :=
      match alternatives fuel f names [] [] rest with
      | some (e, names, ')' :: rest) => some (e, names, rest)
      | _ => none
    match skipFree f input with
    | [] => finish []
    | ')' :: rest => finish (')' :: rest)
    | '|' :: rest => alternatives fuel f names (done ++ [sequenceOf items]) [] rest
    | '[' :: rest =>
      match classAfter (rest.length + 1) f rest with
      | none => none
      | some (rs, rest) => push (some (.set rs)) rest
    | '(' :: rest =>
      let nested (r : Option (Expression × List String × List Char)) :=
        match r with
        | none => none
        | some (e, names, rest) => alternatives fuel f names done (some e :: items) rest
      let namedGroup (rest : List Char) :=
        match groupName? rest with
        | none => none
        | some (name, rest) =>
          if names.contains name then none else nested (group f (name :: names) rest)
      match skipFree f rest with
      | '?' :: '=' :: _ => none
      | '?' :: '!' :: _ => none
      | '?' :: '<' :: '=' :: _ => none
      | '?' :: '<' :: '!' :: _ => none
      | '?' :: 'P' :: '<' :: rest => namedGroup rest
      | '?' :: '<' :: rest => namedGroup rest
      | '?' :: rest =>
        match flags? f [] false false rest with
        | none => none
        | some (inner, true, rest) => nested (group inner names rest)
        | some (f, false, rest) => alternatives fuel f names done (none :: items) rest
      | rest => nested (group f names rest)
    | '?' :: rest => repeatLast 0 (some 1) rest
    | '*' :: rest => repeatLast 0 none rest
    | '+' :: rest => repeatLast 1 none rest
    | '\x7b' :: rest =>
      match bounds? f rest with
      | none => none
      | some (low, high, rest) => repeatLast low high (skipFree f rest)
    | '.' :: rest => push (dot? f) rest
    | '^' :: rest => push (some (.look (lineStart f))) rest
    | '$' :: rest => push (some (.look (lineEnd f))) rest
    | '\\' :: rest =>
      match escape? f rest with
      | none => none
      | some (a, rest) => push (atomExpression f a) rest
    | c :: rest => push (atomExpression f (.char c)) rest

/-- The most bytes that the states of an expression may take. -/
def costLimit : Nat := 10 * Nat.pow 2 20

/-- The expression that a text describes. -/
def expression? (source : String) : Option Expression :=
  match alternatives (source.length + 1) {} [] [] [] source.toList with
  | some (e, _, []) => if e.cost ≤ costLimit then some e else none
  | _ => none

end PageExtract.Pattern
