import PageExtract.Pattern.Escape

/-!
Character sets in brackets: ranges, named sets, nested brackets and the operations between them.
-/

set_option autoImplicit false

namespace PageExtract.Pattern

open PageExtract.Text (Ranges)

inductive SetOperation where
  | both | without | oneOf
  deriving DecidableEq

namespace SetOperation

def apply : SetOperation → Ranges → Ranges → Ranges
  | .both, a, b => Ranges.inter a b
  | .without, a, b => Ranges.diff a b
  | .oneOf, a, b => Ranges.diff a b ++ Ranges.diff b a

end SetOperation

/-- The operation whose right side is being read, with its left side. -/
abbrev Pending := Option (SetOperation × Ranges)

def foldIf (f : Flags) (rs : Ranges) : Ranges :=
  (f.adjust false rs).getD rs

def Pending.close (f : Flags) (pending : Pending) (members : Ranges) : Ranges :=
  match pending with
  | none => members
  | some (op, left) => op.apply (foldIf f left) (foldIf f members)

/-- A named set after its opening bracket, as in `[:alpha:]`. -/
def namedClass? (input : List Char) : Option (Ranges × List Char) :=
  match input with
  | ':' :: rest =>
    let (negated, rest) := match rest with
      | '^' :: rest => (true, rest)
      | _ => (false, rest)
    match rest.span (· != ':') with
    | (name, ':' :: ']' :: rest) =>
      (asciiClass? (String.ofList name)).map fun rs =>
        (if negated then Ranges.complement rs else rs, rest)
    | _ => none
  | _ => none

/-- One character or set inside brackets. -/
def classItem? (f : Flags) : List Char → Option (Atom × List Char)
  | [] => none
  | '\\' :: rest =>
    match escape? f rest with
    | some (.look _, _) => none
    | r => r
  | c :: rest => if !f.unicode && 0x7F < c.toNat then none else some (.char c, rest)

def atomRanges : Atom → Ranges
  | .char c => [(c.toNat, c.toNat)]
  | .set rs => rs
  | .look _ => []

/-- An item, or a range between two characters. -/
def classRange? (f : Flags) (input : List Char) : Option (Ranges × List Char) :=
  match classItem? f input with
  | none => none
  | some (first, rest) =>
    match skipFree f rest with
    | [] => none
    | '-' :: tail =>
      match skipFree f tail with
      | ']' :: _ => some (atomRanges first, '-' :: tail)
      | '-' :: _ => some (atomRanges first, '-' :: tail)
      | tail =>
        match first, classItem? f tail with
        | .char low, some (.char high, rest) =>
          if low.toNat ≤ high.toNat then some ([(low.toNat, high.toNat)], rest) else none
        | _, _ => none
    | rest => some (atomRanges first, rest)

/-- After the opening bracket: whether the set is negated, and the members that only the first
place allows. -/
def classStart (f : Flags) (input : List Char) : Bool × Ranges × List Char :=
  let input := skipFree f input
  let (negated, input) := match input with
    | '^' :: rest => (true, skipFree f rest)
    | _ => (false, input)
  let rec dashes : Nat → Ranges → List Char → Ranges × List Char
    | fuel + 1, acc, '-' :: rest => dashes fuel ((0x2D, 0x2D) :: acc) (skipFree f rest)
    | _, acc, rest => (acc, rest)
  match dashes input.length [] input with
  | ([], ']' :: rest) => (negated, [(0x5D, 0x5D)], skipFree f rest)
  | (members, rest) => (negated, members, rest)

mutual

/-- A set after its opening bracket. -/
def classAfter : Nat → Flags → List Char → Option (Ranges × List Char)
  | 0, _, _ => none
  | fuel + 1, f, input =>
    let (negated, members, rest) := classStart f input
    match classMembers fuel f none members rest with
    | none => none
    | some (members, rest) => (f.adjust negated members).map fun rs => (rs, rest)

def classMembers : Nat → Flags → Pending → Ranges → List Char → Option (Ranges × List Char)
  | 0, _, _, _, _ => none
  | fuel + 1, f, pending, members, input =>
    match skipFree f input with
    | [] => none
    | '[' :: rest =>
      match namedClass? rest with
      | some (rs, rest) => classMembers fuel f pending (members ++ rs) rest
      | none =>
        match classAfter fuel f rest with
        | none => none
        | some (rs, rest) => classMembers fuel f pending (members ++ rs) rest
    | ']' :: rest => some (pending.close f members, rest)
    | '&' :: '&' :: rest => classMembers fuel f (some (.both, pending.close f members)) [] rest
    | '-' :: '-' :: rest => classMembers fuel f (some (.without, pending.close f members)) [] rest
    | '~' :: '~' :: rest => classMembers fuel f (some (.oneOf, pending.close f members)) [] rest
    | input =>
      match classRange? f input with
      | none => none
      | some (rs, rest) => classMembers fuel f pending (members ++ rs) rest

end

end PageExtract.Pattern
