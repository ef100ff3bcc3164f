import PageExtract.Text.CompositionTable

/-!
Composed text: characters taken apart, combining characters put in the order of their classes, and
pairs joined again where a character exists for them.
-/

set_option autoImplicit false

namespace PageExtract.Text

/-- Entries `left>right` of a table, the right side separated by commas. -/
def tableEntries (s : String) : List (List Char × List Nat) :=
  (words s.toList).map fun entry =>
    (entry.takeWhile (· ≠ '>'),
      (splitAt ',' ((entry.dropWhile (· ≠ '>')).drop 1)).map Ranges.number)

def joinedTable : List (Nat × List Nat) :=
  (tableEntries joinedText).map fun e => (Ranges.number e.1, e.2)

def splitTable : List (Nat × List Nat) :=
  (tableEntries splitText).map fun e => (Ranges.number e.1, e.2)

def classTable : List (Ranges × Nat) :=
  (tableEntries classText).map fun e => ([Ranges.ofWord e.1], e.2.headD 0)

/-- The class of a combining character, zero for all others. -/
def combiningClass (c : Char) : Nat :=
  if c.toNat < 0x300 then 0
  else ((classTable.find? fun e => e.1.contains c.toNat).map (·.2)).getD 0

/-- The parts of a character; syllables of Hangul are made of two or three by position. -/
def parts (c : Char) : List Nat :=
  let n := c.toNat
  if n < 0xC0 then [n]
  else if 0xAC00 ≤ n ∧ n ≤ 0xD7A3 then
    let place := n - 0xAC00
    let tail := place % 28
    [0x1100 + place / 588, 0x1161 + place % 588 / 28] ++ if tail = 0 then [] else [0x11A7 + tail]
  else match (joinedTable ++ splitTable).lookup n with
    | some ps => ps
    | none => [n]

def takenApart : Nat → Char → List Char
  | 0, c => [c]
  | depth + 1, c =>
    match parts c with
    | [n] => if n = c.toNat then [c] else takenApart depth (Char.ofNat n)
    | ns => ns.flatMap fun n => takenApart depth (Char.ofNat n)

/-- Puts a character before those of a higher class at the end, given from the end. -/
def place (c : Char) : List Char → List Char
  | [] => [c]
  | d :: ds =>
    if combiningClass c ≠ 0 ∧ combiningClass c < combiningClass d then d :: place c ds
    else c :: d :: ds

def joined? (a b : Char) : Option Char :=
  let x := a.toNat
  let y := b.toNat
  if 0x1100 ≤ x ∧ x ≤ 0x1112 ∧ 0x1161 ≤ y ∧ y ≤ 0x1175 then
    some (Char.ofNat (0xAC00 + ((x - 0x1100) * 21 + (y - 0x1161)) * 28))
  else if 0xAC00 ≤ x ∧ x ≤ 0xD7A3 ∧ (x - 0xAC00) % 28 = 0 ∧ 0x11A8 ≤ y ∧ y ≤ 0x11C2 then
    some (Char.ofNat (x + (y - 0x11A7)))
  else if y < 0x300 then none
  else (joinedTable.find? fun e => e.2 == [x, y]).map fun e => Char.ofNat e.1

/-- Text being joined: what is finished, the starter that may still grow, what follows it, from its
end, and the class of the last one there. -/
structure Joining where
  done : List Char
  starter : Option Char
  after : List Char

def Joining.push (j : Joining) (c : Char) : Joining :=
  match j.starter with
  | none =>
    if combiningClass c = 0 then ⟨j.done, some c, []⟩ else ⟨j.done ++ [c], none, []⟩
  | some s =>
    let blocked := match j.after with
      | [] => false
      | d :: _ => combiningClass d == 0 || combiningClass c ≤ combiningClass d
    match if blocked then none else joined? s c with
    | some whole => { j with starter := some whole }
    | none =>
      if combiningClass c = 0 then ⟨j.done ++ s :: j.after.reverse, some c, []⟩
      else { j with after := c :: j.after }

def composed (s : List Char) : List Char :=
  if s.all (·.toNat < 0x300) then s
  else
    let apart := (s.flatMap (takenApart 8)).foldl (fun acc c => place c acc) []
    let j := apart.reverse.foldl Joining.push ⟨[], none, []⟩
    j.done ++ (match j.starter with
      | some c => c :: j.after.reverse
      | none => [])

end PageExtract.Text
