import PageExtract.Json.Fault

/-!
A place in a text with the characters that are left.
-/

set_option autoImplicit false

namespace PageExtract.Json

structure Cursor where
  rest : List Char
  position : Position

namespace Cursor

def start (s : String) : Cursor := ⟨s.toList, ⟨1, 0⟩⟩

/-- The place after a character that is passed whole. -/
def after (p : Position) (c : Char) : Position :=
  if c = '\n' then ⟨p.line + 1, 0⟩ else ⟨p.line, p.column + c.utf8Size⟩

/-- The place after the first byte of a character. -/
def afterByte (p : Position) (c : Char) : Position :=
  if c = '\n' then ⟨p.line + 1, 0⟩ else ⟨p.line, p.column + 1⟩

/-- The place after the next `n` bytes, which may end inside a character. -/
def afterBytes (p : Position) : Nat → List Char → Position
  | 0, _ => p
  | _, [] => p
  | n + 1, c :: rest =>
    if n + 1 < c.utf8Size then ⟨p.line, p.column + (n + 1)⟩
    else afterBytes (after p c) (n + 1 - c.utf8Size) rest

def advance (c : Cursor) : Cursor :=
  match c.rest with
  | [] => c
  | x :: rest => ⟨rest, after c.position x⟩

/-- The place where all that is left has been passed. -/
def finish (c : Cursor) : Cursor :=
  ⟨[], c.rest.foldl after c.position⟩

def skipBlanksFrom : Position → List Char → Cursor
  | p, [] => ⟨[], p⟩
  | p, x :: rest =>
    if x = ' ' ∨ x = '\n' ∨ x = '\t' ∨ x = '\r' then skipBlanksFrom (after p x) rest
    else ⟨x :: rest, p⟩

/-- Passes spaces, tabs and line ends. -/
def skipBlanks (c : Cursor) : Cursor :=
  skipBlanksFrom c.position c.rest

/-- A fault at the characters already passed. -/
def fault (c : Cursor) (p : Problem) : Fault := ⟨p, some c.position⟩

/-- A fault at the next byte. -/
def faultAhead (c : Cursor) (p : Problem) : Fault :=
  ⟨p, some (match c.rest with
    | [] => c.position
    | x :: _ => afterByte c.position x)⟩

def peek? (c : Cursor) : Option Char := c.rest.head?

end Cursor

/-- A fault without a place is placed at the characters passed so far. -/
def Fault.placedAt (f : Fault) (c : Cursor) : Fault :=
  match f.position with
  | none => ⟨f.problem, some c.position⟩
  | some _ => f

/-- Reads something at a cursor and moves on. -/
abbrev Reader (α : Type) := Cursor → Except Fault (α × Cursor)

end PageExtract.Json
