import PageExtract.Json.Printer
import PageExtract.Params

/-!
Placeholders: tokens of two opening braces, a path and two closing braces in the strings of a
spec. A string that is one token becomes the parameter itself; in any other string each token
becomes the text of its parameter.
-/

set_option autoImplicit false

namespace PageExtract.Substitution

open Json (Value)

/-- The path of a token, after its opening braces: everything up to the first closing braces, on
one line. -/
def tokenPath? : List Char → Option (List Char)
  | [] => none
  | c :: rest =>
    if c = '\n' then none
    else if c = '\x7d' ∧ rest.head? = some '\x7d' then some []
    else (tokenPath? rest).map (c :: ·)

/-- The path of a token that starts here. -/
def token? : List Char → Option (List Char)
  | '\x7b' :: '\x7b' :: rest => tokenPath? rest
  | _ => none

inductive Piece where
  | char (c : Char)
  | token (path : List Char)
  deriving DecidableEq, Repr

/-- The pieces of a text after some characters that belong to a token already read. -/
def piecesAfter : Nat → List Char → List Piece
  | _, [] => []
  | n + 1, _ :: rest => piecesAfter n rest
  | 0, c :: rest =>
    match token? (c :: rest) with
    | some path => .token path :: piecesAfter (path.length + 3) rest
    | none => .char c :: piecesAfter 0 rest

def pieces (s : List Char) : List Piece :=
  piecesAfter 0 s

/-- What a parameter is inside of a longer text. -/
def textOf? : Spec → Option String
  | .selector s => some s
  | .literal v => some v.text
  | .pattern p => some p.source
  | _ => none

def pieceText (params : Params) : Piece → List Char
  | .char c => [c]
  | .token path =>
    match (params.lookup? path).bind textOf? with
    | some t => t.toList
    | none => []

def isToken : Piece → Bool
  | .token _ => true
  | .char _ => false

def string (params : Params) (s : String) : Spec :=
  match pieces s.toList with
  | [.token path] => (params.lookup? path).getD .missing
  | ps =>
    if ps.any isToken then .selector (String.ofList (ps.flatMap (pieceText params)))
    else .selector s

end Substitution

namespace Spec

open Substitution

mutual

/-- The spec with parameters in place of its placeholders; keys stay as they are. -/
def substitute (params : Params) : Spec → Spec
  | .selector s => string params s
  | .list items => .list (substituteItems params items)
  | .map entries => .map (substituteEntries params entries)
  | .missing => .missing
  | .literal v => .literal v
  | .pattern p => .pattern p
  | .predicate test => .predicate test
  termination_by structural s => s

def substituteItems (params : Params) : List Spec → List Spec
  | [] => []
  | s :: ss => substitute params s :: substituteItems params ss
  termination_by structural ss => ss

def substituteEntries (params : Params) : List (String × Spec) → List (String × Spec)
  | [] => []
  | (k, s) :: es => (k, substitute params s) :: substituteEntries params es
  termination_by structural es => es

end

end Spec

end PageExtract
