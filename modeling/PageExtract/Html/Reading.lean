import PageExtract.Html.Modes

/-!
From markup to a document. Every text is a document: what isn't well formed is mended.
-/

set_option autoImplicit false

namespace PageExtract.Html

/-- Line ends of every sort become line feeds. -/
def unifyLineEnds : List Char → List Char
  | [] => []
  | c :: rest =>
    if c = '\r' then
      match rest with
      | '\n' :: _ => unifyLineEnds rest
      | _ => '\n' :: unifyLineEnds rest
    else c :: unifyLineEnds rest

def dropByteOrderMark : List Char → List Char
  | [] => []
  | c :: rest => if c = '\uFEFF' then rest else c :: rest

inductive RunKind where
  | null | blank | other
  deriving DecidableEq

def runKind (c : Char) : RunKind :=
  if c = '\x00' then .null else if Lexeme.isSpace c then .blank else .other

/-- Runs of text of one kind; each NUL is a piece of its own. -/
def runs : List Char → List Piece
  | [] => []
  | c :: rest =>
    match runKind c, runs rest with
    | .null, ps => .null :: ps
    | .blank, .blank cs :: ps => .blank (c :: cs) :: ps
    | .blank, ps => .blank [c] :: ps
    | .other, .chars cs :: ps => .chars (c :: cs) :: ps
    | .other, ps => .chars [c] :: ps

def processAll : List Piece → Build Unit
  | [] => pure ()
  | p :: ps => do
    process p
    processAll ps

/-- A doctype counts only before everything else. -/
def processDoctype (d : Doctype) : Build Unit :=
  modify fun b =>
    if b.mode = .initial then
      let (n, doc) := b.doc.make (.doctype (d.name.getD ""))
      { b with doc := doc.append 0 n, outdated := d.isOutdated, mode := .beforeHtml }
    else b

def processToken (t : Token) : Build Unit := do
  let drop := (← get).dropLineFeed
  modify fun b => { b with dropLineFeed := false }
  match t with
  | .doctype d => processDoctype d
  | .startTag t => process (.start t)
  | .endTag t => process (.finish t)
  | .comment s => process (.comment s)
  | .text cs =>
    processAll (runs (match cs with
      | '\n' :: rest => if drop then rest else cs
      | cs => cs))
  | .eof => process .eof

/-- Sections of plain characters are known only in foreign content. -/
def inForeignContent (b : Builder) : Bool :=
  match b.stack with
  | [] => false
  | n :: _ => (b.element n).space != .html

/-- Reads and processes tokens; each token but the last takes at least one character. -/
def build : Nat → List Char → Builder → Builder
  | 0, _, b => b
  | fuel + 1, s, b =>
    match Token.read b.textMode (inForeignContent b) s with
    | (.eof, _) => ((processToken .eof).run b).2
    | (.text [], rest) => build fuel rest b
    | (t, rest) => build fuel rest ((processToken t).run b).2

/-- The document that a markup text describes. -/
def Document.read (markup : String) : Document :=
  let s := unifyLineEnds (dropByteOrderMark markup.toList)
  (build (s.length + 1) s .empty).doc

end PageExtract.Html
