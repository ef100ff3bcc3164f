import PageExtract.Pattern.Parser

/-!
Patterns: regular expressions that keep their source.
-/

set_option autoImplicit false

namespace PageExtract

structure Pattern where
  source : String
  expression : Pattern.Expression
  deriving Repr

namespace Pattern

/-- The pattern with the given source, if that is a regular expression. -/
def compile? (source : String) : Option Pattern :=
  (expression? source).map fun e => ⟨source, e⟩

/-- Some part of the text is described by the pattern. -/
def isMatch (p : Pattern) (s : String) : Bool :=
  p.expression.occursIn s

end Pattern

end PageExtract
