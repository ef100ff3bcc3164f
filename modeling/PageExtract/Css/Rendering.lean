import PageExtract.Css.Token
import PageExtract.Json.Number
import PageExtract.Text.Quoted

/-!
Why a text is no selector, and how messages show a token.
-/

set_option autoImplicit false

namespace PageExtract.Css

open Json (Binary64)

/-- A number with 24 binary digits, nearest to the numeral. -/
def Numeral.single (n : Numeral) : Binary64 :=
  let (num, den) := match n.exponent with
    | .ofNat e => (n.digits * Nat.pow 10 e, 1)
    | .negSucc e => (n.digits, Nat.pow 10 (e + 1))
  { Binary64.nearestIn 24 (-149) num den with negative := n.negative }

/-- The hundredth part, rounded once more. -/
def hundredth (x : Binary64) : Binary64 :=
  let (num, den) := x.ratio
  { Binary64.nearestIn 24 (-149) num (den * 100) with negative := x.negative }

/-- The shortest digits, never with an exponent, no fraction if there is none. -/
def singleText (x : Binary64) : List Char :=
  let magnitude :=
    if x.isZero then ['0']
    else
      let (digits, exponent) := Binary64.shortestIn (Binary64.intervalOf (Nat.pow 2 23) (-149) x) x
      let ds := Nat.toDigits 10 digits
      if 0 ≤ exponent then ds ++ List.replicate exponent.toNat '0'
      else Json.Number.positional ds (exponent + ds.length)
  if x.negative then '-' :: magnitude else magnitude

/-- A number with a sign is shown with one more. -/
def shownSingle (signed : Bool) (x : Binary64) : String :=
  let text := String.ofList (singleText x)
  if signed then (if !x.negative && !x.isZero then "+" else "-") ++ text else text

def Bracket.shownOpen : Bracket → String
  | .round => "<("
  | .square => "<["
  | .curly => "<\x7b"

def Bracket.shownClose : Bracket → String
  | .round => "<)"
  | .square => "<]"
  | .curly => "<\x7d"

def Token.shown : Token → String
  | .ident s => s
  | .atKeyword s => "@" ++ s
  | .hash s | .idHash s => "#" ++ s
  | .string s => "\"" ++ s ++ "\""
  | .badString s => "<Bad String " ++ Text.quoted s ++ ">"
  | .url s => "url(" ++ s ++ ")"
  | .badUrl s => "<Bad URL " ++ Text.quoted s ++ ">"
  | .delim c => String.ofList [c]
  | .number n => shownSingle n.signed n.single
  | .percentage n => shownSingle n.signed (hundredth n.single) ++ "%"
  | .dimension n unit => shownSingle n.signed n.single ++ unit
  | .blank => " "
  | .colon => ":"
  | .semicolon => ";"
  | .comma => ","
  | .includeMatch => "~="
  | .dashMatch => "|="
  | .prefixMatch => "^="
  | .suffixMatch => "$="
  | .substringMatch => "*="
  | .cdo => "<!--"
  | .cdc => "-->"
  | .function name _ => name ++ "()"
  | .block b _ => b.shownOpen
  | .close b => b.shownClose

inductive SelectorProblem where
  | endOfInput
  | unexpected (shown : String)
  | expectedName (shown : String)
  | notASelector
  deriving DecidableEq, Repr

def SelectorProblem.message : SelectorProblem → String
  | .endOfInput => "Unexpected EOL"
  | .unexpected shown => "Token " ++ Text.quoted shown ++ " was not expected"
  | .expectedName shown =>
    "Expected identity for pseudoelement, got " ++ Text.quoted shown ++ " instead"
  | .notASelector => "Unexpected error occurred. Please report this to the developer"

end PageExtract.Css
