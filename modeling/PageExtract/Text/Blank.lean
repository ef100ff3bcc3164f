/-!
Blank characters and the words between them. Main definitions: `trim` cuts blanks at both ends,
`words` splits at runs of blanks, `collapse` joins the words by single spaces.
-/

set_option autoImplicit false

namespace PageExtract.Text

/-- The characters with the Unicode property White_Space. -/
def isBlank (c : Char) : Bool :=
  let n := c.toNat
  (0x9 ≤ n && n ≤ 0xD) || n == 0x20 || n == 0x85 || n == 0xA0 || n == 0x1680 ||
  (0x2000 ≤ n && n ≤ 0x200A) || n == 0x2028 || n == 0x2029 || n == 0x202F || n == 0x205F ||
  n == 0x3000

def trim (s : List Char) : List Char :=
  ((s.dropWhile isBlank).reverse.dropWhile isBlank).reverse

def words : List Char → List (List Char)
  | [] => []
  | c :: rest =>
    if isBlank c then words rest
    else match rest with
      | [] => [[c]]
      | d :: _ =>
        if isBlank d then [c] :: words rest
        else match words rest with
          | [] => [[c]]
          | w :: ws => (c :: w) :: ws

def joinWords : List (List Char) → List Char
  | [] => []
  | [w] => w
  | w :: ws => w ++ ' ' :: joinWords ws

/-- Words separated by single spaces, no blank at either end. -/
def collapse (s : List Char) : List Char :=
  joinWords (words s)

/-- A text without any character but blanks. -/
def isAllBlank (s : String) : Bool :=
  s.toList.all isBlank

def trimmed (s : String) : String :=
  String.ofList (trim s.toList)

end PageExtract.Text
