import FormGuard.Text.Pieces

/-! Pattern templates: `$1`, `$2`, … stand for parameters, which are inserted so that they match
themselves only. The places are filled one number after the other, each in the text filled so far. -/
namespace FormGuard.Pattern
open FormGuard.Text

def specialChars : List Char :=
  ['(',')','[',']','\x7b','\x7d','?','*','+','-','|','^','$','\\','.','&','~','#',' ','\t','\n',
   '\r','\x0b','\x0c']

def escapeChar (c : Char) : List Char := if specialChars.contains c then ['\\',c] else [c]

def escape (cs : List Char) : List Char := cs.flatMap escapeChar

def placeholder (i : Nat) : List Char := '$' :: Nat.toDigits 10 i

def fillFrom (i : Nat) : (params : List (List Char)) → (template : List Char) → List Char
  | [],cs => cs
  | p :: ps,cs => fillFrom (i + 1) ps (replaceAll (placeholder i) (escape p) cs)

def fill (template : List Char) (params : List (List Char)) : List Char := fillFrom 1 params template

end FormGuard.Pattern
