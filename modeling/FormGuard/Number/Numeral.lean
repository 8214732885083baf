import FormGuard.Number.Binary64
import FormGuard.Text.Alphabet

/-! Numbers written in a text. Digits of every script count as digits; blanks may stand around the numeral (tab to
carriage return, space, and the white space beyond ASCII); single underscores may stand between digits. An integer has at
most `digitLimit` digits. -/
namespace FormGuard.Numeral
open FormGuard.Text

def digitLimit : Nat := 4300

def plain (c : Char) : Char :=
  let n := c.toNat
  if n < 128 then c
  else if isBlank n then ' '
  else match digitValue? n with
    | some d => Char.ofNat (48 + d)
    | none => c

def dropBlanks : List Char → List Char := List.dropWhile (fun c => isAsciiBlank c.toNat)

def trim (cs : List Char) : List Char := (dropBlanks (dropBlanks cs).reverse).reverse

def isDigit (c : Char) : Bool := isAsciiDigit c.toNat

def natOf (ds : List Char) : Nat := ds.foldl (fun n d => 10 * n + (d.toNat - 48)) 0

def sign : List Char → Bool × List Char
  | '-' :: cs => (true,cs)
  | '+' :: cs => (false,cs)
  | cs => (false,cs)

def dropUnderscores? (cs : List Char) : Option (List Char) := go none cs
where
  go : (previous : Option Char) → List Char → Option (List Char)
    | previous,[] => if previous = some '_' then none else some []
    | previous,c :: cs =>
      if c = '_' then
        if previous.any isDigit then go (some c) cs else none
      else if previous = some '_' ∧ ¬ isDigit c then none
      else (go (some c) cs).map (c :: ·)

def readInt? (cs : List Char) : Option Int := do
  let (negative,body) := sign (trim (cs.map plain))
  let ds ← dropUnderscores? body
  if ds.isEmpty || !ds.all isDigit || digitLimit < ds.length then none
  else
    let n : Int := natOf ds
    some (if negative then -n else n)

def exponent? : List Char → Option (Int × List Char)
  | c :: cs =>
    if c = 'e' ∨ c = 'E' then
      let (negative,body) := sign cs
      let ds := body.takeWhile isDigit
      if ds.isEmpty then none
      else
        let n : Int := natOf ds
        some (if negative then -n else n,body.dropWhile isDigit)
    else none
  | [] => none

def unsigned? (cs : List Char) : Option (Nat × Int × List Char) :=
  let whole := cs.takeWhile isDigit
  let (part,rest) :=
    match cs.dropWhile isDigit with
    | '.' :: cs => (cs.takeWhile isDigit,cs.dropWhile isDigit)
    | cs => ([],cs)
  if whole.isEmpty && part.isEmpty then none
  else
    let (e,rest) := (exponent? rest).getD (0,rest)
    some (natOf (whole ++ part),e - part.length,rest)

def isSpelled (word : String) (cs : List Char) : Bool := cs.map Char.toLower == word.toList

def readDecimal? (cs : List Char) : Option Binary64 := do
  let cs ← dropUnderscores? (trim (cs.map plain))
  let (negative,body) := sign cs
  if isSpelled "nan" body then some .nan
  else if isSpelled "inf" body || isSpelled "infinity" body then some (.infinite negative)
  else
    let (digits,exponent,rest) ← unsigned? body
    if rest.isEmpty then some (.ofDecimal negative digits exponent) else none

/-- The longest start of the text that is white space followed by a number. -/
def leading? (cs : List Char) : Option (List Char) :=
  let blanks := cs.takeWhile (fun c => isBlank c.toNat)
  let body := (cs.drop blanks.length).map plain
  match unsigned? (sign body).2 with
  | some (_,_,rest) => some (cs.take (cs.length - rest.length))
  | none => none

end FormGuard.Numeral
