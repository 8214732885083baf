import FormGuard.Calendar.Instant
import FormGuard.Number.Numeral
import FormGuard.Text.LetterCase
import FormGuard.Text.Pieces

/-! Written dates. A layout fixes the order of day, month and year; the separator is read from the
text itself. Long layouts go on to read a time, short ones have two-digit years and no time. -/
namespace FormGuard

inductive Layout where
  | iso
  | usShort
  | usLong
  | euroShort
  | euroLong
  deriving DecidableEq, Repr

namespace Layout

def name : Layout → String
  | iso => "ISO"
  | usShort => "US_SHORT"
  | usLong => "US_LONG"
  | euroShort => "EURO_SHORT"
  | euroLong => "EURO_LONG"

def spellings : List (String × Layout) :=
  [("ISO",iso),("EURO_LONG",euroLong),("EURO-LONG",euroLong),("UK",euroShort),("EURO",euroShort),
   ("EUROPE",euroShort),("EURO_SHORT",euroShort),("EURO-SHORT",euroShort),("US_LONG",usLong),
   ("US-LONG",usLong),("US",usShort),("US_SHORT",usShort),("US-SHORT",usShort)]

def named? (s : String) : Option Layout := spellings.lookup (Text.upperText s)

def isShort : Layout → Bool
  | usShort | euroShort => true
  | _ => false

def width (l : Layout) : Nat := if l.isShort then 8 else 10

def separatorAt : Layout → Nat
  | iso => 4
  | _ => 2

def separators : List Char := ['-','/','.']

def separator (l : Layout) (cs : List Char) : Char :=
  match cs[l.separatorAt]? with
  | some c => if separators.contains c then c else '-'
  | none => '-'

def arrange {α} : Layout → α → α → α → α × α × α
  | iso,a,b,c => (a,b,c)
  | usShort,a,b,c | usLong,a,b,c => (c,a,b)
  | euroShort,a,b,c | euroLong,a,b,c => (c,b,a)

def yearOf (l : Layout) (written : Int) : Int :=
  if l.isShort then if written < 50 then 2000 + written else 1900 + written else written

def readTime? (cs : List Char) : Option (Int × Int × Int) :=
  match Text.splitOn ':' cs with
  | [h,m,s] => do return (← Numeral.readInt? h,← Numeral.readInt? m,← Numeral.readInt? s)
  | _ => some (0,0,0)

def timePart (l : Layout) (cs : List Char) : List Char := if l.isShort then [] else cs.drop 11

def reading? (l : Layout) (cs : List Char) : Option Instant.Reading :=
  match Text.splitOn (l.separator cs) (cs.take l.width) with
  | a :: b :: c :: _ => do
    let (y,m,d) := l.arrange a b c
    let year ← Numeral.readInt? y
    let (hour,minute,second) ← readTime? (l.timePart cs)
    let month ← Numeral.readInt? m
    let day ← Numeral.readInt? d
    return ⟨l.yearOf year,month,day,hour,minute,second⟩
  | _ => none

def read (l : Layout) (cs : List Char) : Except Fault Instant :=
  match l.reading? cs with
  | some r => r.instant
  | none => .error .badValue

end Layout
end FormGuard
