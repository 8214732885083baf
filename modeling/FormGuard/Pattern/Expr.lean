import FormGuard.Text.LetterCase
import FormGuard.Text.Alphabet

/-! Patterns after they have been read: flags are resolved, so every part says for itself whether letter case matters
and which alphabet its classes mean. -/
namespace FormGuard.Pattern
open FormGuard.Text

inductive Folding where
  | exact
  | ascii
  | full
  deriving DecidableEq, Repr

inductive Shorthand where
  | digit
  | blank
  | word
  deriving DecidableEq, Repr

def Shorthand.holds (ascii : Bool) (n : Nat) : Shorthand → Bool
  | digit => if ascii then isAsciiDigit n else isDigit n
  | blank => if ascii then isAsciiBlank n else isBlank n
  | word => if ascii then isAsciiWord n else isWord n

inductive Item where
  | char (n : Nat)
  | range (lo hi : Nat)
  | shorthand (negated : Bool) (s : Shorthand)
  deriving DecidableEq, Repr

structure CharSet where
  negated : Bool
  items : List Item
  folding : Folding
  ascii : Bool
  deriving DecidableEq, Repr

def inRange (lo hi n : Nat) : Bool := lo ≤ n && n ≤ hi

namespace Item

def holds (folding : Folding) (ascii : Bool) (n : Nat) : Item → Bool
  | char m =>
    match folding with
    | .exact => n == m
    | .ascii => asciiLower n == asciiLower m
    | .full => sameLetter n m
  | range lo hi =>
    match folding with
    | .exact => inRange lo hi n
    | .ascii => (asciiVariants n).any (inRange lo hi)
    | .full => inRange lo hi n || (variants n).any (inRange lo hi)
  | shorthand negated s => s.holds ascii n != negated

end Item

namespace CharSet

def holds (s : CharSet) (c : Char) : Bool :=
  s.items.any (Item.holds s.folding s.ascii c.toNat) != s.negated

def anything : CharSet := ⟨true,[],.exact,false⟩
def exceptBreak : CharSet := ⟨true,[.char 10],.exact,false⟩
def single (folding : Folding) (n : Nat) : CharSet := ⟨false,[.char n],folding,false⟩

end CharSet

inductive Anchor where
  | textStart
  | lineStart
  | textEnd
  -- at the end, or before a line break that ends the text
  | lastLineEnd
  | lineEnd
  | wordEdge (ascii : Bool)
  | noWordEdge (ascii : Bool)
  deriving DecidableEq, Repr

inductive Appetite where
  | greedy
  | lazy
  -- greedy, and never giving back
  | possessive
  deriving DecidableEq, Repr

inductive Node where
  | empty
  | one (s : CharSet)
  | seq (a b : Node)
  | alt (a b : Node)
  | group (index : Nat) (body : Node)
  | sameAs (index : Nat) (folding : Folding)
  | anchor (a : Anchor)
  | ahead (negated : Bool) (body : Node)
  | behind (negated : Bool) (width : Nat) (body : Node)
  | loop (least : Nat) (most : Option Nat) (appetite : Appetite) (body : Node)
  | atomic (body : Node)
  | ifGroup (index : Nat) (yes no : Node)
  deriving DecidableEq, Repr

def widthBound : Nat := Nat.pow 2 64

def Node.width (groups : List (Option (Nat × Nat))) : Node → Nat × Nat
  | empty | anchor _ | ahead .. | behind .. => (0,0)
  | one _ => (1,1)
  | seq a b =>
    let (lo,hi) := a.width groups
    let (lo',hi') := b.width groups
    (min (lo + lo') widthBound,min (hi + hi') widthBound)
  | alt a b =>
    let (lo,hi) := a.width groups
    let (lo',hi') := b.width groups
    (min lo lo',max hi hi')
  | group _ a | atomic a => a.width groups
  | sameAs i _ => ((groups.getD (i - 1) none).getD (0,0))
  | loop least most _ a =>
    let (lo,hi) := a.width groups
    (min (lo * least) widthBound,
      match most with
      | some m => min (hi * m) widthBound
      | none => if hi = 0 then 0 else widthBound)
  | ifGroup _ a b =>
    let (lo,hi) := a.width groups
    let (lo',hi') := b.width groups
    (min lo lo',max hi hi')

end FormGuard.Pattern
