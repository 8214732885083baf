import FormGuard.Pattern.Expr

/-! Search by ordered choice. `run` hands every place a part can end at, in order of preference, to its
continuation and keeps the first success. A loop beyond its least count never starts twice in a
row at the same place, which bounds its rounds by the least count and the length of the subject. -/
namespace FormGuard.Pattern
open FormGuard.Text

/-- What a group took: the text from its start, less the text from its end. -/
structure Capture where
  start : List Char
  stop : List Char
  deriving DecidableEq, Repr

def Capture.text (c : Capture) : List Char := c.start.take (c.start.length - c.stop.length)

structure Cursor where
  -- characters passed, nearest first
  before : List Char
  after : List Char
  index : Nat
  groups : List (Nat × Capture)
  deriving DecidableEq, Repr

abbrev Kont := Cursor → Option Cursor

namespace Cursor

def start (subject : List Char) : Cursor := ⟨[],subject,0,[]⟩

def step? (s : Cursor) : Option (Char × Cursor) :=
  match s.after with
  | [] => none
  | c :: cs => some (c,{ s with before := c :: s.before, after := cs, index := s.index + 1 })

def back? (s : Cursor) : (n : Nat) → Option Cursor
  | 0 => some s
  | n + 1 =>
    match s.before with
    | [] => none
    | c :: cs => back? { s with before := cs, after := c :: s.after, index := s.index - 1 } n

def capture? (s : Cursor) (i : Nat) : Option Capture := s.groups.lookup i

def record (s : Cursor) (i : Nat) (c : Capture) : Cursor :=
  { s with groups := (i,c) :: s.groups.filter (·.1 != i) }

def isWordAt (ascii : Bool) (c : Option Char) : Bool :=
  c.any fun c => Shorthand.word.holds ascii c.toNat

def onWordEdge (s : Cursor) (ascii : Bool) : Bool :=
  isWordAt ascii s.before.head? != isWordAt ascii s.after.head?

def isBreak (c : Option Char) : Bool := c == some '\n'

end Cursor

def Anchor.holds (s : Cursor) : Anchor → Bool
  | textStart => s.before.isEmpty
  | lineStart => s.before.isEmpty || Cursor.isBreak s.before.head?
  | textEnd => s.after.isEmpty
  | lastLineEnd => s.after.isEmpty || s.after == ['\n']
  | lineEnd => s.after.isEmpty || Cursor.isBreak s.after.head?
  | wordEdge ascii => !(s.before.isEmpty && s.after.isEmpty) && s.onWordEdge ascii
  | noWordEdge ascii => !(s.before.isEmpty && s.after.isEmpty) && !s.onWordEdge ascii

def sameFolded : Folding → Char → Char → Bool
  | .exact,c,d => c == d
  | .ascii,c,d => asciiLower c.toNat == asciiLower d.toNat
  | .full,c,d => lower c.toNat == lower d.toNat

def passText (folding : Folding) : (text : List Char) → Cursor → Option Cursor
  | [],s => some s
  | c :: cs,s =>
    match s.step? with
    | some (d,s') => if sameFolded folding c d then passText folding cs s' else none
    | none => none

def moreAllowed (most : Option Nat) (count : Nat) : Bool := most.all (count < ·)

/-- Rounds of `round`, as many as possible first. `last` is where the latest optional round began. -/
def greedyLoop (round : Kont → Kont) (least : Nat) (most : Option Nat) (k : Kont) :
    (fuel count : Nat) → (last : Option Nat) → Kont
  | 0,_,_,_ => none
  | fuel + 1,count,last,s =>
    if count < least then round (greedyLoop round least most k fuel (count + 1) last) s
    else if moreAllowed most count && last != some s.index then
      match round (greedyLoop round least most k fuel (count + 1) (some s.index)) s with
      | some r => some r
      | none => k s
    else k s

def lazyLoop (round : Kont → Kont) (least : Nat) (most : Option Nat) (k : Kont) :
    (fuel count : Nat) → (last : Option Nat) → Kont
  | 0,_,_,_ => none
  | fuel + 1,count,last,s =>
    if count < least then round (lazyLoop round least most k fuel (count + 1) last) s
    else
      match k s with
      | some r => some r
      | none =>
        if moreAllowed most count && last != some s.index then
          round (lazyLoop round least most k fuel (count + 1) (some s.index)) s
        else none

def possessiveLoop (round : Kont) (least : Nat) (most : Option Nat) (k : Kont) :
    (fuel count : Nat) → (last : Option Nat) → Kont
  | 0,_,_,_ => none
  | fuel + 1,count,last,s =>
    if count < least then
      match round s with
      | some s' => possessiveLoop round least most k fuel (count + 1) last s'
      | none => none
    else if moreAllowed most count && last != some s.index then
      match round s with
      | some s' => possessiveLoop round least most k fuel (count + 1) (some s.index) s'
      | none => k s
    else k s

def loopFuel (size least : Nat) : Nat := size + least + 2

def run (size : Nat) : Node → Kont → Kont
  | .empty,k,s => k s
  | .one set,k,s =>
    match s.step? with
    | some (c,s') => if set.holds c then k s' else none
    | none => none
  | .seq a b,k,s => run size a (run size b k) s
  | .alt a b,k,s =>
    match run size a k s with
    | some r => some r
    | none => run size b k s
  | .group i a,k,s => run size a (fun s' => k (s'.record i ⟨s.after,s'.after⟩)) s
  | .sameAs i folding,k,s =>
    match s.capture? i with
    | some c =>
      match passText folding c.text s with
      | some s' => k s'
      | none => none
    | none => none
  | .anchor a,k,s => if a.holds s then k s else none
  | .ahead negated a,k,s =>
    match run size a some s with
    | some s' => if negated then none else k { s with groups := s'.groups }
    | none => if negated then k s else none
  | .behind negated width a,k,s =>
    match (s.back? width).bind (run size a some) with
    | some s' => if negated then none else k { s with groups := s'.groups }
    | none => if negated then k s else none
  | .loop least most .greedy a,k,s =>
    greedyLoop (run size a) least most k (loopFuel size least) 0 none s
  | .loop least most .lazy a,k,s =>
    lazyLoop (run size a) least most k (loopFuel size least) 0 none s
  | .loop least most .possessive a,k,s =>
    possessiveLoop (run size a some) least most k (loopFuel size least) 0 none s
  | .atomic a,k,s =>
    match run size a some s with
    | some s' => k s'
    | none => none
  | .ifGroup i yes no,k,s => if (s.capture? i).isSome then run size yes k s else run size no k s

def searchFrom (size : Nat) (p : Node) : (before after : List Char) → (index : Nat) → Bool
  | before,[],index => (run size p some ⟨before,[],index,[]⟩).isSome
  | before,c :: cs,index =>
    (run size p some ⟨before,c :: cs,index,[]⟩).isSome || searchFrom size p (c :: before) cs (index + 1)

def Node.search (p : Node) (subject : List Char) : Bool := searchFrom subject.length p [] subject 0

end FormGuard.Pattern
