import FormGuard.Fault
import FormGuard.Number.Binary64
import FormGuard.Table

/-! The values a form field, an attribute or a document can hold. Integers and binary64 numbers are told apart
but compare by magnitude; `true` and `false` compare as one and zero. The fields of an object have
distinct names and keep the order of their first entry. -/
namespace FormGuard

inductive Value where
  | null
  | bool (b : Bool)
  | int (n : Int)
  | float (x : Binary64)
  | text (s : String)
  | list (items : List Value)
  | object (fields : List (String × Value))
  deriving Repr, Inhabited

namespace Value

abbrev Fields := Table Value

def truthy : Value → Bool
  | null => false
  | bool b => b
  | int n => n != 0
  | float x => !x.isZero
  | text s => s != ""
  | list items => !items.isEmpty
  | object fields => !fields.isEmpty

def canName : Value → Bool
  | list _ => false
  | object _ => false
  | _ => true

def kindName : Value → String
  | null => "NoneType"
  | bool _ => "bool"
  | int _ => "int"
  | float _ => "float"
  | text _ => "str"
  | list _ => "list"
  | object _ => "dict"

def amount? : Value → Option (Int ⊕ Binary64)
  | bool b => some (.inl b.toNat)
  | int n => some (.inl n)
  | float x => some (.inr x)
  | _ => none

def compareAmounts? : Int ⊕ Binary64 → Int ⊕ Binary64 → Option Ordering
  | .inl m,.inl n => some (compare m n)
  | .inl m,.inr y => (y.compareInt? m).map Ordering.swap
  | .inr x,.inl n => x.compareInt? n
  | .inr x,.inr y => x.compare? y

def equalAmounts (a : Int ⊕ Binary64) (w : Value) : Bool :=
  w.amount?.bind (compareAmounts? a) == some .eq

mutual

def equals : Value → Value → Bool
  | null,null => true
  | text s,text t => s == t
  | list xs,list ys => equalLists xs ys
  | object fs,object gs => fs.length == gs.length && equalFields fs gs
  | bool b,w => equalAmounts (.inl b.toNat) w
  | int n,w => equalAmounts (.inl n) w
  | float x,w => equalAmounts (.inr x) w
  | _,_ => false

def equalLists : List Value → List Value → Bool
  | [],[] => true
  | x :: xs,y :: ys => equals x y && equalLists xs ys
  | _,_ => false

def equalFields : List (String × Value) → List (String × Value) → Bool
  | [],_ => true
  | (n,v) :: rest,gs =>
    (match gs.lookup n with
      | some w => equals v w
      | none => false) && equalFields rest gs

end

/-- How two values stand to each other: their kinds have no order, a number compared is none, or they are ordered. -/
inductive Standing where
  | unordered
  | noNumber
  | ordered (o : Ordering)
  deriving DecidableEq, Repr

def compareChars : List Char → List Char → Ordering
  | [],[] => .eq
  | [],_ :: _ => .lt
  | _ :: _,[] => .gt
  | c :: cs,d :: ds => if c = d then compareChars cs ds else compare c.toNat d.toNat

def amountStanding (a : Int ⊕ Binary64) (w : Value) : Standing :=
  match w.amount? with
  | none => .unordered
  | some b =>
    match compareAmounts? a b with
    | none => .noNumber
    | some o => .ordered o

mutual

def standing : Value → Value → Standing
  | text s,text t => .ordered (compareChars s.toList t.toList)
  | list xs,list ys => listStanding xs ys
  | bool b,w => amountStanding (.inl b.toNat) w
  | int n,w => amountStanding (.inl n) w
  | float x,w => amountStanding (.inr x) w
  | _,_ => .unordered

def listStanding : List Value → List Value → Standing
  | [],[] => .ordered .eq
  | [],_ :: _ => .ordered .lt
  | _ :: _,[] => .ordered .gt
  | x :: xs,y :: ys => if equals x y then listStanding xs ys else standing x y

end

end Value
end FormGuard
