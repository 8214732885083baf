import FormGuard.Calendar.Instant
import FormGuard.Number.Numeral
import FormGuard.Value.Text

/-! Comparison of a field's value with a bound, under an operator named in the catalog. Whatever has no order
compares as false under the operators of order; an operator nobody knows compares as false. -/
namespace FormGuard

inductive Operator where
  | less
  | atMost
  | greater
  | atLeast
  | same
  | different
  deriving DecidableEq, Repr

namespace Operator

def spellings : List (String × Operator) :=
  [("<",less),("<=",atMost),(">",greater),(">=",atLeast),("=",same),("==",same),
   ("!=",different),("<>",different)]

def named? (s : String) : Option Operator := spellings.lookup s

end Operator

inductive Operand where
  | value (v : Value)
  | instant (i : Instant)
  deriving Repr

namespace Operand

def number (x : Binary64) : Operand := value (.float x)

def equals : Operand → Operand → Bool
  | value v,value w => v.equals w
  | instant i,instant j => i == j
  | _,_ => false

def standing : Operand → Operand → Value.Standing
  | value v,value w => v.standing w
  | instant i,instant j => .ordered (i.order j)
  | _,_ => .unordered

end Operand

def Operator.holds (op : Operator) (a b : Operand) : Bool :=
  match op with
  | same => a.equals b
  | different => !a.equals b
  | less => a.standing b == .ordered .lt
  | atMost => a.standing b == .ordered .lt || a.standing b == .ordered .eq
  | greater => a.standing b == .ordered .gt
  | atLeast => a.standing b == .ordered .gt || a.standing b == .ordered .eq

def compareNamed (name : String) (a b : Operand) : Bool :=
  match Operator.named? name with
  | some op => op.holds a b
  | none => false

/-- The operator may be any value; only a text names one, and a list or object cannot be looked up. -/
def compareUnder (name : Value) (a b : Operand) : Except Fault Bool :=
  match name with
  | .text s => .ok (compareNamed s a b)
  | v => if v.canName then .ok false else .error .badKind

def leadingNumber (v : Value) : Except Fault Binary64 :=
  match v with
  | .bool _ | .null => .ok .nan
  | .int n =>
    match Binary64.ofInt? n with
    | some x => .ok x
    | none => .error .overflow
  | .float x => .ok x
  | v => do
    let s ← v.textOf
    match Numeral.leading? s.toList with
    | none => .ok .nan
    | some start =>
      match Numeral.readDecimal? start with
      | some x => .ok x
      | none => .error .badValue

end FormGuard
