import FormGuard.Check.Comparison
import FormGuard.Message.Translator
import FormGuard.Pattern.Matching

/-! The verdict of one rule on one value. The check of the rule runs first, and may break down; a field that is disabled, or
empty without being required, passes whatever the check says. -/
namespace FormGuard

structure FieldContext where
  fieldName : String
  isRequired : Bool
  isDisabled : Bool
  inputType : String
  -- the current value of another field
  lookup : Option (String → Value)

structure RuleResult where
  descriptor : Descriptor
  valid : Bool
  messageKey : String
  message : String
  deriving Repr

def nonEmptyPattern : String := "\\S+"
def keyCharMessage : String := "INVALID_KEY_CHAR"

def isEmptyText : Value → Bool
  | .text s => s == ""
  | _ => false

def isEmpty (v : Value) : Bool :=
  match v with
  | .null => true
  | v => isEmptyText v

def subjectOf : Value → Except Fault String
  | .null => .ok ""
  | v => v.textOf

def searchIn (pattern : String) (subject : String) : Except Failure Bool :=
  match Pattern.read .caseless pattern.toList with
  | .ok p => .ok (p.search subject.toList)
  | .error d => .error (.fault d.fault)

def FieldContext.isNumberInput (ctx : FieldContext) : Bool := Text.lowerText ctx.inputType == "number"

/-- The operator for one of two bounds; of a single operator, its characters are taken. -/
def Condition.side (c : Condition) (i : Nat) : Except Fault String :=
  match c with
  | .absent => .error .badKind
  | .single s =>
    match s.toList[i]? with
    | some ch => .ok (String.singleton ch)
    | none => .error .badPosition
  | .several ops =>
    match ops[i]? with
    | some op => .ok op
    | none => .error .badPosition

def withinBounds (c : Condition) (v : Operand) (bounds : List Operand) : Except Fault Bool :=
  match bounds with
  | [low,high] => do
    let first ← c.side 0
    if compareNamed first v low then
      let second ← c.side 1
      return compareNamed second v high
    else return false
  | [] => .error .badPosition
  | bound :: _ =>
    match c with
    | .single s => .ok (compareNamed s v bound)
    | _ => .ok false

def liftFault {α : Type} : Except Fault α → Except Failure α
  | .ok a => .ok a
  | .error f => .error (.fault f)

namespace Descriptor

def checkText (d : Descriptor) (v : Value) (ctx : FieldContext) : Except Failure Bool :=
  if ctx.isDisabled then .ok true
  else
    match v with
    | .null =>
      if d.pattern = some nonEmptyPattern ∨ ctx.isRequired then .ok false else search
    | _ => search
where
  search : Except Failure Bool := do
    let s ← liftFault (subjectOf v)
    match d.pattern with
    | none => .error (.fault .badKind)
    | some p => searchIn p s

def compareDates (d : Descriptor) (l : Layout) (s : String) : Except Failure Bool :=
  match instants with
  | .ok (i,bounds) => liftFault (withinBounds d.condition (.instant i) (bounds.map .instant))
  | .error .badValue => .ok false
  | .error f => .error (.fault f)
where
  instants : Except Fault (Instant × List Instant) := do
    let i ← l.read s.toList
    let bounds ← d.params.mapM fun p => l.read p.toList
    return (i,bounds)

def layoutValue (d : Descriptor) : Value :=
  match d.dateFormat with
  | some s => .text s
  | none => .null

def checkDate (strict : Bool) (d : Descriptor) (v : Value) : Except Failure Bool :=
  match v with
  | .null => if d.pattern = some nonEmptyPattern then .ok false else compare
  | _ => compare
where
  compare : Except Failure Bool := do
    let s ← liftFault (subjectOf v)
    let fits ← match d.pattern with
      | none => .ok true
      | some p => if p = "" then .ok true else searchIn p s
    if fits then
      match Layout.resolve strict d.layoutValue with
      | .error p => .error (.problem p)
      | .ok l => d.compareDates l s
    else return false

def checkNumber (d : Descriptor) (v : Value) : Except Failure Bool :=
  liftFault do
    let bounds ← d.params.mapM fun p => leadingNumber (.text p)
    let x ← leadingNumber v
    withinBounds d.condition (.number x) (bounds.map .number)

def checkConfirmation (d : Descriptor) (v : Value) (ctx : FieldContext) : Except Failure Bool :=
  match ctx.lookup with
  | none => .ok (Value.null.equals v)
  | some lookup =>
    match d.params with
    | [] => .error (.fault .badPosition)
    | name :: _ => .ok ((lookup name).equals v)

def check (strict : Bool) (d : Descriptor) (v : Value) (ctx : FieldContext) : Except Failure Bool :=
  match d.kind with
  | .pattern => d.checkText v ctx
  | .dateBounds => d.checkDate strict v
  | .numberBounds => d.checkNumber v
  | .confirmation => d.checkConfirmation v ctx

/-- An empty text in a number field means that something was typed that is no number. -/
def isKeyEntry (d : Descriptor) (v : Value) (ctx : FieldContext) : Bool :=
  d.kind == .pattern && !ctx.isDisabled && isEmptyText v && ctx.isNumberInput

end Descriptor

def FieldContext.exempts (ctx : FieldContext) (v : Value) : Bool :=
  (!ctx.isRequired && isEmpty v) || ctx.isDisabled

def evaluate (t : Translator) (strict : Bool) (d : Descriptor) (v : Value) (ctx : FieldContext) :
    Except Failure RuleResult :=
  let keyEntry := d.isKeyEntry v ctx
  let key := if keyEntry then keyCharMessage else d.messageKey
  match (if keyEntry then .ok false else d.check strict v ctx) with
  | .error f => .error f
  | .ok passed =>
    if passed || ctx.exempts v then .ok ⟨d,true,key,""⟩
    else .ok ⟨d,false,key,if key = keyCharMessage then t.textOr keyCharMessage "" else d.render t⟩

end FormGuard
