import FormGuard.Problem
import FormGuard.Pattern.Template

/-! Rules as a catalog declares them. -/
namespace FormGuard

inductive RuleKind where
  | pattern
  | dateBounds
  | numberBounds
  | confirmation
  deriving DecidableEq, Repr

namespace RuleKind

def label : RuleKind → String
  | pattern => "regex"
  | dateBounds => "conditionalDate"
  | numberBounds => "conditionalNumber"
  | confirmation => "match"

def named? (s : String) : Option RuleKind :=
  [pattern,dateBounds,numberBounds,confirmation].find? (·.label == s)

end RuleKind

inductive Condition where
  | absent
  | single (operator : String)
  | several (operators : List String)
  deriving DecidableEq, Repr

inductive ParamType where
  | integer
  | number
  | date
  | free (label : String)
  deriving DecidableEq, Repr

namespace ParamType

def label : ParamType → String
  | integer => "integer"
  | number => "number"
  | date => "date"
  | free s => s

def ofLabel (s : String) : ParamType :=
  if s = "integer" then integer else if s = "number" then number else if s = "date" then date else free s

def usual : RuleKind → ParamType
  | .pattern | .confirmation => free "text"
  | .dateBounds => date
  | .numberBounds => number

end ParamType

structure RuleDefinition where
  name : String
  kind : RuleKind
  messageKey : String
  pattern : Option String
  condition : Condition
  dateFormat : Option String
  leastParams : Int
  mostParams : Int
  paramType : ParamType
  deriving DecidableEq, Repr

namespace RuleDefinition

def buildPattern (d : RuleDefinition) (params : List String) : Option String :=
  d.pattern.map fun p => String.ofList (Pattern.fill p.toList (params.map String.toList))

def count? : Value → Option Int
  | .int n => some n
  | .float x => x.toInt?
  | _ => none

def arityOf : Option Value → Except Fault (Int × Int)
  | none => .ok (0,0)
  | some (.list [a,b]) =>
    match count? a,count? b with
    | some m,some n => .ok (m,n)
    | _,_ => .error .badKind
  | some (.list _) => .error .badValue
  | some v =>
    match count? v with
    | some n => .ok (n,n)
    | none => .error .badKind

def textOf? : Option Value → Except Fault (Option String)
  | none | some .null => .ok none
  | some (.text s) => .ok (some s)
  | some _ => .error .badKind

def conditionOf : Option Value → Except Fault Condition
  | none | some .null => .ok .absent
  | some (.text s) => .ok (.single s)
  | some (.list vs) => do
    let ops ← vs.mapM fun
      | .text s => .ok s
      | _ => .error Fault.badKind
    return .several ops
  | some _ => .error .badKind

def ofEntry (name : String) (entry : Value) : Except Fault RuleDefinition :=
  match entry with
  | .object fields => do
    let get := Table.get? fields
    let (leastParams,mostParams) ← arityOf (get "params")
    let kind ← match get "kind" with
      | none => .error .absentEntry
      | some (.text s) =>
        match RuleKind.named? s with
        | some k => .ok k
        | none => .error .badValue
      | some _ => .error .badValue
    let condition ← conditionOf (get "condition")
    let messageKey ← match get "message" with
      | none => .error .absentEntry
      | some (.text s) => .ok s
      | some _ => .error .badKind
    let pattern ← textOf? (get "pattern")
    let dateFormat ← textOf? (get "date_format")
    let paramType ← match get "param_type" with
      | none => .ok (ParamType.usual kind)
      | some (.text s) => .ok (ParamType.ofLabel s)
      | some _ => .error .badKind
    return { name, kind, messageKey, pattern, condition, dateFormat, leastParams, mostParams, paramType }
  | _ => .error .noTable

end RuleDefinition
end FormGuard
