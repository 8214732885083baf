import FormGuard.Check.Evaluation

/-! The outcome of all rules of a field. The messages of the failing rules are joined in order, or only the last is kept; the
keyboard message is given once; a failing field without any message shows the message keys. -/
namespace FormGuard
open FormGuard.Text

structure FieldOutcome where
  fieldName : String
  valid : Bool
  message : String
  results : List RuleResult
  deriving Repr

def evaluateAll (t : Translator) (strict : Bool) (v : Value) (ctx : FieldContext) :
    List Descriptor → Except Failure (List RuleResult)
  | [] => .ok []
  | d :: ds =>
    match evaluate t strict d v ctx with
    | .error f => .error f
    | .ok r =>
      match evaluateAll t strict v ctx ds with
      | .error f => .error f
      | .ok rs => .ok (r :: rs)

def joinMessage (lastOnly : Bool) (acc : List Char × Bool) (r : RuleResult) : List Char × Bool :=
  let (text,keyGiven) := acc
  if r.valid || r.message == "" then acc
  else if r.messageKey == keyCharMessage && keyGiven then acc
  else
    let keyGiven := keyGiven || r.messageKey == keyCharMessage
    if lastOnly && !text.isEmpty then (' ' :: r.message.toList,keyGiven)
    else (text ++ ' ' :: r.message.toList,keyGiven)

def joinMessages (lastOnly : Bool) (rs : List RuleResult) : String :=
  String.ofList (strip (rs.foldl (joinMessage lastOnly) ([],false)).1)

def failedKeys (rs : List RuleResult) : String :=
  String.intercalate " " ((rs.filter (!·.valid)).map (·.messageKey))

def FieldOutcome.ofResults (fieldName : String) (lastOnly : Bool) (rs : List RuleResult) : FieldOutcome :=
  let valid := rs.all (·.valid)
  let message := joinMessages lastOnly rs
  ⟨fieldName,valid,if !valid && message == "" then failedKeys rs else message,rs⟩

def FieldOutcome.failed (o : FieldOutcome) : List RuleResult := o.results.filter (!·.valid)

def evaluateField (t : Translator) (strict lastOnly : Bool) (p : Pipeline) (v : Value) (ctx : FieldContext) :
    Except Failure FieldOutcome :=
  match evaluateAll t strict v { ctx with isRequired := p.isRequired } p.descriptors with
  | .error f => .error f
  | .ok rs => .ok (.ofResults ctx.fieldName lastOnly rs)

end FormGuard
