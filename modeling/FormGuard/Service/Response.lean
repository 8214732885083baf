import FormGuard.Problem
import FormGuard.Session.Display
import FormGuard.Session.Summary

/-! Answers to requests: a result, or the reason why there is none, with the code that callers know it by. -/
namespace FormGuard

inductive Refusal where
  | unreadable
  | noObject
  | wrongVersion (version : Value)
  | noMethod
  | paramsNoObject (params : Value)
  | unknownMethod (method : Value)
  | missingParam (name : String)
  | badParam
  | problem (p : Problem)
  | brokenDown (f : Fault)
  deriving Repr

namespace Refusal

def ofFault : Fault → Refusal
  | .badValue => badParam
  | f => brokenDown f

def ofFailure : Failure → Refusal
  | .problem p => problem p
  | .fault f => ofFault f

def code : Refusal → Int
  | unreadable => -32700
  | noObject | wrongVersion _ | noMethod => -32600
  | unknownMethod _ => -32601
  | paramsNoObject _ | missingParam _ | badParam => -32602
  | problem _ => -32001
  | brokenDown _ => -32000

def message (w : Wording) : Refusal → String
  | unreadable => "Parse error: " ++ w.detail "the line is no JSON"
  | noObject => "Request must be a JSON object"
  | wrongVersion v => "Invalid JSON-RPC version: " ++ v.plainText
  | noMethod => "Missing 'method' field"
  | paramsNoObject v => "Params must be an object, got " ++ v.kindName
  | unknownMethod m => "Method not found: " ++ m.plainText
  | missingParam name => "Missing required parameter: " ++ name
  | badParam => w.detail Fault.badValue.describe
  | problem p => p.message w
  | brokenDown f => "Internal error: " ++ w.detail f.describe

def details : Refusal → Value.Fields
  | problem p => [("data",.object [("type",.text p.family.label)])]
  | _ => []

def toValue (w : Wording) (r : Refusal) : Value :=
  .object ([("code",.int r.code),("message",.text (r.message w))] ++ r.details)

end Refusal

structure Response where
  -- as the request gave it
  id : Value
  answer : Except Refusal Value

namespace Response

def toValue (w : Wording) (r : Response) : Value :=
  .object ([("jsonrpc",.text "2.0"),("id",r.id)] ++
    match r.answer with
    | .ok v => [("result",v)]
    | .error e => [("error",e.toValue w)])

def isRefused (r : Response) : Bool :=
  match r.answer with
  | .ok _ => false
  | .error _ => true

end Response

def textOrNull : Option String → Value
  | some s => .text s
  | none => .null

def DisplayEvent.toValue : DisplayEvent → Value
  | shown field message target =>
    .object [("action",.text "show"),("field",.text field),("message",.text message),("target",textOrNull target)]
  | cleared field => .object [("action",.text "clear"),("field",field)]

def SummaryEntry.toValue (e : SummaryEntry) : Value :=
  .object [("field_name",.text e.field),("message",.text e.message),("friendly_name",.text e.friendlyName),
    ("form_name",textOrNull e.form)]

end FormGuard
