import FormGuard.Json.Reader
import FormGuard.Json.Writer
import FormGuard.Service.Response
import FormGuard.Session.Request

/-! A session behind requests. Every field is judged as soon as its value comes; what the session showed or cleared
goes out with the next answer that is no refusal. Values are noted before the session is asked, and stay noted when
it refuses. -/
namespace FormGuard

inductive Method where
  | addField
  | setGlobalOptions
  | validateField
  | checkFormValidity
  | removeField
  | clearInvalidEntriesAhead
  | getSummary
  | pageTransition
  deriving DecidableEq, Repr

namespace Method

def label : Method → String
  | addField => "add_field"
  | setGlobalOptions => "set_global_options"
  | validateField => "validate_field"
  | checkFormValidity => "check_form_validity"
  | removeField => "remove_field"
  | clearInvalidEntriesAhead => "clear_invalid_entries_ahead"
  | getSummary => "get_summary"
  | pageTransition => "page_transition"

def all : List Method :=
  [addField,setGlobalOptions,validateField,checkFormValidity,removeField,clearInvalidEntriesAhead,getSummary,
   pageTransition]

def named? (s : String) : Option Method := all.find? (·.label == s)

end Method

inductive Trace where
  | started
  | received (line : String)
  | dispatching (method : Value)
  | refused (p : Problem)
  | brokenDown (f : Fault)
  | sending (r : Response)
  | endOfInput
  | interrupted
  | stopRequested
  | stopped

def Trace.text (w : Wording) : Trace → String
  | started => "ValidationSession JSON-RPC server started"
  | received line => "Received: " ++ line
  | dispatching method => "Dispatching method: " ++ method.plainText
  | refused p => "Validation error: " ++ p.message w
  | brokenDown f => "Error processing request: " ++ w.detail f.describe
  | sending r => "Sending: " ++ Json.write (r.toValue w)
  | endOfInput => "EOF received, shutting down"
  | interrupted => "KeyboardInterrupt received, shutting down"
  | stopRequested => "Stop signal received"
  | stopped => "Server stopped"

namespace Service

abbrev Answer := Except Refusal Value × Session

def param (params : Value.Fields) (name : String) : Value := (params.get? name).getD .null

def withoutDelay (attributes : Value.Fields) : Value.Fields :=
  (attributes.put "debounce" (.int 0)).drop "typingLimit"

def withRenders (fields : Value.Fields) (s : Session) : Answer :=
  let (events,s) := s.drain
  (.ok (.object (fields ++ [("renders",.list (events.map (·.toValue)))])),s)

def refuse (r : Refusal) (s : Session) : Answer := (.error r,s)

def summaryOf (s : Session) (form : Value) : Value := .list ((s.summaryGiven form).map (·.toValue))

def addField (params : Value.Fields) (s : Session) : Answer :=
  let attributes := params.drop "value"
  let name := Attributes.nameOf attributes
  let noted :=
    match params.get? "value" with
    | some v => if name.truthy then s.setValueGiven name v else .ok s
    | none => .ok s
  match noted with
  | .error f => refuse (.ofFault f) s
  | .ok s =>
    match s.add (withoutDelay attributes) with
    | (.error f,s) => refuse (.ofFailure f) s
    | (.ok r,s) =>
      withRenders [("field",.text r.name),("valid",.bool r.isValid),("message",.text r.message)] s

def statusOk : Value.Fields := [("status",.text "ok")]

def setGlobalOptions (params : Value.Fields) (s : Session) : Answer :=
  match ((params.get? "options").getD (.object params)).spelled with
  | .error f => refuse (.ofFault f) s
  | .ok options =>
    match s.setOptions (.object (withoutDelay options)) with
    | (.error f,s) => refuse (.ofFailure f) s
    | (.ok (),s) => (.ok (.object statusOk),s)

def note (s : Session) (name v : Value) (disabled : Option Value) : Except Fault Session := do
  let s ← s.setValueGiven name v
  match disabled with
  | some d => s.setDisabledGiven name d.truthy
  | none => return s

def validateField (params : Value.Fields) (s : Session) : Answer :=
  let name := param params "name"
  if !name.truthy then refuse (.missingParam "name") s
  else
    match params.get? "value" with
    | none => refuse (.missingParam "value") s
    | some v =>
      match note s name v (params.get? "disabled") with
      | .error f => refuse (.ofFault f) s
      | .ok s =>
        match s.validateGiven name v (param params "event") with
        | (.error f,s) => refuse (.ofFailure f) s
        | (.ok state,s) =>
          match s.recordGiven name with
          | .ok (some r) =>
            withRenders [("field",name),("state",.text state.label),("valid",.bool r.isValid),
              ("message",.text r.message)] s
          | .ok none => refuse (.ofFault .noTable) s
          | .error f => refuse (.ofFault f) s

def checkFormValidity (params : Value.Fields) (s : Session) : Answer :=
  let form := param params "form"
  match s.checkGiven form with
  | (.error f,s) => refuse (.ofFailure f) s
  | (.ok valid,s) => withRenders [("valid",.bool valid),("summary",summaryOf s form)] s

def removeField (params : Value.Fields) (s : Session) : Answer :=
  let names := param params "names"
  let names := if names.truthy then names else param params "name"
  if !names.truthy then refuse (.missingParam "name") s
  else
    match s.removeGiven names with
    | (.error f,s) => refuse (.ofFailure f) s
    | (.ok (),s) => withRenders statusOk s

def clearInvalidEntriesAhead (params : Value.Fields) (s : Session) : Answer :=
  match s.clearAheadGiven (param params "form") with
  | (.error f,s) => refuse (.ofFailure f) s
  | (.ok names,s) => withRenders [("removed",.list (names.map .text))] s

def getSummary (params : Value.Fields) (s : Session) : Answer :=
  (.ok (.object [("summary",summaryOf s (param params "form"))]),s)

def pageTransition (_ : Value.Fields) (s : Session) : Answer :=
  let s := s.fire
  (.ok (.object [("reset",.bool (!s.keepOnTransition))]),s)

def perform : Method → Value.Fields → Session → Answer
  | .addField => addField
  | .setGlobalOptions => setGlobalOptions
  | .validateField => validateField
  | .checkFormValidity => checkFormValidity
  | .removeField => removeField
  | .clearInvalidEntriesAhead => clearInvalidEntriesAhead
  | .getSummary => getSummary
  | .pageTransition => pageTransition

def dispatch (method : Value) (params : Value.Fields) (s : Session) : Answer :=
  match method with
  | .text name =>
    match Method.named? name with
    | some m => perform m params s
    | none => refuse (.unknownMethod method) s
  | _ => refuse (if method.canName then .unknownMethod method else .ofFault .badKind) s

def tracesOf : Except Refusal Value → List Trace
  | .error (.problem p) => [.refused p]
  | .error (.brokenDown f) => [.brokenDown f]
  | _ => []

/-- A request that is an object: the version is looked at first, then the method, then the parameters. -/
def answerObject (request : Value.Fields) (s : Session) : List Trace × Response × Session :=
  let version := param request "jsonrpc"
  if !version.equals (.text "2.0") then ([],⟨.null,.error (.wrongVersion version)⟩,s)
  else
    let id := param request "id"
    let method := param request "method"
    let params := (request.get? "params").getD (.object [])
    if !method.truthy then ([],⟨id,.error .noMethod⟩,s)
    else
      match params with
      | .object params =>
        let (r,s) := dispatch method params s
        (.dispatching method :: tracesOf r,⟨id,r⟩,s)
      | v => ([],⟨id,.error (.paramsNoObject v)⟩,s)

def answerLine (line : String) (s : Session) : List Trace × Response × Session :=
  match Json.read line with
  | .error .malformed => ([],⟨.null,.error .unreadable⟩,s)
  | .error .longNumeral => ([],⟨.null,.error .badParam⟩,s)
  | .error .tooDeep => ([.brokenDown .tooDeep],⟨.null,.error (.brokenDown .tooDeep)⟩,s)
  | .ok (.object request) => answerObject request s
  | .ok _ => ([],⟨.null,.error .noObject⟩,s)

def start (l : Loader) : Except Failure Session :=
  match Session.ofLoader l none (.ofValues []) with
  | (.error f,_) => .error f
  | (.ok s,_) => .ok (s.setOptions (.object [("debounce",.int 0)])).2

end Service
end FormGuard
