import FormGuard.Session.Operations
import FormGuard.Value.Spelled

/-! The operations of a session, asked for with any values. A name that is no text is the name of no field and of no
form; a list or an object cannot be asked for at all, unless there is nothing to look it up in. -/
namespace FormGuard
namespace Session

def fail {α : Type} (s : Session) (f : Fault) : Except Failure α × Session := (.error (.fault f),s)

def addGiven (s : Session) (attributes rules : Value) : Except Failure Record × Session :=
  let fields : Except Fault Value.Fields :=
    match attributes with
    | .text name => .ok [("name",.text name)]
    | v => if v.truthy then v.spelled else .ok []
  match fields,rules with
  | .error f,_ => s.fail f
  | .ok fields,.null => s.add fields
  | .ok fields,rules => s.add (Table.put fields "rules" rules)

def rebindGiven (s : Session) (name rules : Value) : Except Failure Record × Session :=
  match rulesOf rules with
  | .error f => s.fail f
  | .ok rules =>
    match name with
    | .text name => s.rebind name rules
    | name =>
      match s.parse rules with
      | (.error f,s) => (.error f,s)
      | (.ok _,s) =>
        if name.canName then (.error (.problem (.unknownField name)),s) else s.fail .badKind

def keepsFields (s : Session) : Bool := !(s.timers.isEmpty && s.registry.isEmpty && s.summary.entries.isEmpty)

def clearOther (s : Session) (v : Value) : Session := { s with display := s.display.clearOther v }

/-- Removes what goes by a name. A table that holds nothing does not look at the name, so that one that cannot be
asked for is told only by a table that holds something: by the display, after the event of the clearing. -/
def removeNamed (s : Session) : Value → Except Failure Unit × Session
  | .text name => (.ok (),s.remove name)
  | v =>
    if v.canName then (.ok (),s.clearOther v)
    else if s.keepsFields then s.fail .badKind
    else if s.display.messages.isEmpty then (.ok (),s.clearOther v)
    else (s.clearOther v).fail .badKind

def removeAll : List Value → Session → Except Failure Unit × Session
  | [],s => (.ok (),s)
  | v :: rest,s =>
    match s.removeNamed v with
    | (.error f,s) => (.error f,s)
    | (.ok (),s) => removeAll rest s

def removeGiven (s : Session) : Value → Except Failure Unit × Session
  | .text name => removeAll [.text name] s
  | .list names => removeAll names s
  | .object fields => removeAll (fields.map fun e => .text e.1) s
  | _ => s.fail .badKind

def eventOf : Value → InputEvent
  | .text "blur" => .blur
  | _ => .change

def validateGiven (s : Session) (name v event : Value) : Except Failure FieldState × Session :=
  match name with
  | .text name => s.validate name v (eventOf event)
  | name => if name.canName then (.error (.problem (.unknownField name)),s) else s.fail .badKind

def formOf (operation : String) : Value → Except Failure (Option String)
  | .null => .ok none
  | .text form => .ok (some form)
  | v => .error (if v.canName then .problem (.noContext operation v) else .fault .badKind)

def checkGiven (s : Session) (form : Value) : Except Failure Bool × Session :=
  match formOf "check_form_validity" form with
  | .error f => (.error f,s)
  | .ok form => s.check form

def clearAheadGiven (s : Session) (form : Value) : Except Failure (List String) × Session :=
  match formOf "clear_invalid_entries_ahead" form with
  | .error f => (.error f,s)
  | .ok form => s.clearAhead form

def summaryGiven (s : Session) : Value → List SummaryEntry
  | .null => s.summary.all
  | .text form => s.summary.ofForm (some form)
  | _ => []

def recordGiven (s : Session) : Value → Except Fault (Option Record)
  | .text name => .ok (s.registry.find? name)
  | v => if v.canName then .ok none else .error .badKind

def setValueGiven (s : Session) (name v : Value) : Except Fault Session :=
  match name with
  | .text name => .ok (s.setValue name v)
  | name => if name.canName then .ok s else .error .badKind

def setDisabledGiven (s : Session) (name : Value) (disabled : Bool) : Except Fault Session :=
  match name with
  | .text name => .ok (s.setDisabled name disabled)
  | name => if name.canName then .ok s else .error .badKind

def discoverGiven (s : Session) (rules : Value) : Except Failure Pipeline × Session :=
  match rulesOf rules with
  | .error f => s.fail f
  | .ok rules => s.discover rules

end Session
end FormGuard
