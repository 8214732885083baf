import FormGuard.Message.Translator
import FormGuard.Session.Record

/-! The attributes with which a field is registered: their schema, and the record they describe. -/
namespace FormGuard
namespace Attributes
open Schema

def milliseconds : Schema :=
  all [anyOf [all [kinds [.integer],minimum 0],all [kinds [.text],pattern "^\\d+$"]]]

def known : List (String × Schema) :=
  [("name",all [kinds [.text],minLength 1]),
   ("elmName",all [kinds [.text],minLength 1]),
   ("rules",all [kinds [.text]]),
   ("validation",all [kinds [.text]]),
   ("debounce",milliseconds),
   ("typingLimit",milliseconds),
   ("friendlyName",all [kinds [.text]]),
   ("validationErrorTo",all [kinds [.text],minLength 1]),
   ("translate",all [kinds [.boolean]]),
   ("form",all [kinds [.text,.null]]),
   ("type",all [kinds [.text]])]

def ofPage : Schema := all [kinds [.object],entries known]

def ofField : Schema :=
  all [kinds [.object],entries known,anyOf [all [required ["rules"]],all [required ["validation"]]]]

def demand (s : Schema) (v : Value) : Except Failure Unit :=
  match s.check v with
  | none => .ok ()
  | some (path,c) => .error (.problem (.badAttributes path c))

def text? (attrs : Value.Fields) (name : String) : Option String :=
  match attrs.get? name with
  | some (.text s) => some s
  | _ => none

def nameOf (attrs : Value.Fields) : Value :=
  let v := (attrs.get? "name").getD .null
  if v.truthy then v else (attrs.get? "elmName").getD .null

def wholeNumber : Value → Except Fault Int
  | .int n => .ok n
  | .float x =>
    match x.toInt? with
    | some n => .ok n
    | none => .error .badValue
  | .text s =>
    match Numeral.readInt? s.toList with
    | some n => .ok n
    | none => .error .badValue
  | _ => .error .badKind

def typingLimit (attrs : Value.Fields) (usual : Delay) : Except Fault Delay :=
  match attrs.get? "debounce",attrs.get? "typingLimit" with
  | some v,_ => (wholeNumber v).map .ofInt
  | none,some v => (wholeNumber v).map .ofInt
  | none,none => .ok usual

def friendlyName (t : Translator) (attrs : Value.Fields) (translate : Bool) : String :=
  let s := (text? attrs "friendlyName").getD ""
  if s ≠ "" ∧ translate then
    let found := t.textOr s s
    if found = "" then s else found
  else s

def target (attrs : Value.Fields) : Option String :=
  (text? attrs "validationErrorTo").map fun s =>
    match s.toList with
    | c :: _ => if c = '.' ∨ c = '#' then s else "#" ++ s
    | [] => s

def isOn (attrs : Value.Fields) (name : String) : Bool :=
  match attrs.get? name with
  | some v => v.truthy
  | none => false

/-- The record of a field. A name has to be there before the schema is asked. -/
def record (t : Translator) (usualLimit : Delay) (stamp : Nat) (attrs : Value.Fields) : Except Failure Record :=
  let name := nameOf attrs
  if !name.truthy then .error (.problem .namelessField)
  else
    match demand ofField (.object attrs),typingLimit attrs usualLimit with
    | .error f,_ => .error f
    | .ok (),.error f => .error (.fault f)
    | .ok (),.ok limit =>
      let translate := isOn attrs "translate"
      .ok {
        Record.fresh stamp name.plainText (((text? attrs "rules").or (text? attrs "validation")).getD "") with
        friendlyName := friendlyName t attrs translate
        form := text? attrs "form"
        inputType := (text? attrs "type").getD "text"
        typingLimit := limit
        target := target attrs
        translate := translate
        attributes := attrs }

end Attributes
end FormGuard
