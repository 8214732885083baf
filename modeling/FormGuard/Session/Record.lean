import FormGuard.Config.Settings
import FormGuard.Rule.Pipeline
import FormGuard.Table

/-! The fields of a page. A record carries a stamp of its own, so that a timer armed for it can tell it from
a record that takes its place under the same name. -/
namespace FormGuard

inductive FieldState where
  | unvalidated
  | pending
  | valid
  | invalid
  deriving DecidableEq, Repr

namespace FieldState

def label : FieldState → String
  | unvalidated => "unvalidated"
  | pending => "pending"
  | valid => "valid"
  | invalid => "invalid"

end FieldState

structure Record where
  stamp : Nat
  name : String
  rules : String
  friendlyName : String
  form : Option String
  inputType : String
  typingLimit : Delay
  -- where messages are shown, if not in the usual place
  target : Option String
  translate : Bool
  attributes : Value.Fields
  isValid : Bool
  message : String
  state : FieldState
  -- changed by the user
  dirty : Bool
  -- left by the user, or submitted
  touched : Bool
  pipeline : Option Pipeline
  deriving Repr

namespace Record

def fresh (stamp : Nat) (name rules : String) : Record where
  stamp := stamp
  name := name
  rules := rules
  friendlyName := ""
  form := none
  inputType := "text"
  typingLimit := .ofInt 1000
  target := none
  translate := false
  attributes := []
  isValid := false
  message := ""
  state := .unvalidated
  dirty := false
  touched := false
  pipeline := none

def isRequired (r : Record) : Bool := r.pipeline.any (·.isRequired)

def rebind (r : Record) (rules : String) : Record :=
  if rules = r.rules then r else { r with rules, pipeline := none }

def markPristine (r : Record) : Record := { r with dirty := false, touched := false }

end Record

abbrev Registry := Table Record

namespace Registry

def find? (t : Registry) (name : String) : Option Record := Table.get? t name

def upsert (t : Registry) (r : Record) : Registry := Table.put t r.name r

def modify (t : Registry) (name : String) (f : Record → Record) : Registry :=
  match find? t name with
  | some r => Table.put t name (f r)
  | none => t

def remove (t : Registry) (name : String) : Registry := Table.drop t name

end Registry
end FormGuard
