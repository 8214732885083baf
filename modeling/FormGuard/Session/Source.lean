import FormGuard.Value.Basic

/-! The live values of the fields of a page, and which of them are disabled. -/
namespace FormGuard

structure Source where
  values : Table Value
  disabled : List String
  deriving Repr

namespace Source

def ofValues (values : Table Value) : Source := ⟨values,[]⟩

def value (s : Source) (name : String) : Value := (s.values.get? name).getD .null

def isDisabled (s : Source) (name : String) : Bool := s.disabled.contains name

def setValue (s : Source) (name : String) (v : Value) : Source := { s with values := s.values.put name v }

def setDisabled (s : Source) (name : String) (disabled : Bool) : Source :=
  if disabled then
    if s.isDisabled name then s else { s with disabled := s.disabled ++ [name] }
  else { s with disabled := s.disabled.filter (· != name) }

end Source
end FormGuard
