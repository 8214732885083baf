import FormGuard.Value.Basic

/-! The current error of every invalid field, in the order in which the fields became invalid, and the forms
that have had a field. -/
namespace FormGuard

structure SummaryEntry where
  field : String
  message : String
  friendlyName : String
  form : Option String
  deriving DecidableEq, Repr

structure Summary where
  entries : Table SummaryEntry
  -- `none` stands for the page itself
  attached : List (Option String)
  deriving Repr

namespace Summary

def empty : Summary := ⟨[],[]⟩

def attach (s : Summary) (form : Option String) : Summary :=
  if s.attached.contains form then s else { s with attached := s.attached ++ [form] }

/-- The page itself is attached as soon as any form is. -/
def isAttached (s : Summary) : Option String → Bool
  | none => !s.attached.isEmpty
  | some form => s.attached.contains (some form)

def clear (s : Summary) (field : String) : Summary := { s with entries := s.entries.drop field }

def upsert (s : Summary) (e : SummaryEntry) : Summary :=
  if e.message = "" then s.clear e.field else { s with entries := s.entries.put e.field e }

def get? (s : Summary) (field : String) : Option SummaryEntry := s.entries.get? field

def all (s : Summary) : List SummaryEntry := s.entries.entries

def ofForm (s : Summary) : Option String → List SummaryEntry
  | none => s.all
  | some form => s.all.filter (·.form == some form)

end Summary
end FormGuard
