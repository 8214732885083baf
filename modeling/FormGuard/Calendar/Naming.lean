import FormGuard.Calendar.Layout
import FormGuard.Problem

/-! Layouts by name. A name nobody knows means the ISO layout, unless strictness is asked for. -/
namespace FormGuard
namespace Layout

def resolve (strict : Bool) (name : Value) : Except Problem Layout :=
  match named? (if name.truthy then name.plainText else "") with
  | some l => .ok l
  | none => if strict then .error (.unknownLayout name) else .ok iso

def readValue (l : Layout) (v : Value) : Except Fault Instant := do
  let s ← v.textOf
  l.read s.toList

end Layout

def readDate (strict : Bool) (name v : Value) : Except Failure Instant :=
  match Layout.resolve strict name with
  | .error p => .error (.problem p)
  | .ok l =>
    match l.readValue v with
    | .ok i => .ok i
    | .error f => .error (.fault f)

end FormGuard
