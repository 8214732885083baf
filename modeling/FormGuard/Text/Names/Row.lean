import FormGuard.Text.Pieces

/-! Names of characters, after version 14 of the Unicode database, row by row. -/
namespace FormGuard.Text

/-- Characters one behind the other, from `first` on. Each name is `lead` and one of the pieces between the commas of
`tails`, in order. -/
structure NameRow where
  first : Nat
  lead : String
  tails : List String

def NameRow.find? (r : NameRow) (name : List Char) : Option Nat :=
  match dropLead? r.lead.toList name with
  | none => none
  | some tail => ((r.tails.flatMap fun line => splitOn ',' line.toList).findIdx? (· == tail)).map (r.first + ·)

end FormGuard.Text
