import FormGuard.Number.Numeral
import FormGuard.Number.Shortest
import FormGuard.Text.Quoted
import FormGuard.Value.Basic

/-! The text of a value: a text stands for itself, and stands quoted inside lists and objects. An integer too long for
a numeral has no text. -/
namespace FormGuard.Value

mutual

def quoted : Value → String
  | null => "None"
  | bool b => if b then "True" else "False"
  | int n => toString n
  | float x => x.text
  | text s => Text.quoted s
  | list items => "[" ++ quotedItems items ++ "]"
  | object fields => "\x7b" ++ quotedFields fields ++ "\x7d"

def quotedItems : List Value → String
  | [] => ""
  | [v] => quoted v
  | v :: w :: rest => quoted v ++ ", " ++ quotedItems (w :: rest)

def quotedFields : List (String × Value) → String
  | [] => ""
  | [(n,v)] => Text.quoted n ++ ": " ++ quoted v
  | (n,v) :: f :: rest => Text.quoted n ++ ": " ++ quoted v ++ ", " ++ quotedFields (f :: rest)

end

def numeralBound : Nat := Nat.pow 10 Numeral.digitLimit

mutual

def writable : Value → Bool
  | int n => n.natAbs < numeralBound
  | list items => writableItems items
  | object fields => writableFields fields
  | _ => true

def writableItems : List Value → Bool
  | [] => true
  | v :: rest => writable v && writableItems rest

def writableFields : List (String × Value) → Bool
  | [] => true
  | (_,v) :: rest => writable v && writableFields rest

end

def plainText : Value → String
  | text s => s
  | v => quoted v

def textOf (v : Value) : Except Fault String :=
  if v.writable then .ok v.plainText else .error .badValue

end FormGuard.Value
