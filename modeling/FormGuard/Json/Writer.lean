import FormGuard.Number.Shortest
import FormGuard.Text.Quoted
import FormGuard.Value.Basic

/-! Values written as JSON text, on one line and in ASCII. -/
namespace FormGuard.Json

def unitText (n : Nat) : List Char := '\\' :: 'u' :: Text.hex 4 n

def escapeChar (c : Char) : List Char :=
  let n := c.toNat
  if c = '"' ∨ c = '\\' then ['\\',c]
  else if n = 10 then ['\\','n']
  else if n = 13 then ['\\','r']
  else if n = 9 then ['\\','t']
  else if n = 12 then ['\\','f']
  else if n = 8 then ['\\','b']
  else if 32 ≤ n ∧ n ≤ 126 then [c]
  else if n < 0x10000 then unitText n
  else unitText (0xd800 + (n - 0x10000) / 0x400) ++ unitText (0xdc00 + (n - 0x10000) % 0x400)

def writeText (s : String) : String :=
  String.ofList ('"' :: s.toList.flatMap escapeChar ++ ['"'])

def writeNumber : Binary64 → String
  | .nan => "NaN"
  | .infinite negative => if negative then "-Infinity" else "Infinity"
  | x => x.text

mutual

def write : Value → String
  | .null => "null"
  | .bool b => if b then "true" else "false"
  | .int n => toString n
  | .float x => writeNumber x
  | .text s => writeText s
  | .list items => "[" ++ writeItems items ++ "]"
  | .object fields => "\x7b" ++ writeFields fields ++ "\x7d"

def writeItems : List Value → String
  | [] => ""
  | [v] => write v
  | v :: w :: rest => write v ++ ", " ++ writeItems (w :: rest)

def writeFields : Value.Fields → String
  | [] => ""
  | [(n,v)] => writeText n ++ ": " ++ write v
  | (n,v) :: f :: rest => writeText n ++ ": " ++ write v ++ ", " ++ writeFields (f :: rest)

end

end FormGuard.Json
