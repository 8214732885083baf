import FormGuard.Number.Numeral
import FormGuard.Value.Basic

/-! Values read from JSON text. A number without point and exponent is an integer of any size up to the limit of
numerals; `NaN`, `Infinity` and `-Infinity` are numbers too. Of entries that share a name the last
counts, in the place of the first. Half of a surrogate pair reads as the replacement character. Lists and objects are
read down to a fixed level, beyond which nothing more is looked at. -/
namespace FormGuard.Json

inductive Defect where
  | malformed
  | longNumeral
  | tooDeep
  deriving DecidableEq, Repr

def isBlank (c : Char) : Bool := c == ' ' || c == '\t' || c == '\n' || c == '\r'

def skip : List Char → List Char := List.dropWhile isBlank

def hexValue? (c : Char) : Option Nat :=
  let n := c.toNat
  if 48 ≤ n ∧ n ≤ 57 then some (n - 48)
  else if 97 ≤ n ∧ n ≤ 102 then some (n - 87)
  else if 65 ≤ n ∧ n ≤ 70 then some (n - 55)
  else none

def hexUnit? (p q r s : Char) : Option Nat := do
  return (((← hexValue? p) * 16 + (← hexValue? q)) * 16 + (← hexValue? r)) * 16 + (← hexValue? s)

def escaped? : Char → Option Nat
  | '"' => some 34
  | '\\' => some 92
  | '/' => some 47
  | 'b' => some 8
  | 'f' => some 12
  | 'n' => some 10
  | 'r' => some 13
  | 't' => some 9
  | _ => none

def readUnits? : List Char → Option (List Nat × List Char)
  | [] => none
  | c :: rest =>
    if c = '"' then some ([],rest)
    else if c = '\\' then
      match rest with
      | 'u' :: p :: q :: r :: s :: rest => do
        let u ← hexUnit? p q r s
        let (us,rest) ← readUnits? rest
        return (u :: us,rest)
      | e :: rest => do
        let u ← escaped? e
        let (us,rest) ← readUnits? rest
        return (u :: us,rest)
      | [] => none
    else if c.toNat < 32 then none
    else (readUnits? rest).map fun (us,rest) => (c.toNat :: us,rest)

def isHigh (u : Nat) : Bool := 0xd800 ≤ u && u < 0xdc00
def isLow (u : Nat) : Bool := 0xdc00 ≤ u && u < 0xe000

def charOf (u : Nat) : Char := if isHigh u || isLow u then '\ufffd' else Char.ofNat u

def joinUnits : List Nat → List Char
  | [] => []
  | [u] => [charOf u]
  | u :: v :: us =>
    if isHigh u && isLow v then Char.ofNat (0x10000 + (u - 0xd800) * 0x400 + (v - 0xdc00)) :: joinUnits us
    else charOf u :: joinUnits (v :: us)

def readText? (cs : List Char) : Option (String × List Char) :=
  (readUnits? cs).map fun (us,rest) => (String.ofList (joinUnits us),rest)

def readWhole? : List Char → Option (List Char × List Char)
  | '0' :: rest => some (['0'],rest)
  | cs =>
    let ds := cs.takeWhile Numeral.isDigit
    if ds.isEmpty then none else some (ds,cs.dropWhile Numeral.isDigit)

def readPart : List Char → List Char × List Char
  | '.' :: cs =>
    let ds := cs.takeWhile Numeral.isDigit
    if ds.isEmpty then ([],'.' :: cs) else (ds,cs.dropWhile Numeral.isDigit)
  | cs => ([],cs)

def integer (negative : Bool) (ds : List Char) : Except Defect Value :=
  if Numeral.digitLimit < ds.length then .error .longNumeral
  else
    let n : Int := Numeral.natOf ds
    .ok (.int (if negative then -n else n))

def readUnsigned (negative : Bool) (cs : List Char) : Except Defect (Value × List Char) :=
  match readWhole? cs with
  | none => .error .malformed
  | some (whole,rest) =>
    let (part,rest) := readPart rest
    match part,Numeral.exponent? rest with
    | [],none => (integer negative whole).map (·,rest)
    | part,found =>
      let (e,rest) := found.getD (0,rest)
      .ok (.float (.ofDecimal negative (Numeral.natOf (whole ++ part)) (e - part.length)),rest)

def words : List (List Char × Value) :=
  [("null".toList,.null),("true".toList,.bool true),("false".toList,.bool false),("NaN".toList,.float .nan),
   ("Infinity".toList,.float (.infinite false)),("-Infinity".toList,.float (.infinite true))]

def readWord? (cs : List Char) : Option (Value × List Char) :=
  words.findSome? fun (word,v) => if word.isPrefixOf cs then some (v,cs.drop word.length) else none

def readScalar (cs : List Char) : Except Defect (Value × List Char) :=
  match readWord? cs with
  | some found => .ok found
  | none =>
    match cs with
    | '"' :: rest =>
      match readText? rest with
      | some (s,rest) => .ok (.text s,rest)
      | none => .error .malformed
    | '-' :: rest => readUnsigned true rest
    | cs => readUnsigned false cs

def levelLimit : Nat := 980

mutual

/-- A value that begins right here, and what follows it. `levels` may still be opened. -/
def readValue : (fuel levels : Nat) → List Char → Except Defect (Value × List Char)
  | 0,_,_ => .error .malformed
  | _ + 1,0,'[' :: _ => .error .tooDeep
  | _ + 1,0,'\x7b' :: _ => .error .tooDeep
  | fuel + 1,levels + 1,'[' :: rest =>
    match skip rest with
    | ']' :: rest => .ok (.list [],rest)
    | rest => (readItems fuel levels rest).map fun (vs,rest) => (.list vs,rest)
  | fuel + 1,levels + 1,'\x7b' :: rest =>
    match skip rest with
    | '\x7d' :: rest => .ok (.object [],rest)
    | rest => (readFields fuel levels [] rest).map fun (fields,rest) => (.object fields,rest)
  | _ + 1,_,cs => readScalar cs

def readItems : (fuel levels : Nat) → List Char → Except Defect (List Value × List Char)
  | 0,_,_ => .error .malformed
  | fuel + 1,levels,cs =>
    match readValue fuel levels cs with
    | .error d => .error d
    | .ok (v,rest) =>
      match skip rest with
      | ']' :: rest => .ok ([v],rest)
      | ',' :: rest => (readItems fuel levels (skip rest)).map fun (vs,rest) => (v :: vs,rest)
      | _ => .error .malformed

def readFields : (fuel levels : Nat) → Value.Fields → List Char → Except Defect (Value.Fields × List Char)
  | 0,_,_,_ => .error .malformed
  | fuel + 1,levels,before,'"' :: rest =>
    match readText? rest with
    | none => .error .malformed
    | some (name,rest) =>
      match skip rest with
      | ':' :: rest =>
        match readValue fuel levels (skip rest) with
        | .error d => .error d
        | .ok (v,rest) =>
          match skip rest with
          | '\x7d' :: rest => .ok (before.put name v,rest)
          | ',' :: rest => readFields fuel levels (before.put name v) (skip rest)
          | _ => .error .malformed
      | _ => .error .malformed
  | _ + 1,_,_,_ => .error .malformed

end

def read (s : String) : Except Defect Value :=
  let cs := s.toList
  match readValue (2 * cs.length + 1) levelLimit (skip cs) with
  | .error d => .error d
  | .ok (v,rest) => if (skip rest).isEmpty then .ok v else .error .malformed

end FormGuard.Json
