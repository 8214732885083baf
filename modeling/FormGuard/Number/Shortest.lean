import FormGuard.Number.Binary64

/-! The fewest decimal digits that read back as a given number, the nearest such on their grid, and the layout
of the digits as text: positional from `0.0001` up to 16 places before the point, else with an exponent of at least two
digits. -/
namespace FormGuard.Binary64

def placesBelowOne (num den : Nat) : (fuel : Nat) → Int
  | 0 => 0
  | fuel + 1 => if den ≤ num * 10 then 0 else placesBelowOne (num * 10) den fuel - 1

def places (num den : Nat) : Int :=
  if den ≤ num then (Nat.toDigits 10 (num / den)).length else placesBelowOne num den 400

def onGrid? (x : Binary64) (num den : Nat) (k : Int) : Option Nat :=
  let (a,b) := if 0 ≤ k then (num,den * Nat.pow 10 k.toNat) else (num * Nat.pow 10 (-k).toNat,den)
  let low := a / b
  let reads (d : Nat) : Bool := ofDecimal false d k == x
  let high := roundHalfEven a b
  if reads high then some high
  else if reads low then some low
  else if reads (low + 1) then some (low + 1)
  else none

def firstGrid (x : Binary64) (num den : Nat) (m : Int) : (digits fuel : Nat) → Nat × Int
  | _,0 => (0,0)
  | digits,fuel + 1 =>
    let k := m - digits
    match onGrid? x num den k with
    | some d => (d,k)
    | none => firstGrid x num den m (digits + 1) fuel

def shortest (s : Nat) (e : Int) : Nat × Int :=
  let (num,den) := if 0 ≤ e then (s * Nat.pow 2 e.toNat,1) else (s,Nat.pow 2 (-e).toNat)
  firstGrid (finite false s e) num den (places num den) 1 17

def exponentText (n : Int) : List Char :=
  let ds := Nat.toDigits 10 n.natAbs
  (if n < 0 then '-' else '+') :: (if ds.length < 2 then '0' :: ds else ds)

def dropZeros (ds : List Char) : List Char := (ds.reverse.dropWhile (· == '0')).reverse

def layout (ds : List Char) (point : Int) : List Char :=
  if -4 < point ∧ point ≤ 16 then
    if point ≤ 0 then '0' :: '.' :: List.replicate (-point).toNat '0' ++ ds
    else if (ds.length : Int) ≤ point then ds ++ List.replicate (point.toNat - ds.length) '0' ++ ['.','0']
    else ds.take point.toNat ++ '.' :: ds.drop point.toNat
  else
    match ds with
    | [] => []
    | [d] => d :: 'e' :: exponentText (point - 1)
    | d :: rest => d :: '.' :: rest ++ 'e' :: exponentText (point - 1)

def text : Binary64 → String
  | nan => "nan"
  | infinite negative => if negative then "-inf" else "inf"
  | finite negative s e =>
    let body :=
      if s = 0 then ['0','.','0']
      else
        let (d,k) := shortest s e
        let all := Nat.toDigits 10 d
        layout (dropZeros all) (all.length + k)
    String.ofList (if negative then '-' :: body else body)

end FormGuard.Binary64
