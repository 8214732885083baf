/-! Double-precision numbers as exact dyadic values. A finite number is `±significand · 2 ^ exponent`, with the
exponent as small as 53 bits and the least exponent allow; `roundQuotient` takes a quotient to
the nearest of them, a tie to the even significand. -/
namespace FormGuard

inductive Binary64 where
  | nan
  | infinite (negative : Bool)
  | finite (negative : Bool) (significand : Nat) (exponent : Int)
  deriving DecidableEq, Repr

namespace Binary64

def leastExponent : Int := -1074
def greatestExponent : Int := 971

def ofZero (negative : Bool) : Binary64 := finite negative 0 leastExponent

def inUnits (num den : Nat) (e : Int) : Nat × Nat :=
  if 0 ≤ e then (num,den * Nat.pow 2 e.toNat) else (num * Nat.pow 2 (-e).toNat,den)

def roundHalfEven (num den : Nat) : Nat :=
  let q := num / den
  let r := num % den
  if den < 2 * r ∨ (2 * r = den ∧ q % 2 = 1) then q + 1 else q

def roundQuotient (negative : Bool) (num den : Nat) : Binary64 :=
  if num = 0 then ofZero negative
  else
    let guess : Int := num.log2 - den.log2 - 52
    let (a,b) := inUnits num den guess
    let e := max leastExponent (if a / b < Nat.pow 2 52 then guess - 1 else guess)
    let (a,b) := inUnits num den e
    let q := roundHalfEven a b
    let (q,e) := if q = Nat.pow 2 53 then (Nat.pow 2 52,e + 1) else (q,e)
    if greatestExponent < e then infinite negative else finite negative q e

/-- `digits · 10 ^ exponent`, rounded. Magnitudes far outside the range are settled without computing the power. -/
def ofDecimal (negative : Bool) (digits : Nat) (exponent : Int) : Binary64 :=
  if digits = 0 then ofZero negative
  else if 400 < exponent then infinite negative
  else if (digits.log2 : Int) / 3 + 1 + exponent < -400 then ofZero negative
  else if 0 ≤ exponent then roundQuotient negative (digits * Nat.pow 10 exponent.toNat) 1
  else roundQuotient negative digits (Nat.pow 10 (-exponent).toNat)

def ofInt? (n : Int) : Option Binary64 :=
  match roundQuotient (n < 0) n.natAbs 1 with
  | infinite _ => none
  | x => some x

def dyadic? : Binary64 → Option (Int × Nat)
  | finite negative s e =>
    let m : Int := if negative then -s else s
    some (if 0 ≤ e then (m * Nat.pow 2 e.toNat,0) else (m,(-e).toNat))
  | _ => none

def compareDyadic (x y : Int × Nat) : Ordering := 
  compare (x.1 * Nat.pow 2 y.2) (y.1 * Nat.pow 2 x.2)

def compare? : Binary64 → Binary64 → Option Ordering
  | nan,_ => none
  | _,nan => none
  | infinite a,infinite b => some (compare b.toNat a.toNat)
  | infinite a,finite .. => some (if a then .lt else .gt)
  | finite ..,infinite b => some (if b then .gt else .lt)
  | x,y => do return compareDyadic (← x.dyadic?) (← y.dyadic?)

def compareInt? (x : Binary64) (n : Int) : Option Ordering :=
  match x with
  | nan => none
  | infinite negative => some (if negative then .lt else .gt)
  | finite .. => do return compareDyadic (← x.dyadic?) (n,0)

def isNan : Binary64 → Bool
  | nan => true
  | _ => false

def isZero : Binary64 → Bool
  | finite _ s _ => s == 0
  | _ => false

def toInt? (x : Binary64) : Option Int := do
  let (m,shift) ← x.dyadic?
  let unit : Nat := Nat.pow 2 shift
  if m % unit = 0 then some (m / unit) else none

def bits : Binary64 → Nat
  | nan => 0x7ff8000000000000
  | infinite negative => negative.toNat * Nat.pow 2 63 + 0x7ff * Nat.pow 2 52
  | finite negative s e =>
    negative.toNat * Nat.pow 2 63 + if s < Nat.pow 2 52 then s else (e + 1074).toNat * Nat.pow 2 52 + s

end Binary64
end FormGuard
