import FormGuard.Fault

/-! Instants of the Gregorian calendar between the years 1 and 9999, to the second. -/
namespace FormGuard

def isLeapYear (year : Nat) : Bool := year % 4 == 0 && (year % 100 != 0 || year % 400 == 0)

def daysIn (year month : Nat) : Nat :=
  if month = 2 then if isLeapYear year then 29 else 28
  else if month = 4 ∨ month = 6 ∨ month = 9 ∨ month = 11 then 30
  else 31

structure Instant where
  year : Nat
  month : Nat
  day : Nat
  hour : Nat
  minute : Nat
  second : Nat
  yearOk : 1 ≤ year ∧ year ≤ 9999
  dateOk : 1 ≤ month ∧ month ≤ 12 ∧ 1 ≤ day ∧ day ≤ daysIn year month
  timeOk : hour < 24 ∧ minute < 60 ∧ second < 60
  deriving DecidableEq, Repr

namespace Instant

structure Reading where
  year : Int
  month : Int
  day : Int
  hour : Int
  minute : Int
  second : Int
  deriving DecidableEq, Repr

namespace Reading

def fields (r : Reading) : List Int := [r.year,r.month,r.day,r.hour,r.minute,r.second]

def fitsWord (n : Int) : Bool := -2147483648 ≤ n && n ≤ 2147483647

/-- The instant with these fields. A field beyond 32 bits overflows, before the calendar is asked. -/
def instant (r : Reading) : Except Fault Instant :=
  if r.fields.all fitsWord then
    if 0 ≤ r.year ∧ 0 ≤ r.month ∧ 0 ≤ r.day ∧ 0 ≤ r.hour ∧ 0 ≤ r.minute ∧ 0 ≤ r.second then
      if yearOk : 1 ≤ r.year.toNat ∧ r.year.toNat ≤ 9999 then
        if dateOk : 1 ≤ r.month.toNat ∧ r.month.toNat ≤ 12 ∧ 1 ≤ r.day.toNat ∧
            r.day.toNat ≤ daysIn r.year.toNat r.month.toNat then
          if timeOk : r.hour.toNat < 24 ∧ r.minute.toNat < 60 ∧ r.second.toNat < 60 then
            .ok ⟨_,_,_,_,_,_,yearOk,dateOk,timeOk⟩
          else .error .badValue
        else .error .badValue
      else .error .badValue
    else .error .badValue
  else .error .overflow

end Reading

def fields (i : Instant) : List Nat := [i.year,i.month,i.day,i.hour,i.minute,i.second]

def order (i j : Instant) : Ordering :=
  (compare i.year j.year).then <| (compare i.month j.month).then <| (compare i.day j.day).then <|
    (compare i.hour j.hour).then <| (compare i.minute j.minute).then <| compare i.second j.second

end Instant
end FormGuard
