import FormGuard.Calendar.Instant
import Mathlib.Algebra.BigOperators.Intervals
import Mathlib.Algebra.Order.BigOperators.Group.Finset

/-! Instants as points of time. The fields of an instant are what is written; the seconds that have passed since the calendar
began are what it stands for, and the order of instants is that of these seconds. -/
namespace FormGuard.Instant

/-! ## From fields -/

def reading (i : Instant) : Reading := ⟨i.year,i.month,i.day,i.hour,i.minute,i.second⟩

theorem monthShort (year month : Nat) : daysIn year month ≤ 31 := by
  unfold daysIn
  repeat' split
  all_goals omega

theorem readingFits (i : Instant) : i.reading.fields.all Reading.fitsWord = true := by
  have := monthShort i.year i.month
  have := i.yearOk
  have := i.dateOk
  have := i.timeOk
  simp only [reading,Reading.fields,Reading.fitsWord,List.all_cons,List.all_nil,Bool.and_true,Bool.and_eq_true,decide_eq_true_eq]
  omega

theorem instantIff {r : Reading} {i : Instant} : r.instant = .ok i ↔ r = i.reading := by
  constructor
  · intro made
    unfold Reading.instant at made
    split at made
    · split at made
      · rename_i positive
        repeat' split at made
        all_goals cases made
        obtain ⟨y,m,d,h,min,s⟩ := r
        simp only [reading,Reading.mk.injEq]
        dsimp only at positive
        omega
      · contradiction
    · contradiction
  · rintro rfl
    have positive : 0 ≤ i.reading.year ∧ 0 ≤ i.reading.month ∧ 0 ≤ i.reading.day ∧ 0 ≤ i.reading.hour ∧
        0 ≤ i.reading.minute ∧ 0 ≤ i.reading.second := by simp [reading]
    rw [Reading.instant,if_pos i.readingFits,if_pos positive]
    exact (dif_pos i.yearOk).trans ((dif_pos i.dateOk).trans (dif_pos i.timeOk))

/-! ## In time -/

def yearLength (year : Nat) : Nat := ∑ month ∈ Finset.Icc 1 12, daysIn year month

def daysBeforeYear (year : Nat) : Nat := ∑ y ∈ Finset.Ico 1 year, yearLength y

def daysBeforeMonth (year month : Nat) : Nat := ∑ m ∈ Finset.Ico 1 month, daysIn year m

def daysBefore (i : Instant) : Nat := daysBeforeYear i.year+daysBeforeMonth i.year i.month+(i.day-1)

def elapsed (i : Instant) : Nat := i.daysBefore*86400+(i.hour*3600+i.minute*60+i.second)

theorem yearLater {y z : Nat} (first : 1 ≤ y) (later : y < z) : daysBeforeYear y+yearLength y ≤ daysBeforeYear z := by
  unfold daysBeforeYear
  rw [← Finset.sum_Ico_succ_top first]
  exact Finset.sum_le_sum_of_subset (Finset.Ico_subset_Ico_right later)

theorem monthLater {year m n : Nat} (first : 1 ≤ m) (later : m < n) :
    daysBeforeMonth year m+daysIn year m ≤ daysBeforeMonth year n := by
  unfold daysBeforeMonth
  rw [← Finset.sum_Ico_succ_top first]
  exact Finset.sum_le_sum_of_subset (Finset.Ico_subset_Ico_right later)

theorem dayWithin (i : Instant) : daysBeforeMonth i.year i.month+(i.day-1) < yearLength i.year := by
  have := i.dateOk
  have month : _ ≤ daysBeforeMonth i.year (i.month+1) := monthLater i.dateOk.1 (Nat.lt_succ_self i.month)
  have year : daysBeforeMonth i.year (i.month+1) ≤ yearLength i.year :=
    Finset.sum_le_sum_of_subset fun m inside => by
      simp only [Finset.mem_Ico,Finset.mem_Icc] at inside ⊢
      omega
  omega

theorem fieldFirst {a b x y : Nat} {rest : Ordering} (less : a < b → x < y) (greater : b < a → y < x)
    (same : a = b → rest = compare x y) : (compare a b).then rest = compare x y := by
  rcases Nat.lt_trichotomy a b with below | rfl | above
  · rw [Nat.compare_eq_lt.mpr below,Nat.compare_eq_lt.mpr (less below)]
    rfl
  · rw [Nat.compare_eq_eq.mpr rfl,same rfl]
    rfl
  · rw [Nat.compare_eq_gt.mpr above,Nat.compare_eq_gt.mpr (greater above)]
    rfl

theorem dayEarlier {i j : Instant} (earlier : i.daysBefore < j.daysBefore) : i.elapsed < j.elapsed := by
  have := i.timeOk
  unfold elapsed
  omega

theorem yearEarlier {i j : Instant} (earlier : i.year < j.year) : i.daysBefore < j.daysBefore := by
  have := yearLater i.yearOk.1 earlier
  have := i.dayWithin
  unfold daysBefore
  omega

theorem monthEarlier {i j : Instant} (same : i.year = j.year) (earlier : i.month < j.month) : i.daysBefore < j.daysBefore := by
  have later : daysBeforeMonth i.year i.month+daysIn i.year i.month ≤ daysBeforeMonth i.year j.month :=
    monthLater i.dateOk.1 earlier
  have := i.dateOk
  have := j.dateOk
  unfold daysBefore
  rw [← same]
  omega

theorem orderElapsed (i j : Instant) : i.order j = compare i.elapsed j.elapsed := by
  have := i.dateOk
  have := j.dateOk
  have := i.timeOk
  have := j.timeOk
  unfold order
  refine fieldFirst (fun less => dayEarlier (yearEarlier less)) (fun greater => dayEarlier (yearEarlier greater)) fun year => ?_
  refine fieldFirst (fun less => dayEarlier (monthEarlier year less))
    (fun greater => dayEarlier (monthEarlier year.symm greater)) fun month => ?_
  -- In one month, the days before are those of the month and what has passed of it.
  have days : i.daysBefore+(j.day-1) = j.daysBefore+(i.day-1) := by
    unfold daysBefore
    rw [year,month]
    omega
  unfold elapsed
  refine fieldFirst (by omega) (by omega) fun day => ?_
  refine fieldFirst (by omega) (by omega) fun hour => ?_
  refine fieldFirst (by omega) (by omega) fun minute => ?_
  have seconds : compare i.second j.second = (compare i.second j.second).then .eq := by cases compare i.second j.second <;> rfl
  rw [seconds]
  exact fieldFirst (by omega) (by omega) fun second => (Nat.compare_eq_eq.mpr (by omega)).symm

end FormGuard.Instant
