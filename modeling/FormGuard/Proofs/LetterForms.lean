import FormGuard.Pattern.Expr

/-! Characters that a search without regard to letter case takes for one another. The tables are looked into once: every character is a
raising of its lower-case form, and below the first character that shares an upper-case form with another one only the letters of the Latin
alphabet have two forms. -/
namespace FormGuard.Text

theorem lastStartInside {runs : Array Run} {n lo hi r} (found : Run.lastStart runs n lo hi = some r) : r ∈ runs.toList := by
  fun_induction Run.lastStart runs n lo hi with
  | case1 lo hi _ mid r' at' _ ih =>
    cases Option.or_eq_some_iff.mp found with
    | inl later => exact ih later
    | inr here => exact Option.some.inj here.2 ▸ Array.mem_toList_iff.mpr (Array.mem_of_getElem? at')
  | case2 lo hi _ mid r' _ _ ih => exact ih found
  | case3 => cases found
  | case4 => cases found

theorem Run.sourceImage {r : Run} {n m} (image : r.image? n = some m) : r.source? m = some n := by
  unfold Run.image? at image
  split at image
  · rename_i inside
    cases image
    have back : r.target+(n-r.first)-r.target = n-r.first := by omega
    rw [Run.source?,back,if_pos ⟨by omega,by omega,inside.2.2⟩]
    congr 1
    omega
  · contradiction

theorem lowerRaised (n : Nat) : n ∈ raisings (lower n) := by
  have raised {r m} (inside : r ∈ lowerRuns.toList) (source : r.source? m = some n) : n ∈ raisings m :=
    List.mem_cons_of_mem _ (List.mem_filterMap.mpr ⟨r,inside,source⟩)
  unfold lower asciiLower
  split
  · split
    · have image : Run.image? ⟨65,90,1,97⟩ n = some (n+32) := by
        simp only [Run.image?,Nat.mod_one]
        grind
      exact raised (List.mem_of_getElem? (i := 0) rfl) (Run.sourceImage image)
    · exact List.mem_cons_self
  · unfold Run.apply
    split
    · rename_i r found
      cases image : r.image? n with
      | none => exact List.mem_cons_self
      | some m => exact raised (lastStartInside found) (Run.sourceImage image)
    · exact List.mem_cons_self

/-! ## Low characters -/

theorem runsLow : ∀ r ∈ lowerRuns.toList, r.first < 105 ∨ r.target < 105 →
    r.first = 65 ∧ r.last = 90 ∧ r.target = 97 := by decide +kernel

theorem familiesHigh : ∀ f ∈ lowerFamilies.toList, ∀ n ∈ f, 105 ≤ n := by decide

theorem lowerFixed {n : Nat} (low : n < 105) (small : n < 65 ∨ 90 < n) : lower n = n := by
  rw [lower,asciiLower,if_pos (by omega),if_neg (by omega)]

theorem lowerCapital {n : Nat} (capital : 65 ≤ n ∧ n ≤ 90) : lower n = n+32 := by
  rw [lower,asciiLower,if_pos (by omega),if_pos capital]

section Low
variable {m n : Nat} (low : m < 105)
include low

theorem raisingsLow (raised : n ∈ raisings m) : n = m ∨ 97 ≤ m ∧ n+32 = m := by
  rcases List.mem_cons.mp raised with same | raised
  · exact .inl same
  · obtain ⟨r,inside,source⟩ := List.mem_filterMap.mp raised
    unfold Run.source? at source
    split at source
    · have alone := runsLow r inside (.inr (by omega))
      have := Option.some.inj source
      omega
    · contradiction

theorem familyLow : m ∈ family n ↔ n = m := by
  unfold family
  cases found : lowerFamilies.find? (·.contains n) with
  | none => exact List.mem_singleton.trans eq_comm
  | some f =>
    have high := familiesHigh f (Array.mem_toList_iff.mpr (Array.mem_of_find?_eq_some found))
    have inside : n ∈ f := by simpa using Array.find?_some found
    refine iff_of_false (fun member => ?_) fun same => ?_
    · exact absurd (high m member) (by omega)
    · exact absurd (high n inside) (by omega)

theorem lowerLow (same : lower n = m) : n = m ∨ 97 ≤ m ∧ n+32 = m :=
  raisingsLow low (same ▸ lowerRaised n)

theorem variantsLow (small : m < 65 ∨ 90 < m) : m ∈ variants n ↔ lower n = m := by
  rw [variants,List.mem_flatMap]
  constructor
  · rintro ⟨a,member,raised⟩
    rcases List.mem_cons.mp raised with rfl | raised
    · exact (familyLow low).mp member
    · obtain ⟨r,inside,source⟩ := List.mem_filterMap.mp raised
      unfold Run.source? at source
      split at source
      · have := Option.some.inj source
        have alone := runsLow r inside (.inl (by omega))
        omega
      · contradiction
  · exact fun same => ⟨m,(familyLow low).mpr same,List.mem_cons_self⟩

theorem sameLetterLow (small : m < 65 ∨ 90 < m) : sameLetter n m = true ↔ lower n = m := by
  unfold sameLetter
  simp only [lowerFixed low small]
  split
  · exact beq_iff_eq
  · rw [Bool.or_eq_true,beq_iff_eq,List.contains_iff_mem,familyLow low,or_self]

end Low

end FormGuard.Text

namespace FormGuard.Pattern
open Text

theorem charAlone {m n : Nat} (plain : m < 65 ∨ 90 < m ∧ m < 97) (ascii : Bool) :
    Item.holds .full ascii n (.char m) = true ↔ n = m := by
  rw [Item.holds,sameLetterLow (by omega) (by omega)]
  constructor
  · intro same
    have := lowerLow (by omega) same
    omega
  · rintro rfl
    exact lowerFixed (by omega) (by omega)

theorem rangeLow {lo hi n : Nat} (low : hi < 105) (small : hi < 65 ∨ 90 < lo) (ascii : Bool) :
    Item.holds .full ascii n (.range lo hi) = true ↔ lo ≤ lower n ∧ lower n ≤ hi := by
  have inside {m} : inRange lo hi m = true ↔ lo ≤ m ∧ m ≤ hi := by simp [inRange]
  simp only [Item.holds,Bool.or_eq_true,List.any_eq_true,inside]
  constructor
  · rintro (here | ⟨m,member,here⟩)
    · rwa [lowerFixed (by omega) (by omega)]
    · rwa [(variantsLow (by omega) (by omega)).mp member]
  · exact fun here => .inr ⟨lower n,(variantsLow (by omega) (by omega)).mpr rfl,here⟩

end FormGuard.Pattern
