import FormGuard.Schedule.Heap

/-! The order of a heap. A slot that moves up or down leaves at most the pairs it stands in out of order, and what stood
above it comes no later than what stands below it; where it stops the order is whole again. So what is put in leaves a
heap, what is taken out was the first of all, and any array can be put in order. -/
namespace FormGuard
namespace Slot
variable {α : Type} {a b c : Slot α}

theorem notBeforeSelf : ¬ a.Before a := by
  unfold Before
  omega

theorem Before.asymm (first : a.Before b) : ¬ b.Before a := by
  unfold Before at *
  omega

theorem notBeforeTrans (first : ¬ a.Before b) (second : ¬ b.Before c) : ¬ a.Before c := by
  unfold Before at *
  omega

end Slot

namespace Heap
variable {α : Type}

theorem parentLeft (i : Nat) : parent (2 * i + 1) = i := by
  unfold parent
  omega

theorem parentRight (i : Nat) : parent (2 * i + 2) = i := by
  unfold parent
  omega

theorem parentSides {i : Nat} (below : 0 < i) : i = 2 * parent i + 1 ∨ i = 2 * parent i + 2 := by
  unfold parent
  omega

def Ordered (lo : Nat) (h : Array (Slot α)) : Prop :=
  ∀ k j (_ : k < h.size) (_ : j < h.size), 0 < k → j = parent k → lo ≤ j → ¬ h[k].Before h[j]

structure Rising (h : Array (Slot α)) (i : Nat) : Prop where
  beside : ∀ k j (_ : k < h.size) (_ : j < h.size), 0 < k → j = parent k → k ≠ i → ¬ h[k].Before h[j]
  around : ∀ k j (_ : k < h.size) (_ : j < h.size), 0 < k → parent k = i → 0 < i → j = parent i → ¬ h[k].Before h[j]

structure Sinking (lo : Nat) (h : Array (Slot α)) (i : Nat) : Prop where
  beside : ∀ k j (_ : k < h.size) (_ : j < h.size), 0 < k → j = parent k → lo ≤ j → j ≠ i → ¬ h[k].Before h[j]
  around : ∀ k j (_ : k < h.size) (_ : j < h.size), 0 < k → parent k = i → 0 < i → j = parent i → lo ≤ j →
    ¬ h[k].Before h[j]

theorem Rising.up {h : Array (Slot α)} {i : Nat} (rising : Rising h i) (below : 0 < i) (inside : i < h.size)
    (above : parent i < h.size) (early : h[i].Before h[parent i]) : Rising (h.swap i (parent i)) (parent i) where
  beside k j hk hj pos up moved := by
    rw [Array.size_swap] at hk hj
    rw [Array.getElem_swap,Array.getElem_swap]
    by_cases own : k = i
    · subst own up
      rw [if_pos rfl,if_neg (Nat.ne_of_lt (parentBefore pos)),if_pos rfl]
      exact early.asymm
    · rw [if_neg own,if_neg moved]
      by_cases under : j = i
      · rw [if_pos under]
        exact rising.around k (parent i) hk above pos (up.symm.trans under) below rfl
      · rw [if_neg under]
        split
        · rename_i sibling
          exact Slot.notBeforeTrans (rising.beside k (parent i) hk above pos (sibling ▸ up) own) early.asymm
        · exact rising.beside k j hk hj pos up own
  around k j hk hj pos under top up := by
    have first := parentBefore pos
    have second := parentBefore below
    have third := parentBefore top
    rw [Array.size_swap] at hk hj
    have grand := rising.beside (parent i) j above hj top up (Nat.ne_of_lt second)
    rw [Array.getElem_swap,Array.getElem_swap,if_neg (by omega : j ≠ i),if_neg (by omega : j ≠ parent i)]
    by_cases own : k = i
    · rw [if_pos own]
      exact grand
    · rw [if_neg own,if_neg (by omega : k ≠ parent i)]
      exact Slot.notBeforeTrans (rising.beside k (parent i) hk above pos under.symm own) grand

theorem riseOrdered {h : Array (Slot α)} {i : Nat} (rising : Rising h i) : Ordered 0 (rise h i) := by
  fun_induction rise h i with
  | case1 h i inside _ early ih => exact ih (rising.up inside.1 inside.2 _ early)
  | case2 h i inside _ late =>
    intro k j hk hj pos up _
    by_cases own : k = i
    · subst own up
      exact late
    · exact rising.beside k j hk hj pos up own
  | case3 h i outside =>
    intro k j hk hj pos up _
    exact rising.beside k j hk hj pos up (by omega)

theorem Sinking.down {lo : Nat} {h : Array (Slot α)} {i c : Nat} (sinking : Sinking lo h i) (under : parent c = i)
    (pos : 0 < c) (place : i < h.size) (inside : c < h.size) (early : h[c].Before h[i])
    (first : ∀ k (_ : k < h.size), 0 < k → parent k = i → ¬ h[k].Before h[c]) : Sinking lo (h.swap i c) c where
  beside k j hk hj below up upper moved := by
    have above := parentBefore below
    rw [Array.size_swap] at hk hj
    rw [Array.getElem_swap,Array.getElem_swap]
    by_cases hole : j = i
    · rw [if_pos hole,if_neg (by omega : k ≠ i)]
      split
      · exact early.asymm
      · exact first k hk below (up.symm.trans hole)
    · rw [if_neg hole,if_neg moved]
      by_cases top : k = i
      · rw [if_pos top]
        exact sinking.around c j inside hj pos under (top ▸ below) (top ▸ up) upper
      · rw [if_neg top,if_neg (by rintro rfl; exact hole (up.trans under))]
        exact sinking.beside k j hk hj below up upper hole
  around k j hk hj below down _ up upper := by
    have deep := parentBefore below
    have above := parentBefore pos
    rw [Array.size_swap] at hk hj
    rw [Array.getElem_swap,Array.getElem_swap,if_neg (by omega : k ≠ i),if_neg (by omega : k ≠ c),
      if_pos (up.trans under)]
    exact sinking.beside k c hk inside below down.symm (by omega) (by omega)

theorem firstBelowUnder {h : Array (Slot α)} {i : Nat} (inside : 2 * i + 1 < h.size) :
    parent (firstBelow h i) = i ∧ 0 < firstBelow h i := by
  rcases (firstBelowInside inside).1 with same | same <;> rw [same]
  · exact ⟨parentLeft i,by omega⟩
  · exact ⟨parentRight i,by omega⟩

theorem firstBelowFirst {h : Array (Slot α)} {i k : Nat} (place : firstBelow h i < h.size) (hk : k < h.size)
    (pos : 0 < k) (under : parent k = i) : ¬ h[k].Before h[firstBelow h i] := by
  have sides := parentSides pos
  rw [under] at sides
  have told : firstBelow h i = k ∨ ∃ c, ∃ inside : c < h.size, firstBelow h i = c ∧ ¬ h[k].Before h[c] := by
    unfold firstBelow
    split
    · rename_i both
      split
      · rename_i left
        rcases sides with rfl | rfl
        · exact .inl rfl
        · exact .inr ⟨_,Nat.lt_of_succ_lt both,rfl,left.asymm⟩
      · rename_i right
        rcases sides with rfl | rfl
        · exact .inr ⟨_,both,rfl,right⟩
        · exact .inl rfl
    · exact .inl (by omega)
  rcases told with same | ⟨c,inside,same,late⟩
  · simp only [same]
    exact Slot.notBeforeSelf
  · simp only [same]
    exact late

theorem sinkOrdered {lo : Nat} {h : Array (Slot α)} {i : Nat} (sinking : Sinking lo h i) : Ordered lo (sink h i) := by
  fun_induction sink h i with
  | case1 h i inside place early ih =>
    have under := firstBelowUnder inside
    exact ih (sinking.down under.1 under.2 (by omega) place.2 early fun k => firstBelowFirst place.2)
  | case2 h i inside place late =>
    intro k j hk hj pos up upper
    by_cases hole : j = i
    · subst hole
      exact Slot.notBeforeTrans (firstBelowFirst place.2 hk pos up.symm) late
    · exact sinking.beside k j hk hj pos up upper hole
  | case3 h i outside =>
    intro k j hk hj pos up upper
    have sides := parentSides pos
    exact sinking.beside k j hk hj pos up upper (by omega)

theorem insertOrdered {h : Array (Slot α)} (order : Ordered 0 h) (d : Slot α) : Ordered 0 (insert h d) := by
  refine riseOrdered ⟨?_,?_⟩
  · intro k j hk hj pos up moved
    have above := parentBefore pos
    rw [Array.size_push] at hk
    have within : k < h.size := by omega
    rw [Array.getElem_push_lt within,Array.getElem_push_lt (by omega : j < h.size)]
    exact order k j within _ pos up (Nat.zero_le _)
  · intro k j hk hj pos under _ _
    have above := parentBefore pos
    rw [Array.size_push] at hk
    omega

theorem takeFirstOrdered {h rest : Array (Slot α)} {d : Slot α} (order : Ordered 0 h)
    (taken : takeFirst? h = some (d,rest)) : Ordered 0 rest := by
  have kept : Ordered 0 h.pop := by
    intro k j hk hj pos up low
    rw [Array.getElem_pop,Array.getElem_pop]
    exact order k j _ _ pos up low
  unfold takeFirst? at taken
  split at taken
  · contradiction
  · split at taken
    · cases taken
      exact kept
    · cases taken
      refine sinkOrdered ⟨?_,?_⟩
      · intro k j hk hj pos up low moved
        rw [Array.size_setIfInBounds] at hk hj
        rw [Array.getElem_setIfInBounds hk,Array.getElem_setIfInBounds hj,if_neg (Nat.ne_of_lt pos),if_neg moved.symm]
        exact kept k j hk hj pos up low
      · intro _ _ _ _ _ _ pos
        omega

theorem sinkAllOrdered {n : Nat} {h : Array (Slot α)} (order : Ordered n h) : Ordered 0 (sinkAll n h) := by
  induction n generalizing h with
  | zero => exact order
  | succ n ih =>
    refine ih (sinkOrdered ⟨?_,?_⟩)
    · intro k j hk hj pos up low moved
      exact order k j hk hj pos up (by omega)
    · intro k j hk hj _ _ pos up low
      have := parentBefore pos
      omega

theorem ofArrayOrdered (h : Array (Slot α)) : Ordered 0 (ofArray h) := by
  refine sinkAllOrdered ?_
  intro k j hk hj pos up low
  have sides := parentSides pos
  omega

theorem topFirst {h : Array (Slot α)} (order : Ordered 0 h) (k : Nat) (hk : k < h.size) (top : 0 < h.size) :
    ¬ h[k].Before h[0] := by
  induction k using Nat.strongRecOn with
  | ind k ih =>
    rcases Nat.eq_zero_or_pos k with rfl | pos
    · exact Slot.notBeforeSelf
    · have above := parentBefore pos
      exact Slot.notBeforeTrans (order k (parent k) hk (by omega) pos rfl (Nat.zero_le _)) (ih _ above (by omega))

theorem takenFirst {h rest : Array (Slot α)} {d e : Slot α} (order : Ordered 0 h)
    (taken : takeFirst? h = some (d,rest)) (member : e ∈ rest.toList) : ¬ e.Before d := by
  obtain ⟨top,perm⟩ := takeFirstPerm taken
  have held : e ∈ h := Array.mem_toList_iff.mp (perm.mem_iff.mpr (List.mem_cons_of_mem _ member))
  obtain ⟨k,hk,rfl⟩ := Array.getElem_of_mem held
  obtain ⟨inside,rfl⟩ := Array.getElem?_eq_some_iff.mp top
  exact topFirst order k hk inside

end Heap
end FormGuard
