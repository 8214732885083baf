/-! Heaps. The places of an array stand for a tree: below place `i` are the places `2 * i + 1` and `2 * i + 2`. What is
put in or taken out moves along one path of the tree, so that nothing comes before what stands above it and the first of
all is at the top. -/
namespace FormGuard

structure Slot (α : Type) where
  -- milliseconds on the clock
  due : Int
  stamp : Nat
  payload : α
  deriving Repr

namespace Slot

variable {α : Type}

def Before (a b : Slot α) : Prop := a.due < b.due ∨ a.due = b.due ∧ a.stamp < b.stamp

instance (a b : Slot α) : Decidable (a.Before b) := inferInstanceAs (Decidable (_ ∨ _))

end Slot

namespace Heap

variable {α : Type}

def parent (i : Nat) : Nat := (i - 1) / 2

theorem parentBefore {i : Nat} (below : 0 < i) : parent i < i := by
  unfold parent
  omega

def rise (h : Array (Slot α)) (i : Nat) : Array (Slot α) :=
  if inside : 0 < i ∧ i < h.size then
    have := parentBefore inside.1
    if h[i].Before h[parent i] then rise (h.swap i (parent i)) (parent i) else h
  else h
termination_by i

def firstBelow (h : Array (Slot α)) (i : Nat) : Nat :=
  if inside : 2 * i + 2 < h.size then
    if h[2 * i + 1].Before h[2 * i + 2] then 2 * i + 1 else 2 * i + 2
  else 2 * i + 1

theorem firstBelowInside {h : Array (Slot α)} {i : Nat} (inside : 2 * i + 1 < h.size) :
    (firstBelow h i = 2 * i + 1 ∨ firstBelow h i = 2 * i + 2) ∧ firstBelow h i < h.size := by
  unfold firstBelow
  split
  · split <;> omega
  · omega

def sink (h : Array (Slot α)) (i : Nat) : Array (Slot α) :=
  if inside : 2 * i + 1 < h.size then
    have := firstBelowInside inside
    if h[firstBelow h i].Before h[i] then sink (h.swap i (firstBelow h i)) (firstBelow h i) else h
  else h
termination_by h.size - i
decreasing_by
  rw [Array.size_swap]
  omega

def insert (h : Array (Slot α)) (d : Slot α) : Array (Slot α) := rise (h.push d) h.size

def takeFirst? (h : Array (Slot α)) : Option (Slot α × Array (Slot α)) :=
  match h.back? with
  | none => none
  | some last =>
    match h.pop[0]? with
    | none => some (last,h.pop)
    | some first => some (first,sink (h.pop.setIfInBounds 0 last) 0)

def sinkAll : (n : Nat) → Array (Slot α) → Array (Slot α)
  | 0,h => h
  | n + 1,h => sinkAll n (sink h n)

def ofArray (h : Array (Slot α)) : Array (Slot α) := sinkAll (h.size / 2) h

/-! Whatever moves, the same slots are there. -/

theorem risePerm (h : Array (Slot α)) (i : Nat) : (rise h i).toList.Perm h.toList := by
  fun_induction rise h i with
  | case1 h i _ _ _ ih => exact ih.trans (Array.swap_perm _ _).toList
  | case2 => exact .refl _
  | case3 => exact .refl _

theorem sinkPerm (h : Array (Slot α)) (i : Nat) : (sink h i).toList.Perm h.toList := by
  fun_induction sink h i with
  | case1 h i _ _ _ ih => exact ih.trans (Array.swap_perm _ _).toList
  | case2 => exact .refl _
  | case3 => exact .refl _

theorem insertPerm (h : Array (Slot α)) (d : Slot α) : (insert h d).toList.Perm (d :: h.toList) := by
  refine (risePerm _ _).trans ?_
  rw [Array.toList_push]
  exact List.perm_append_singleton d h.toList

theorem sinkAllPerm (n : Nat) (h : Array (Slot α)) : (sinkAll n h).toList.Perm h.toList := by
  induction n generalizing h with
  | zero => exact .refl _
  | succ n ih => exact (ih _).trans (sinkPerm h n)

theorem ofArrayPerm (h : Array (Slot α)) : (ofArray h).toList.Perm h.toList := sinkAllPerm _ h

theorem takeFirstNone {h : Array (Slot α)} : takeFirst? h = none ↔ h = #[] := by
  unfold takeFirst?
  cases back : h.back? with
  | none => simpa using back
  | some last =>
    have filled : h ≠ #[] := by
      rintro rfl
      simp at back
    dsimp only
    split <;> simp [filled]

theorem takeFirstPerm {h rest : Array (Slot α)} {d : Slot α} (taken : takeFirst? h = some (d,rest)) :
    h[0]? = some d ∧ h.toList.Perm (d :: rest.toList) := by
  unfold takeFirst? at taken
  split at taken
  · contradiction
  · rename_i last back
    obtain ⟨⟨front⟩,rfl⟩ := Array.back?_eq_some_iff.mp back
    rw [Array.pop_push] at taken
    cases front with
    | nil =>
      cases taken
      exact ⟨rfl,.refl _⟩
    | cons first others =>
      cases taken
      have placed : (sink (Array.setIfInBounds ⟨first :: others⟩ 0 last) 0).toList.Perm (last :: others) := sinkPerm _ 0
      rw [Array.toList_push]
      exact ⟨rfl,((List.perm_append_singleton last others).trans placed.symm).cons first⟩

end Heap
end FormGuard
