/-! Tables of named entries, in the order in which the names first came. `put` replaces an entry in its place, so names
that are distinct stay distinct. -/
namespace FormGuard

abbrev Table (α : Type) := List (String × α)

namespace Table

variable {α : Type}

def names (t : Table α) : List String := t.map (·.1)

def entries (t : Table α) : List α := t.map (·.2)

def get? (t : Table α) (name : String) : Option α := t.lookup name

def has (t : Table α) (name : String) : Bool := (t.get? name).isSome

def put : Table α → String → α → Table α
  | [],name,a => [(name,a)]
  | (n,b) :: rest,name,a => if n = name then (name,a) :: rest else (n,b) :: put rest name a

def drop (t : Table α) (name : String) : Table α := t.filter (·.1 != name)

def overlay (lower upper : Table α) : Table α := upper.foldl (fun t (n,a) => put t n a) lower

theorem getOfCons (n name : String) (a : α) (t : Table α) :
    get? ((n,a) :: t) name = if name = n then some a else get? t name := by
  unfold get?
  rw [List.lookup_cons]
  by_cases h : name = n
  · simp [h]
  · rw [beq_false_of_ne h,if_neg h]

theorem getAfterPut (t : Table α) (n name : String) (a : α) :
    get? (put t n a) name = if name = n then some a else get? t name := by
  induction t with
  | nil => simp [put,getOfCons]
  | cons e rest ih =>
    obtain ⟨m,b⟩ := e
    simp only [put]
    split
    · rename_i h
      subst h
      simp only [getOfCons]
      split <;> rfl
    · rename_i h
      simp only [getOfCons,ih]
      by_cases hm : name = m
      · subst hm; simp [h]
      · simp [hm]

theorem getAfterDrop (t : Table α) (n name : String) :
    get? (drop t n) name = if name = n then none else get? t name := by
  induction t with
  | nil => simp [drop,get?]
  | cons e rest ih =>
    obtain ⟨m,b⟩ := e
    simp only [drop] at ih ⊢
    by_cases hm : m = n
    · subst hm
      simp only [List.filter_cons,bne_self_eq_false,Bool.false_eq_true,if_false,ih,getOfCons]
      split <;> rfl
    · simp only [List.filter_cons,bne_iff_ne,ne_eq,hm,not_false_eq_true,if_true,getOfCons,ih]
      by_cases hn : name = m
      · subst hn; simp [hm]
      · simp [hn]

theorem namedIff {t : Table α} {name : String} : name ∈ names t ↔ ∃ a, get? t name = some a := by
  induction t with
  | nil => simp [names,get?]
  | cons e rest ih =>
    obtain ⟨m,b⟩ := e
    simp only [names,List.map_cons,List.mem_cons] at ih ⊢
    rw [ih,getOfCons]
    by_cases h : name = m <;> simp [h]

theorem namesPut (t : Table α) (name : String) (a : α) :
    names (put t name a) = if name ∈ names t then names t else names t ++ [name] := by
  induction t with
  | nil => simp [put,names]
  | cons e rest ih =>
    obtain ⟨m,b⟩ := e
    simp only [put]
    split
    · rename_i h; subst h; simp [names]
    · rename_i h
      simp only [names,List.map_cons,List.mem_cons] at ih ⊢
      rw [ih]
      have : name ≠ m := fun e => h e.symm
      by_cases hm : name ∈ List.map (·.1) rest <;> simp [this,hm]

theorem namesDrop (t : Table α) (name : String) : names (drop t name) = (names t).filter (· != name) := by
  simp only [names,drop,List.filter_map]
  rfl

theorem nodupPut {t : Table α} (h : (names t).Nodup) (name : String) (a : α) : (names (put t name a)).Nodup := by
  rw [namesPut]
  split
  · exact h
  · rename_i absent
    exact List.nodup_append.2 ⟨h,by simp,by
      intro x hx y hy e
      simp only [List.mem_singleton] at hy
      exact absent (hy ▸ e ▸ hx)⟩

theorem nodupDrop {t : Table α} (h : (names t).Nodup) (name : String) : (names (drop t name)).Nodup := by
  rw [namesDrop]
  exact h.filter _

end Table
end FormGuard
