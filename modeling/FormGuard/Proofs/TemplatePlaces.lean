import FormGuard.Pattern.Template
import FormGuard.Proofs.TextMarks
import FormGuard.Rule.Definition
import Mathlib.Data.List.Basic

/-! Templates filled to the letter. A template is cut at its own places first, and the parameters are put there at once; filling
the places one number after another comes to the same unless a parameter brings a place of its own. -/
namespace FormGuard.Pattern
open Text

inductive Slot where
  | plain (c : Char)
  | place (i : Nat)
  deriving DecidableEq, Repr

def placeAt? (n : Nat) (cs : List Char) : Option Nat :=
  (List.range n).find? fun i => startsWith (placeholder (i+1)) cs

def slotsFrom (n : Nat) : (skip : Nat) → List Char → List Slot
  | _,[] => []
  | skip+1,_ :: cs => slotsFrom n skip cs
  | 0,c :: cs =>
    match placeAt? n (c::cs) with
    | some i => .place i :: slotsFrom n ((placeholder (i+1)).length-1) cs
    | none => .plain c :: slotsFrom n 0 cs

def slots (n : Nat) (template : List Char) : List Slot := slotsFrom n 0 template

def Slot.filled (params : List (List Char)) : Slot → List Char
  | plain c => [c]
  | place i => (params[i]?).elim (placeholder (i+1)) escape

def written (params : List (List Char)) (ss : List Slot) : List Char := ss.flatMap (Slot.filled params)

/-! ## Places -/

theorem digitsFree (i : Nat) : '$' ∉ Nat.toDigits 10 i := fun inside => by
  simpa using Nat.isDigit_of_mem_toDigits (by decide) (by decide) inside

theorem placeholderDistinct (i : Nat) : Distinct (placeholder i) := ⟨_,_,rfl,digitsFree i⟩

theorem digitsApart {i j : Nat} (small : i < 9) (small' : j < 9) (other : i ≠ j) :
    ¬ Nat.toDigits 10 (i+1) <+: Nat.toDigits 10 (j+1) := by
  rw [Nat.toDigits_of_lt_base (by omega),Nat.toDigits_of_lt_base (by omega)]
  have each : ∀ a b : Fin 9, a ≠ b → ¬ [(a.val+1).digitChar] <+: [(b.val+1).digitChar] := by decide
  exact each ⟨i,small⟩ ⟨j,small'⟩ (by simpa using other)

theorem firstDigit {n : Nat} (some : 0 < n) : ∃ d, d < 9 ∧ d+1 ≤ n ∧ Nat.toDigits 10 (d+1) <+: Nat.toDigits 10 n := by
  induction n using Nat.strong_induction_on with
  | h n ih =>
    by_cases small : n < 10
    · obtain ⟨d,rfl⟩ := Nat.exists_eq_add_of_le' some
      exact ⟨d,by omega,Nat.le_refl _,List.prefix_refl _⟩
    · obtain ⟨d,digit,least,begins⟩ := ih (n/10) (by omega) (by omega)
      rw [Nat.toDigits_of_base_le (by decide) (by omega) (n := n)]
      exact ⟨d,digit,by omega,begins.trans (List.prefix_append _ _)⟩

theorem placeSmall {n cs i} (found : placeAt? n cs = some i) : i < 9 := by
  obtain ⟨here,inside,first⟩ := List.find?_range_eq_some.mp found
  by_contra great
  obtain ⟨d,digit,_,begins⟩ := firstDigit (n := i+1) (by omega)
  have lower := first d (by omega)
  have there : startsWith (placeholder (d+1)) cs = true :=
    startsIff.mpr ((List.cons_prefix_cons.mpr ⟨rfl,begins⟩).trans (startsIff.mp here))
  simp [there] at lower

theorem placesSmall {n skip cs i} (inside : Slot.place i ∈ slotsFrom n skip cs) : i < 9 := by
  induction cs generalizing skip with
  | nil => cases skip <;> simp [slotsFrom] at inside
  | cons c cs ih =>
    cases skip with
    | succ skip => exact ih inside
    | zero =>
      rw [slotsFrom] at inside
      split at inside
      · rename_i found
        rcases List.mem_cons.mp inside with same | inside
        · cases same
          exact placeSmall found
        · exact ih inside
      · rcases List.mem_cons.mp inside with same | inside
        · cases same
        · exact ih inside

theorem unwritten (n skip : Nat) (cs : List Char) : written [] (slotsFrom n skip cs) = cs.drop skip := by
  induction cs generalizing skip with
  | nil => cases skip <;> simp [slotsFrom,written]
  | cons c cs ih =>
    cases skip with
    | succ skip => exact ih skip
    | zero =>
      rw [slotsFrom]
      split
      · rename_i i found
        have here := (List.find?_range_eq_some.mp found).1
        obtain ⟨rest,whole⟩ := startsIff.mp here
        have behind : cs.drop ((placeholder (i+1)).length-1) = rest := by
          have tail := (List.cons.inj whole).2
          rw [← tail]
          simp [placeholder]
        have rest := ih ((placeholder (i+1)).length-1)
        rw [written,List.flatMap_cons,← written,rest,behind,List.drop_zero]
        exact whole
      · rw [written,List.flatMap_cons,← written,ih]
        rfl

/-! ## One place after another -/

section Places
variable {before : List (List Char)} {p : List Char}

theorem filledOpen {i : Nat} (behind : before.length ≤ i) : (Slot.place i).filled before = placeholder (i+1) := by
  simp [Slot.filled,List.getElem?_eq_none behind]

theorem filledNow : (Slot.place before.length).filled (before++[p]) = escape p := by
  simp [Slot.filled]

theorem filledSame {s : Slot} (other : s ≠ .place before.length) : s.filled (before++[p]) = s.filled before := by
  cases s with
  | plain c => rfl
  | place i =>
    have apart : i ≠ before.length := by simpa using other
    have same : (before++[p])[i]? = before[i]? := by
      by_cases inside : i < before.length
      · exact List.getElem?_append_left inside
      · rw [List.getElem?_eq_none (by simp; omega),List.getElem?_eq_none (by omega)]
    simp [Slot.filled,same]

theorem writtenCons (params : List (List Char)) (s : Slot) (ss : List Slot) :
    written params (s::ss) = s.filled params++written params ss := rfl

theorem placesStand {i : Nat} (behind : before.length ≤ i) (ss : List Slot) :
    ss.count (.place i) ≤ occurrences (placeholder (i+1)) (written before ss) := by
  induction ss with
  | nil => simp
  | cons s ss ih =>
    rw [writtenCons]
    by_cases here : s = .place i
    · subst here
      rw [filledOpen behind,placeholder,occurrencesLed (digitsFree _),List.count_cons_self]
      exact Nat.succ_le_succ ih
    · rw [List.count_cons_of_ne here]
      exact ih.trans (occurrencesBehind _ _)

theorem placesFilled (p : List Char) {ss : List Slot}
    (own : occurrences (placeholder (before.length+1)) (written before ss) = ss.count (.place before.length)) :
    replaceAll (placeholder (before.length+1)) (escape p) (written before ss) = written (before++[p]) ss := by
  induction ss with
  | nil => rfl
  | cons s ss ih =>
    rw [writtenCons] at own ⊢
    rw [writtenCons]
    by_cases here : s = .place before.length
    · subst here
      rw [filledOpen (Nat.le_refl _),placeholder,occurrencesLed (digitsFree _),List.count_cons_self] at own
      rw [filledOpen (Nat.le_refl _),replaceHere (placeholderDistinct _).filled,ih (Nat.succ.inj own),filledNow]
    · rw [List.count_cons_of_ne here] at own
      have least := placesStand (Nat.le_refl before.length) ss
      have more : occurrences (placeholder (before.length+1)) (written before ss) ≤
          occurrences (placeholder (before.length+1)) (s.filled before++written before ss) := occurrencesBehind _ _
      have same : occurrences (placeholder (before.length+1)) (written before ss) = ss.count (.place before.length) := by omega
      rw [replaceBehind (own.trans same.symm),ih same,filledSame here]

end Places

/-! ## Forged places -/

/-- A dollar takes away what a backslash gives. -/
def weight (cs : List Char) : Int := cs.count '\\'-cs.count '$'

theorem weightAppend (a b : List Char) : weight (a++b) = weight a+weight b := by
  simp only [weight,List.count_append]
  omega

theorem weightPlain {c : Char} (plain : c ≠ '$') : 0 ≤ weight [c] := by
  have none : [c].count '$' = 0 := List.count_eq_zero_of_not_mem (by simpa using plain.symm)
  rw [weight,none]
  omega

theorem weightSlashed (c : Char) : 0 ≤ weight ['\\',c] := by
  have slash : 0 < ['\\',c].count '\\' := List.count_pos_iff.mpr List.mem_cons_self
  have dollar : ['\\',c].count '$' ≤ 1 := by
    rw [List.count_cons_of_ne (by decide)]
    exact List.count_le_length
  rw [weight]
  omega

theorem weightEscape (p : List Char) : 0 ≤ weight (escape p) := by
  induction p with
  | nil => decide
  | cons c p ih =>
    have first : 0 ≤ weight (escapeChar c) := by
      unfold escapeChar
      by_cases special : specialChars.contains c = true
      · rw [if_pos special]
        exact weightSlashed c
      · rw [if_neg special]
        refine weightPlain ?_
        rintro rfl
        exact special (by decide)
    have whole : escape (c::p) = escapeChar c++escape p := rfl
    rw [whole,weightAppend]
    omega

theorem placeSigns (i : Nat) : (placeholder i).count '\\' = 0 ∧ (placeholder i).count '$' = 1 := by
  have slash : '\\' ∉ Nat.toDigits 10 i := fun inside => by
    simpa using Nat.isDigit_of_mem_toDigits (by decide) (by decide) inside
  simp [placeholder,List.count_eq_zero_of_not_mem slash,List.count_eq_zero_of_not_mem (digitsFree i)]

theorem weightPlace (i : Nat) : weight (placeholder i) = -1 := by
  simp [weight,placeSigns i]

theorem weightReplaced (i : Nat) (fresh text : List Char) : weight (replaceAll (placeholder i) fresh text) =
    weight text+occurrences (placeholder i) text*(weight fresh+1) := by
  have slashes := (placeholderDistinct i).countReplaced fresh '\\' text
  have dollars := (placeholderDistinct i).countReplaced fresh '$' text
  rw [(placeSigns i).1] at slashes
  rw [(placeSigns i).2] at dollars
  simp only [weight,Int.mul_add,Int.mul_sub]
  omega

theorem weightFilled (before : List (List Char)) (p : List Char) (ss : List Slot) : weight (written (before++[p]) ss) =
    weight (written before ss)+ss.count (.place before.length)*(weight (escape p)+1) := by
  induction ss with
  | nil => simp [written]
  | cons s ss ih =>
    rw [writtenCons,writtenCons,weightAppend,weightAppend,ih]
    by_cases here : s = .place before.length
    · subst here
      rw [filledNow,filledOpen (Nat.le_refl _),weightPlace,List.count_cons_self]
      simp only [Int.natCast_add,Int.add_mul]
      omega
    · rw [filledSame here,List.count_cons_of_ne here]
      omega

section Filling
variable {ss : List Slot} (small : ∀ i, .place i ∈ ss → i < 9)
include small

theorem placesKept {before : List (List Char)} {text : List Char}
    (stand : ∀ i, before.length ≤ i → ss.count (.place i) ≤ occurrences (placeholder (i+1)) text) (p fresh : List Char) :
    ∀ i, (before++[p]).length ≤ i →
      ss.count (.place i) ≤ occurrences (placeholder (i+1)) (replaceAll (placeholder (before.length+1)) fresh text) := by
  intro i later
  rw [List.length_append,List.length_singleton] at later
  by_cases low : i < 9
  · have apart := digitsApart (i := before.length) (j := i) (by omega) low (by omega)
    have apart' := digitsApart (i := i) (j := before.length) low (by omega) (by omega)
    exact (stand i (by omega)).trans (occurrencesReplaced (digitsFree _) (digitsFree _) ⟨apart,apart'⟩ _ _)
  · have none : ss.count (.place i) = 0 := List.count_eq_zero_of_not_mem fun inside => low (small i inside)
    omega

theorem filledHeavier (rest : List (List Char)) {before : List (List Char)} {text : List Char}
    (stand : ∀ i, before.length ≤ i → ss.count (.place i) ≤ occurrences (placeholder (i+1)) text) :
    weight (written (before++rest) ss)+weight text ≤ weight (fillFrom (before.length+1) rest text)+weight (written before ss) := by
  induction rest generalizing before text with
  | nil =>
    rw [List.append_nil,fillFrom]
    omega
  | cons p rest ih =>
    have next := ih (placesKept small stand p (escape p))
    rw [List.append_assoc,List.singleton_append,List.length_append,List.length_singleton] at next
    have here := weightReplaced (before.length+1) (escape p) text
    have slots := weightFilled before p ss
    have light := weightEscape p
    have more : (ss.count (.place before.length) : Int)*(weight (escape p)+1) ≤
        occurrences (placeholder (before.length+1)) text*(weight (escape p)+1) :=
      Int.mul_le_mul_of_nonneg_right (Int.ofNat_le.mpr (stand _ (Nat.le_refl _))) (by omega)
    rw [fillFrom]
    omega

theorem filledIff (rest before : List (List Char)) :
    fillFrom (before.length+1) rest (written before ss) = written (before++rest) ss ↔
      ∀ k, before.length ≤ k → k < (before++rest).length →
        occurrences (placeholder (k+1)) (written ((before++rest).take k) ss) = ss.count (.place k) := by
  induction rest generalizing before with
  | nil =>
    rw [fillFrom,List.append_nil]
    exact iff_of_true rfl fun k least most => absurd most (Nat.not_lt.mpr least)
  | cons p rest ih =>
    have next := ih (before++[p])
    rw [List.append_assoc,List.singleton_append,List.length_append,List.length_singleton] at next
    have now : (before++p::rest).take before.length = before := List.take_left
    have room : before.length < (before++p::rest).length := by simp
    constructor
    · intro same
      have own : occurrences (placeholder (before.length+1)) (written before ss) = ss.count (.place before.length) := by
        by_contra forged
        -- One place more is filled than there are slots, and nothing later takes its weight away.
        have stand := fun i (behind : before.length ≤ i) => placesStand behind ss
        have least := stand _ (Nat.le_refl before.length)
        have light := weightEscape p
        have more : (ss.count (.place before.length) : Int)*(weight (escape p)+1) <
            occurrences (placeholder (before.length+1)) (written before ss)*(weight (escape p)+1) :=
          Int.mul_lt_mul_of_pos_right (by omega) (by omega)
        have heavier := filledHeavier small rest (placesKept small stand p (escape p))
        rw [List.append_assoc,List.singleton_append,List.length_append,List.length_singleton] at heavier
        have here := weightReplaced (before.length+1) (escape p) (written before ss)
        have slots := weightFilled before p ss
        rw [fillFrom] at same
        rw [same] at heavier
        omega
      rw [fillFrom,placesFilled p own] at same
      intro k least most
      by_cases first : k = before.length
      · rw [first,now]
        exact own
      · exact next.mp same k (by omega) most
    · intro own
      have first := own before.length (Nat.le_refl _) room
      rw [now] at first
      rw [fillFrom,placesFilled p first]
      exact next.mpr fun k least most => own k (by omega) most

end Filling

end FormGuard.Pattern
