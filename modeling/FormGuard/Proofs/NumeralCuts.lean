import FormGuard.Number.Numeral
import Mathlib.Data.List.TakeWhile

/-! Numerals in longer texts. Reading a numeral ends before a text that cannot go on with one; a numeral cut behind
one of its digits is a numeral. Not the value of a numeral. -/
namespace FormGuard
namespace Numeral
open Text (isBlank isAsciiBlank isAsciiDigit digitValue?)

/-! ## What follows a numeral -/

def Apart (t : List Char) : Prop :=
  ∀ c ∈ t.head?, isDigit c = false ∧ c ≠ '.' ∧ c ≠ 'e' ∧ c ≠ 'E' ∧ c ≠ '+' ∧ c ≠ '-'

def fraction : List Char → List Char × List Char
  | '.'::cs => (cs.takeWhile isDigit,cs.dropWhile isDigit)
  | cs => ([],cs)

def scaled (whole part rest : List Char) : Option (Nat × Int × List Char) :=
  if whole.isEmpty && part.isEmpty then none
  else some (natOf (whole++part),((exponent? rest).getD (0,rest)).1-part.length,((exponent? rest).getD (0,rest)).2)

theorem unsignedEq (cs : List Char) :
    unsigned? cs = scaled (cs.takeWhile isDigit) (fraction (cs.dropWhile isDigit)).1 (fraction (cs.dropWhile isDigit)).2 := by
  unfold unsigned? scaled
  rfl

def Stops (b t : List Char) : Prop := b.dropWhile isDigit = [] → ∀ c ∈ t.head?, isDigit c = false

theorem Apart.stops {t} (apart : Apart t) (b : List Char) : Stops b t := fun _ c first => (apart c first).1

theorem digitsStop {b t : List Char} (stops : Stops b t) :
    (b++t).takeWhile isDigit = b.takeWhile isDigit ∧ (b++t).dropWhile isDigit = b.dropWhile isDigit++t := by
  induction b with
  | nil =>
    cases t with
    | nil => exact ⟨rfl,rfl⟩
    | cons c t => simp [stops rfl c rfl]
  | cons c b ih =>
    by_cases digit : isDigit c = true
    · have := ih fun none => stops (by simp [digit,none])
      simp [digit,this]
    · simp [digit]

theorem signApart {t} (apart : Apart t) (b : List Char) : sign (b++t) = ((sign b).1,(sign b).2++t) := by
  cases b with
  | nil =>
    cases t with
    | nil => rfl
    | cons c t =>
      obtain ⟨_,_,_,_,plus,minus⟩ := apart c rfl
      simp [sign,plus,minus]
  | cons c b =>
    by_cases minus : c = '-'
    · subst minus; rfl
    · by_cases plus : c = '+'
      · subst plus; rfl
      · simp [sign,plus,minus]

theorem exponentApart {t} (apart : Apart t) (b : List Char) :
    exponent? (b++t) = (exponent? b).map fun (e,rest) => (e,rest++t) := by
  cases b with
  | nil =>
    cases t with
    | nil => rfl
    | cons c t =>
      obtain ⟨_,_,e,E,_⟩ := apart c rfl
      simp [exponent?,e,E]
  | cons c b =>
    simp only [List.cons_append,exponent?,signApart apart,digitsStop (apart.stops _)]
    split
    · split <;> simp
    · rfl

theorem fractionApart {t} (apart : Apart t) (b : List Char) :
    fraction (b++t) = ((fraction b).1,(fraction b).2++t) := by
  cases b with
  | nil =>
    cases t with
    | nil => rfl
    | cons c t => simp [fraction,(apart c rfl).2.1]
  | cons c b =>
    by_cases point : c = '.'
    · subst point
      simp [fraction,digitsStop (apart.stops _)]
    · simp [fraction,point]

theorem unsignedApart {t} (apart : Apart t) (b : List Char) :
    unsigned? (b++t) = (unsigned? b).map fun (n,e,rest) => (n,e,rest++t) := by
  rw [unsignedEq,unsignedEq,(digitsStop (apart.stops _)).1,(digitsStop (apart.stops _)).2,fractionApart apart]
  unfold scaled
  rw [exponentApart apart]
  split
  · rfl
  · cases exponent? (fraction (b.dropWhile isDigit)).2 <;> rfl

/-! ## A numeral cut behind a digit -/

def EndsInDigit (b : List Char) : Prop := ∃ d, b.getLast? = some d ∧ isDigit d = true

theorem EndsInDigit.behind {c b} (ends : EndsInDigit (c::b)) (other : isDigit c = false) : EndsInDigit b := by
  obtain ⟨d,last,digit⟩ := ends
  cases b with
  | nil => simp_all
  | cons x b => exact ⟨d,by simpa using last,digit⟩

theorem EndsInDigit.dropWhile {b} (ends : EndsInDigit b) (more : b.dropWhile isDigit ≠ []) :
    EndsInDigit (b.dropWhile isDigit) := by
  obtain ⟨d,last,digit⟩ := ends
  refine ⟨d,?_,digit⟩
  rw [← List.takeWhile_append_dropWhile (p := isDigit) (l := b),List.getLast?_append] at last
  rwa [List.getLast?_eq_some_getLast more] at last ⊢

theorem EndsInDigit.ne {b} (ends : EndsInDigit b) : b ≠ [] := by
  rintro rfl
  obtain ⟨_,last,_⟩ := ends
  cases last

theorem EndsInDigit.sign {b} (ends : EndsInDigit b) : EndsInDigit (sign b).2 := by
  unfold Numeral.sign
  split
  · exact ends.behind (by decide)
  · exact ends.behind (by decide)
  · exact ends

theorem signAppend {b} (some : b ≠ []) (u : List Char) : Numeral.sign (b++u) = ((Numeral.sign b).1,(Numeral.sign b).2++u) := by
  cases b with
  | nil => contradiction
  | cons c b =>
    by_cases minus : c = '-'
    · subst minus; rfl
    · by_cases plus : c = '+'
      · subst plus; rfl
      · simp [Numeral.sign,plus,minus]

theorem exponentCut {b u e} (ends : EndsInDigit b) (read : exponent? (b++u) = some (e,[])) :
    ∃ e', exponent? b = some (e',[]) := by
  cases b with
  | nil => exact absurd rfl ends.ne
  | cons c b =>
    simp only [List.cons_append,exponent?] at read ⊢
    split at read
    · rename_i mark
      have inner : EndsInDigit b := ends.behind (by rcases mark with rfl | rfl <;> decide)
      rw [signAppend inner.ne] at read
      split at read
      · contradiction
      · simp only [Option.some.injEq,Prod.mk.injEq,List.dropWhile_eq_nil_iff] at read
        have all : ∀ d ∈ (sign b).2, isDigit d = true := fun d inside => read.2 d (by simp [inside])
        simp [mark,List.takeWhile_eq_self_iff.mpr all,List.dropWhile_eq_nil_iff.mpr all,inner.sign.ne]
    · contradiction

theorem scaledCut {whole part b u n e} (ends : EndsInDigit b)
    (read : scaled whole part (b++u) = some (n,e,[])) : ∃ n e, scaled whole part b = some (n,e,[]) := by
  unfold scaled at read ⊢
  split at read
  · contradiction
  · rename_i some
    cases hx : exponent? (b++u) with
    | none =>
      rw [hx] at read
      simp [ends.ne] at read
    | some pair =>
      obtain ⟨e',rest⟩ := pair
      rw [hx] at read
      simp only [Option.getD_some,Option.some.injEq,Prod.mk.injEq] at read
      obtain ⟨_,_,rfl⟩ := read
      obtain ⟨e'',cut⟩ := exponentCut ends hx
      simp [cut,some]

theorem unsignedCut {b u n e} (ends : EndsInDigit b) (read : unsigned? (b++u) = some (n,e,[])) :
    ∃ n e, unsigned? b = some (n,e,[]) := by
  rw [unsignedEq] at read ⊢
  by_cases whole : b.dropWhile isDigit = []
  · have all := List.dropWhile_eq_nil_iff.mp whole
    simp [whole,List.takeWhile_eq_self_iff.mpr all,fraction,scaled,exponent?,ends.ne]
  · have more := ends.dropWhile whole
    have cut (u : List Char) := digitsStop (t := u) fun none => absurd none whole
    rw [(cut u).1,(cut u).2] at read
    cases hr : b.dropWhile isDigit with
    | nil => contradiction
    | cons c r =>
      rw [hr] at read more
      by_cases point : c = '.'
      · subst point
        have inner := more.behind (by decide)
        simp only [List.cons_append,fraction] at read ⊢
        by_cases part : r.dropWhile isDigit = []
        · have all := List.dropWhile_eq_nil_iff.mp part
          simp [part,List.takeWhile_eq_self_iff.mpr all,scaled,exponent?,inner.ne]
        · have cut := digitsStop (t := u) fun none => absurd none part
          rw [cut.1,cut.2] at read
          exact scaledCut (inner.dropWhile part) read
      · have plain (r : List Char) : fraction (c::r) = ([],c::r) := by simp [fraction,point]
        rw [List.cons_append,plain,← List.cons_append] at read
        rw [plain]
        exact scaledCut more read

/-! ## Underscores, blanks and signs -/

def beforeUnderscore (cs : List Char) : List Char := cs.takeWhile (· != '_')

theorem goFree {cs : List Char} (free : '_' ∉ cs) {p} (p' : p ≠ some '_') : dropUnderscores?.go p cs = some cs := by
  induction cs generalizing p with
  | nil => simp [dropUnderscores?.go,p']
  | cons c cs ih =>
    simp only [List.mem_cons,not_or] at free
    have next : some c ≠ some '_' := by simpa using Ne.symm free.1
    simp [dropUnderscores?.go,Ne.symm free.1,p',ih free.2 next]

theorem goBefore {p b t us} (read : dropUnderscores?.go p (b ++ '_' :: t) = some us) (p' : p ≠ some '_')
    (none : '_' ∉ b) : ∃ u d, us = b++u ∧ (b.getLast?.or p) = some d ∧ isDigit d = true := by
  induction b generalizing p us with
  | nil =>
    simp only [List.nil_append,dropUnderscores?.go,if_true] at read
    split at read
    · rename_i digit
      cases p with
      | none => contradiction
      | some d => exact ⟨us,d,rfl,rfl,digit⟩
    · contradiction
  | cons c b ih =>
    simp only [List.mem_cons,not_or] at none
    simp only [List.cons_append,dropUnderscores?.go,Ne.symm none.1,p',if_false,false_and,Option.map_eq_some_iff] at read
    obtain ⟨vs,inner,rfl⟩ := read
    obtain ⟨u,d,rfl,last,digit⟩ := ih inner (by simpa using Ne.symm none.1) none.2
    refine ⟨u,d,rfl,?_,digit⟩
    cases b <;> simpa [List.getLast?_cons] using last

theorem underscored {cs us} (read : dropUnderscores? cs = some us) :
    (us = cs ∧ beforeUnderscore cs = cs) ∨
      ∃ t u, cs = beforeUnderscore cs ++ '_' :: t ∧ us = beforeUnderscore cs++u ∧ EndsInDigit (beforeUnderscore cs) := by
  have free : '_' ∉ beforeUnderscore cs := fun inside => by simpa using List.mem_takeWhile_imp inside
  have split : cs = beforeUnderscore cs++cs.dropWhile (· != '_') := (List.takeWhile_append_dropWhile).symm
  cases rest : cs.dropWhile (· != '_') with
  | nil =>
    rw [rest,List.append_nil] at split
    have whole : dropUnderscores? cs = some cs := goFree (by rwa [← split] at free) (by simp)
    exact .inl ⟨Option.some.inj (read.symm.trans whole),split.symm⟩
  | cons c t =>
    have mark : c = '_' := by
      have := List.head?_dropWhile_not (· != '_') cs
      simpa [rest] using this
    subst mark
    rw [rest] at split
    unfold dropUnderscores? at read
    rw [split] at read
    obtain ⟨u,d,same,last,digit⟩ := goBefore read (by simp) free
    exact .inr ⟨t,u,split,same,d,by simpa using last,digit⟩

theorem digitSmall {n d} (value : digitValue? n = some d) : d < 10 := by
  unfold digitValue? at value
  dsimp only at value
  repeat' split at value
  all_goals simp only [Option.some.injEq,reduceCtorEq] at value
  · rename_i range
    simp only [Bool.and_eq_true,decide_eq_true_eq] at range
    omega
  · omega

inductive Plain (c : Char) : Char → Prop
  | same : Plain c c
  | blank : 128 ≤ c.toNat → isBlank c.toNat = true → Plain c ' '
  | digit (d : Nat) : isBlank c.toNat = false → d < 10 → Plain c (Char.ofNat (48+d))

theorem plained (c : Char) : Plain c (plain c) := by
  unfold plain
  dsimp only
  split
  · exact .same
  · rename_i high
    split
    · rename_i blank
      exact .blank (by omega) blank
    · rename_i blank
      split
      · rename_i d value
        exact .digit d (by simpa using blank) (digitSmall value)
      · exact .same

theorem digitChar {d : Nat} (small : d < 10) :
    isDigit (Char.ofNat (48+d)) = true ∧ Char.ofNat (48+d) ≠ '_' ∧ isAsciiBlank (Char.ofNat (48+d)).toNat = false := by
  decide +revert

theorem plainUnderscore (c : Char) : plain c = '_' ↔ c = '_' := by
  constructor
  · intro same
    have shape := plained c
    rw [same] at shape
    generalize hu : '_' = u at shape
    cases shape with
    | same => rfl
    | blank => cases hu
    | digit d _ small => exact absurd hu.symm (digitChar small).2.1
  · rintro rfl
    rfl

theorem plainBlank {c : Char} (blank : isBlank c.toNat = true) : isBlank (plain c).toNat = true := by
  have shape := plained c
  generalize plain c = p at shape
  cases shape with
  | same => exact blank
  | blank => rfl
  | digit d other => simp [other] at blank

theorem blankOfPlain {c : Char} (blank : isAsciiBlank (plain c).toNat = true) : isBlank c.toNat = true := by
  have shape := plained c
  generalize plain c = p at shape blank
  cases shape with
  | same => simp [isAsciiBlank,isBlank] at blank ⊢; omega
  | blank _ wide => exact wide
  | digit d _ small => simp [(digitChar small).2.2] at blank

theorem blankApart {c : Char} (blank : isBlank c.toNat = true) :
    isDigit c = false ∧ c ≠ '.' ∧ c ≠ 'e' ∧ c ≠ 'E' ∧ c ≠ '+' ∧ c ≠ '-' := by
  refine ⟨?_,?_,?_,?_,?_,?_⟩
  · cases digit : isDigit c with
    | false => rfl
    | true =>
      simp [isDigit,isAsciiDigit] at digit
      simp [isBlank] at blank
      omega
  all_goals
    rintro rfl
    revert blank
    decide

theorem trimSplit (cs : List Char) :
    ∃ trail, dropBlanks cs = trim cs++trail ∧ ∀ c ∈ trail, isAsciiBlank c.toNat = true := by
  refine ⟨((dropBlanks cs).reverse.takeWhile fun c => isAsciiBlank c.toNat).reverse,?_,?_⟩
  · unfold trim
    rw [← List.reverse_append]
    simp [dropBlanks,List.takeWhile_append_dropWhile]
  · intro c inside
    exact List.mem_takeWhile_imp (p := fun c : Char => isAsciiBlank c.toNat) (List.mem_reverse.mp inside)

theorem dropBlanksAppend {lead : List Char} (blank : ∀ c ∈ lead, isAsciiBlank c.toNat = true) {b : List Char}
    (first : ∀ c ∈ b.head?, isAsciiBlank c.toNat = false) : dropBlanks (lead++b) = b := by
  induction lead with
  | nil =>
    cases b with
    | nil => rfl
    | cons c b => simp [dropBlanks,first c rfl]
  | cons c lead ih =>
    have rest := ih fun d inside => blank d (by simp [inside])
    simpa [dropBlanks,blank c (by simp)] using rest

theorem trimBetween {lead b trail : List Char} (leads : ∀ c ∈ lead, isAsciiBlank c.toNat = true)
    (trails : ∀ c ∈ trail, isAsciiBlank c.toNat = true) (first : ∀ c ∈ b.head?, isAsciiBlank c.toNat = false)
    (last : ∀ c ∈ b.getLast?, isAsciiBlank c.toNat = false) (filled : b ≠ []) : trim (lead++(b++trail)) = b := by
  unfold trim
  have front : ∀ c ∈ (b++trail).head?, isAsciiBlank c.toNat = false := by
    cases b with
    | nil => exact absurd rfl filled
    | cons c b => exact first
  have blank : ∀ c ∈ trail.reverse, isAsciiBlank c.toNat = true := fun c inside =>
    trails c (List.mem_reverse.mp inside)
  have ends : ∀ c ∈ b.reverse.head?, isAsciiBlank c.toNat = false := by
    rw [List.head?_reverse]
    exact last
  rw [dropBlanksAppend leads front,List.reverse_append,dropBlanksAppend blank ends,List.reverse_reverse]

/-! ## Words -/

def Letter (c : Char) : Prop := 65 ≤ c.toNat ∧ c.toNat ≤ 122

theorem Letter.other {c} (letter : Letter c) : isDigit c = false ∧ c ≠ '.' ∧ isBlank c.toNat = false := by
  obtain ⟨low,high⟩ := letter
  refine ⟨?_,?_,?_⟩
  · simp [isDigit,isAsciiDigit]; omega
  · rintro rfl; simp at low
  · simp [isBlank]; omega

theorem lowered {c : Char} (letter : Letter c.toLower) : Letter c := by
  unfold Char.toLower at letter
  split at letter
  · rename_i upper
    simp [UInt32.le_iff_toNat_le] at upper
    exact ⟨upper.1,by omega⟩
  · exact letter

theorem spelledLetters {word : String} (letters : ∀ c ∈ word.toList, Letter c) {b} (spelled : isSpelled word b = true) :
    ∀ c ∈ b, Letter c := by
  intro c inside
  have same : b.map Char.toLower = word.toList := by simpa [isSpelled] using spelled
  exact lowered (letters _ (same ▸ List.mem_map_of_mem inside))

theorem unsignedLetter {c : Char} (other : isDigit c = false) (point : c ≠ '.') (b : List Char) :
    unsigned? (c::b) = none := by
  simp [unsignedEq,fraction,scaled,other,point]

end Numeral
end FormGuard
