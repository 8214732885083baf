import FormGuard.Proofs.NumberBounds
import Mathlib.Algebra.Ring.Nat

/-! The number that a value begins with. It is found in every text but one where an information separator stands before a
number, and in every integer that is not beyond the range of floats. -/
namespace FormGuard
namespace Numeral
open Text (isBlank isAsciiBlank)

/-! ## What was read of a text reads again -/

def Numeric (c : Char) : Prop := isAsciiBlank c.toNat = false ∧ c ≠ '_'

theorem digitsNumeric (cs : List Char) : ∀ c ∈ cs.takeWhile isDigit, Numeric c := by
  intro c inside
  have digit : isDigit c = true := List.mem_takeWhile_imp inside
  exact ⟨digitUnblank digit,by rintro rfl; cases digit⟩

def Scale (q : List Char) : Prop := ∀ c ∈ q.head?, isDigit c = false ∧ c ≠ '.'

theorem digitsWhole (cs : List Char) {t : List Char} (other : ∀ c ∈ t.head?, isDigit c = false) :
    (cs.takeWhile isDigit++t).takeWhile isDigit = cs.takeWhile isDigit ∧ (cs.takeWhile isDigit++t).dropWhile isDigit = t := by
  have all : ∀ c ∈ cs.takeWhile isDigit, isDigit c = true := fun _ inside => List.mem_takeWhile_imp inside
  obtain ⟨taken,dropped⟩ := digitsStop (b := cs.takeWhile isDigit) fun _ => other
  rw [taken,dropped,List.takeWhile_eq_self_iff.mpr all,List.dropWhile_eq_nil_iff.mpr all]
  exact ⟨rfl,rfl⟩

theorem signSplit (cs : List Char) : ∃ s, cs = s++(sign cs).2 ∧ (∀ c ∈ s, Numeric c) ∧
    ∀ ds, (∀ c ∈ ds.head?, c ≠ '-' ∧ c ≠ '+') → sign (s++ds) = ((sign cs).1,ds) := by
  unfold sign
  split
  · exact ⟨['-'],rfl,by simp [Numeric,isAsciiBlank],fun _ _ => rfl⟩
  · exact ⟨['+'],rfl,by simp [Numeric,isAsciiBlank],fun _ _ => rfl⟩
  · exact ⟨[],rfl,by simp,fun _ plain => signPlain plain⟩

theorem exponentSplit {cs x rest} (read : exponent? cs = some (x,rest)) :
    ∃ q, cs = q++rest ∧ exponent? q = some (x,[]) ∧ Scale q ∧ ∀ c ∈ q, Numeric c := by
  cases cs with
  | nil => cases read
  | cons m cs =>
    obtain ⟨s,split,signs,again⟩ := signSplit cs
    simp only [exponent?] at read
    split at read
    · rename_i mark
      split at read
      · contradiction
      · rename_i some
        cases read
        have digits : ∀ c ∈ ((sign cs).2.takeWhile isDigit).head?, c ≠ '-' ∧ c ≠ '+' := by
          intro c first
          have digit : isDigit c = true := List.mem_takeWhile_imp (List.mem_of_mem_head? first)
          constructor <;> (rintro rfl; cases digit)
        obtain ⟨taken,dropped⟩ := digitsWhole (sign cs).2 (t := []) (by simp)
        rw [List.append_nil] at taken dropped
        refine ⟨m::(s++(sign cs).2.takeWhile isDigit),?_,?_,?_,?_⟩
        · rw [List.cons_append,List.append_assoc,List.takeWhile_append_dropWhile,← split]
        · simp [exponent?,mark,again _ digits,taken,dropped,some]
        · rintro c ⟨⟩
          rcases mark with rfl | rfl <;> decide
        · simp only [List.forall_mem_cons,List.forall_mem_append]
          exact ⟨by rcases mark with rfl | rfl <;> exact ⟨by decide,by decide⟩,signs,digitsNumeric _⟩
    · contradiction

theorem scaleSplit (cs : List Char) : ∃ q, cs = q++((exponent? cs).getD (0,cs)).2 ∧
    (exponent? q).getD (0,q) = (((exponent? cs).getD (0,cs)).1,[]) ∧ Scale q ∧ ∀ c ∈ q, Numeric c := by
  cases read : exponent? cs with
  | none => exact ⟨[],rfl,rfl,by simp [Scale],by simp⟩
  | some pair =>
    obtain ⟨q,split,again,rest⟩ := exponentSplit read
    exact ⟨q,split,by rw [again]; rfl,rest⟩

theorem fractionPlain {cs : List Char} (plain : ∀ c ∈ cs.head?, c ≠ '.') : fraction cs = ([],cs) := by
  cases cs with
  | nil => rfl
  | cons c cs => simp [fraction,plain c rfl]

theorem fractionSplit (cs : List Char) (other : ∀ c ∈ cs.head?, isDigit c = false) :
    ∃ p, cs = p++(fraction cs).2 ∧ (∀ c ∈ p, Numeric c) ∧ ∀ q, Scale q →
      fraction (p++q) = ((fraction cs).1,q) ∧ ∀ c ∈ (p++q).head?, isDigit c = false := by
  have whole {ds} (plain : ∀ c ∈ ds.head?, c ≠ '.') (other : ∀ c ∈ ds.head?, isDigit c = false) :
      fraction ds = ([],ds) ∧ ∀ c ∈ ds.head?, isDigit c = false := ⟨fractionPlain plain,other⟩
  have scaled (q) (scale : Scale q) := whole (fun c first => (scale c first).2) fun c first => (scale c first).1
  cases cs with
  | nil => exact ⟨[],rfl,by simp,scaled⟩
  | cons c cs =>
    by_cases point : c = '.'
    · subst point
      refine ⟨'.'::cs.takeWhile isDigit,?_,?_,fun q scale => ⟨?_,by rintro _ ⟨⟩; rfl⟩⟩
      · rw [List.cons_append,fraction,List.takeWhile_append_dropWhile]
      · exact List.forall_mem_cons.mpr ⟨⟨by decide,by decide⟩,digitsNumeric cs⟩
      · obtain ⟨taken,dropped⟩ := digitsWhole cs fun c first => (scale c first).1
        rw [List.cons_append,fraction,taken,dropped,fraction]
    · rw [fractionPlain (by rintro _ ⟨⟩; exact point)]
      exact ⟨[],rfl,by simp,scaled⟩

theorem unsignedFirst {b r} (read : unsigned? b = some r) : ∀ c ∈ b.head?, c ≠ '-' ∧ c ≠ '+' := by
  cases b with
  | nil => simp
  | cons c b =>
    rintro _ ⟨⟩
    constructor
    all_goals
      rintro rfl
      rw [unsignedLetter (by decide) (by decide)] at read
      cases read

theorem unsignedSplit {b n e rest} (read : unsigned? b = some (n,e,rest)) :
    ∃ pre, b = pre++rest ∧ unsigned? pre = some (n,e,[]) ∧ ∀ c ∈ pre, Numeric c := by
  have other : ∀ c ∈ (b.dropWhile isDigit).head?, isDigit c = false := by
    intro c first
    have stop := List.head?_dropWhile_not isDigit b
    rw [Option.mem_def.mp first] at stop
    simpa using stop
  obtain ⟨p,split,points,again⟩ := fractionSplit (b.dropWhile isDigit) other
  obtain ⟨q,split',scaled',scale,exponents⟩ := scaleSplit (fraction (b.dropWhile isDigit)).2
  obtain ⟨fractions,next⟩ := again q scale
  obtain ⟨taken,dropped⟩ := digitsWhole b next
  rw [unsignedEq,scaled] at read
  split at read
  · contradiction
  · rename_i some
    cases read
    refine ⟨b.takeWhile isDigit++(p++q),?_,?_,?_⟩
    · rw [List.append_assoc,List.append_assoc,← split',← split,List.takeWhile_append_dropWhile]
    · rw [unsignedEq,taken,dropped,fractions,scaled,scaled',if_neg some]
    · simp only [List.forall_mem_append]
      exact ⟨digitsNumeric b,points,exponents⟩

theorem numeralSplit {b n e rest} (read : unsigned? (sign b).2 = some (n,e,rest)) :
    ∃ pre, b = pre++rest ∧ sign pre = ((sign b).1,(sign pre).2) ∧ unsigned? (sign pre).2 = some (n,e,[]) ∧ ∀ c ∈ pre, Numeric c := by
  obtain ⟨s,split,signs,again⟩ := signSplit b
  obtain ⟨pre,split',read',numerics⟩ := unsignedSplit read
  have whole := again pre (unsignedFirst read')
  refine ⟨s++pre,by rw [List.append_assoc,← split',← split],by rw [whole],by rwa [whole],?_⟩
  exact List.forall_mem_append.mpr ⟨signs,numerics⟩

/-! ## What stands before a number -/

def Separator (c : Char) : Prop := 28 ≤ c.toNat ∧ c.toNat ≤ 31

instance : DecidablePred Separator := fun _ => instDecidableAnd

theorem blankPlain {c : Char} (blank : isBlank c.toNat = true) : isAsciiBlank (plain c).toNat = true ↔ ¬ Separator c := by
  unfold plain Separator
  dsimp only
  split
  · simp only [isBlank,isAsciiBlank,Bool.or_eq_true,Bool.and_eq_true,decide_eq_true_eq,beq_iff_eq] at blank ⊢
    omega
  · exact iff_of_true rfl (by omega)

theorem separatorUnread {cs ds : List Char} {d} (separator : Separator d) (trimmed : trim (cs.map plain) = d::ds) :
    readDecimal? cs = none := by
  obtain ⟨low,high⟩ := separator
  have apart {c : Char} (above : 31 < c.toNat) : d ≠ c := by
    rintro rfl
    omega
  have words {word : String} (letters : ∀ c ∈ word.toList, Letter c) (us) : isSpelled word (d::us) = false := by
    rw [← Bool.not_eq_true]
    intro spelled
    have := (spelledLetters letters spelled d (by simp)).1
    omega
  have letters := wordLetters
  have other : isDigit d = false := by
    simp [isDigit,Text.isAsciiDigit]
    omega
  unfold readDecimal?
  rw [trimmed,dropUnderscores?,dropUnderscores?.go,if_neg (apart (by decide)),if_neg (by simp)]
  cases dropUnderscores?.go (some d) ds with
  | none => rfl
  | some us =>
    have unsigned : sign (d::us) = (false,d::us) :=
      signPlain (by rintro _ ⟨⟩; exact ⟨apart (by decide),apart (by decide)⟩)
    simp [unsigned,words letters.1,words letters.2.1,words letters.2.2,unsignedLetter other (apart (by decide))]

theorem firstUnblank {lead : List Char} (some : ∃ c ∈ lead, isAsciiBlank c.toNat = false) (t : List Char) :
    ∃ d ∈ lead, isAsciiBlank d.toNat = false ∧ ∃ ds, dropBlanks (lead++t) = d::ds := by
  induction lead with
  | nil => simp at some
  | cons c lead ih =>
    cases blank : isAsciiBlank c.toNat with
    | false => exact ⟨c,by simp,blank,lead++t,by simp [dropBlanks,blank]⟩
    | true =>
      obtain ⟨d,inside,unblank,ds,dropped⟩ := ih (by simpa [blank] using some)
      exact ⟨d,by simp [inside],unblank,ds,by simpa [dropBlanks,blank] using dropped⟩

theorem trimFirst {cs ds : List Char} {d} (dropped : dropBlanks cs = d::ds) (unblank : isAsciiBlank d.toNat = false) :
    ∃ ts, trim cs = d::ts := by
  obtain ⟨trail,split,blanks⟩ := trimSplit cs
  rw [dropped] at split
  cases trimmed : trim cs with
  | nil =>
    rw [trimmed,List.nil_append] at split
    have blank := blanks d (by simp [← split])
    rw [unblank] at blank
    cases blank
  | cons c ts =>
    rw [trimmed,List.cons_append] at split
    exact ⟨ts,by rw [(List.cons.inj split).1]⟩

theorem frontBlank {cs : List Char} : ∀ c ∈ front cs, isBlank c.toNat = true := fun _ inside =>
  List.mem_takeWhile_imp (p := fun c : Char => isBlank c.toNat) inside

theorem leadingSplit {cs start} (leads : leading? cs = some start) : ∃ pre n e, start.map plain = (front cs).map plain++pre ∧
    unsigned? (sign pre).2 = some (n,e,[]) ∧ ∀ c ∈ pre, Numeric c := by
  rw [leadingEq,Option.map_eq_some_iff] at leads
  obtain ⟨⟨n,e,rest⟩,read,rfl⟩ := leads
  obtain ⟨pre,split,_,again,numerics⟩ := numeralSplit read
  have whole : cs.map plain = ((front cs).map plain++pre)++rest := by
    rw [List.append_assoc,← split,← List.map_append,frontBehind]
  have size : cs.length-rest.length = ((front cs).map plain++pre).length := by
    have := congrArg List.length whole
    simp only [List.length_map,List.length_append] at this ⊢
    omega
  exact ⟨pre,n,e,by rw [List.map_take,size,whole,List.take_left],again,numerics⟩

theorem leadingNumeral {cs start} (leads : leading? cs = some start) (none : ∀ c ∈ front cs, ¬ Separator c) :
    ∃ negative n e, readDecimal? start = some (.ofDecimal negative n e) := by
  obtain ⟨pre,n,e,start,read,numerics⟩ := leadingSplit leads
  have lead : ∀ c ∈ (front cs).map plain, isAsciiBlank c.toNat = true :=
    List.forall_mem_map.mpr fun c inside => (blankPlain (frontBlank c inside)).mpr (none c inside)
  have first : ∀ c ∈ pre.head?, isAsciiBlank c.toNat = false := fun c first => (numerics c (List.mem_of_mem_head? first)).1
  have last : ∀ c ∈ pre.getLast?, isAsciiBlank c.toNat = false := fun c last => (numerics c (List.mem_of_getLast? last)).1
  have trimmed := trimBetween lead (List.forall_mem_nil _) first last (numeralFirst read).1
  rw [List.append_nil,← start] at trimmed
  exact ⟨_,n,e,numeralRead trimmed (fun inside => (numerics _ inside).2 rfl) read⟩

theorem leadingRead {cs start} (leads : leading? cs = some start) :
    (∃ x, readDecimal? start = some x) ↔ ∀ c ∈ front cs, ¬ Separator c := by
  constructor
  · rintro ⟨x,found⟩ c inside separator
    obtain ⟨pre,_,_,start,_⟩ := leadingSplit leads
    have unblank {c} (inside : c ∈ front cs) : isAsciiBlank (plain c).toNat = false ↔ Separator c := by
      rw [← Bool.not_eq_true,blankPlain (frontBlank c inside),not_not]
    obtain ⟨d',first,out,ds,dropped⟩ :=
      firstUnblank ⟨plain c,List.mem_map_of_mem inside,(unblank inside).mpr separator⟩ pre
    obtain ⟨d,front,rfl⟩ := List.mem_map.mp first
    have separator := (unblank front).mp out
    have same : plain d = d := by
      unfold plain
      exact if_pos (Nat.lt_of_le_of_lt separator.2 (by decide))
    obtain ⟨ts,trimmed⟩ := trimFirst dropped out
    rw [← start,same] at trimmed
    rw [separatorUnread separator trimmed] at found
    cases found
  · intro none
    obtain ⟨_,_,_,read⟩ := leadingNumeral leads none
    exact ⟨_,read⟩

theorem leadingValued {cs start x} (leads : leading? cs = some start) (read : readDecimal? start = some x) : x.isNan = false := by
  obtain ⟨negative,n,e,again⟩ := leadingNumeral leads ((leadingRead leads).mp ⟨x,read⟩)
  cases read.symm.trans again
  exact decimalNumber negative n e

end Numeral
/-! ## Integers beyond the range of floats -/

namespace Binary64

def floatBound : Nat := 2^1024-2^970

def unitOf (num den : Nat) : Int :=
  let guess : Int := num.log2-den.log2-52
  max leastExponent (if (inUnits num den guess).1/(inUnits num den guess).2 < Nat.pow 2 52 then guess-1 else guess)

theorem infiniteIff {negative num den} (some : num ≠ 0) : (∃ b, roundQuotient negative num den = .infinite b) ↔
    greatestExponent < if roundHalfEven (inUnits num den (unitOf num den)).1 (inUnits num den (unitOf num den)).2 = Nat.pow 2 53
      then unitOf num den+1 else unitOf num den := by
  have ends (q e) : (∃ b, (if greatestExponent < e then infinite negative else finite negative q e) = .infinite b) ↔
      greatestExponent < e := by
    split <;> simp_all
  unfold roundQuotient
  rw [if_neg some]
  change (∃ b, (fun p : Nat × Int => if greatestExponent < p.2 then infinite negative else finite negative p.1 p.2)
    (if roundHalfEven (inUnits num den (unitOf num den)).1 (inUnits num den (unitOf num den)).2 = Nat.pow 2 53
      then (Nat.pow 2 52,unitOf num den+1) else (_,unitOf num den)) = .infinite b) ↔ _
  split <;> exact ends _ _

theorem unitOfGreat {num : Nat} (great : 52 ≤ num.log2) : unitOf num 1 = num.log2-52 := by
  have some : num ≠ 0 := by
    rintro rfl
    cases great
  have units : inUnits num 1 (num.log2-52) = (num,2^(num.log2-52)) := by
    unfold inUnits
    rw [if_pos (by omega),Nat.one_mul]
    congr
    omega
  have whole : Nat.pow 2 52 ≤ num/2^(num.log2-52) := by
    rw [Nat.le_div_iff_mul_le (Nat.two_pow_pos _)]
    calc 2^52*2^(num.log2-52) = 2^num.log2 := by rw [← Nat.pow_add]; congr 1; omega
      _ ≤ num := Nat.log2_self_le some
  have one : Nat.log2 1 = 0 := rfl
  unfold unitOf
  rw [one]
  simp only [Int.natCast_zero,Int.sub_zero]
  rw [units,if_neg (Nat.not_lt.mpr whole)]
  unfold leastExponent
  omega

theorem unitOfSmall (num : Nat) : unitOf num 1 ≤ max leastExponent (num.log2-52) := by
  have one : Nat.log2 1 = 0 := rfl
  unfold unitOf
  rw [one]
  dsimp only
  split <;> omega

theorem roundsUp {num half : Nat} (below : num < 2^53*(2*half)) :
    roundHalfEven num (2*half) = 2^53 ↔ 2^53*(2*half)-half ≤ num := by
  have pos : 0 < 2*half := Nat.pos_of_ne_zero fun none => by simp [none] at below
  have less : num/(2*half) < 2^53 := (Nat.div_lt_iff_lt_mul pos).mpr below
  have whole := Nat.div_add_mod num (2*half)
  have rest := Nat.mod_lt num pos
  unfold roundHalfEven
  dsimp only
  generalize num/(2*half) = q at whole less ⊢
  generalize num%(2*half) = r at whole rest ⊢
  by_cases top : q = 2^53-1
  · subst top
    split <;> omega
  · have short : 2*half*q+2*half ≤ (2^53-1)*(2*half) := by
      rw [← Nat.mul_succ,Nat.mul_comm]
      exact Nat.mul_le_mul_right _ (by omega)
    split <;> omega

theorem beyondIff {negative num} : (∃ b, roundQuotient negative num 1 = .infinite b) ↔ floatBound ≤ num := by
  by_cases none : num = 0
  · subst none
    exact iff_of_false (by simp [roundQuotient,ofZero]) (by decide +kernel)
  · rw [infiniteIff none,greatestExponent]
    -- Below 2^1023 all round to floats and from 2^1024 on none does; in between the rounding decides.
    have log : num.log2 < 1023 ∨ num.log2 = 1023 ∨ ¬ num.log2 < 1024 := by omega
    rcases log with low | middle | high
    · have unit := unitOfSmall num
      rw [leastExponent] at unit
      refine iff_of_false (by split <;> omega) (Nat.not_le.mpr ?_)
      calc num < 2^1023 := (Nat.log2_lt none).mp low
        _ ≤ floatBound := by decide +kernel
    · obtain ⟨half,same⟩ : ∃ half, half = 2^970 := ⟨_,rfl⟩
      have units : inUnits num 1 (num.log2-52) = (num,2*half) := by
        unfold inUnits
        rw [middle,if_pos (by decide),Nat.one_mul,same]
        exact congrArg (num,·) (by decide +kernel)
      have below : num < 2^53*(2*half) := by
        rw [same]
        calc num < 2^1024 := (Nat.log2_lt none).mp (by rw [middle]; decide)
          _ = 2^53*(2*2^970) := by decide +kernel
      have bound : 2^53*(2*half)-half = floatBound := by
        rw [same]
        decide +kernel
      rw [unitOfGreat (by rw [middle]; decide),units,← bound,← roundsUp below,middle]
      split <;> rename_i rounds
      · exact iff_of_true (by decide) rounds
      · exact iff_of_false (by decide) rounds
    · refine iff_of_true (by rw [unitOfGreat (by omega)]; split <;> omega) ?_
      have great := (Nat.le_log2 none).mp (Nat.not_lt.mp high)
      exact Nat.le_trans (by decide +kernel) great

theorem unfloatedIff {n : Int} : ofInt? n = none ↔ floatBound ≤ n.natAbs := by
  rw [← @beyondIff (n < 0)]
  unfold ofInt?
  split <;> simp_all

end Binary64
open Numeral

def Value.unread? : Value → Option Fault
  | .int n => if Binary64.floatBound ≤ n.natAbs then some .overflow else none
  | .text s => if (leading? s.toList).isSome && (front s.toList).any (Separator ·) then some .badValue else none
  | v => if v.writable then none else some .badValue

theorem bracketLeads {c : Char} {cs} (bracket : c = '[' ∨ c = '\x7b') : leading? (c::cs) = none := by
  rw [leadingEq]
  have whole : behind (c::cs) = c::cs := by rcases bracket with rfl | rfl <;> rfl
  have same : plain c = c := by rcases bracket with rfl | rfl <;> rfl
  rw [whole,List.map_cons,same,signPlain (by rintro _ ⟨⟩; rcases bracket with rfl | rfl <;> decide),
    unsignedLetter (by rcases bracket with rfl | rfl <;> decide) (by rcases bracket with rfl | rfl <;> decide)]
  rfl

theorem bracketRead {v : Value} {c cs} (bracket : c = '[' ∨ c = '\x7b') (text : v.plainText.toList = c::cs) : (do
      let s ← v.textOf
      match leading? s.toList with
      | none => .ok Binary64.nan
      | some start =>
        match readDecimal? start with
        | some x => .ok x
        | none => .error .badValue) = if v.writable then .ok Binary64.nan else .error Fault.badValue := by
  unfold Value.textOf
  cases v.writable <;> simp [bind,Except.bind,text,bracketLeads bracket]

theorem listNumber {items : List Value} :
    leadingNumber (.list items) = if (Value.list items).writable then .ok .nan else .error .badValue :=
  bracketRead (.inl rfl) (by simp [Value.plainText,Value.quoted]; rfl)

theorem objectNumber {fields : Table Value} :
    leadingNumber (.object fields) = if (Value.object fields).writable then .ok .nan else .error .badValue :=
  bracketRead (.inr rfl) (by simp [Value.plainText,Value.quoted]; rfl)

theorem leadingFails {v : Value} {f} : leadingNumber v = .error f ↔ v.unread? = some f := by
  cases v with
  | int n =>
    have beyond := Binary64.unfloatedIff (n := n)
    simp only [leadingNumber,Value.unread?]
    cases made : Binary64.ofInt? n with
    | none => simp [beyond.mp made]
    | some x => simp [← beyond,made]
  | text s =>
    simp only [leadingNumber,Value.unread?,Value.textOf,Value.writable,Value.plainText,if_true,bind,Except.bind]
    cases leads : leading? s.toList with
    | none => simp
    | some start =>
      have read := leadingRead leads
      cases found : readDecimal? start with
      | some x =>
        have none := read.mp ⟨x,found⟩
        simpa [found] using fun c inside separator => absurd separator (none c inside)
      | none =>
        have some : ∃ c ∈ front s.toList, Separator c := by
          by_contra none
          obtain ⟨x,found'⟩ := read.mpr fun c inside separator => none ⟨c,inside,separator⟩
          cases found.symm.trans found'
        simp [found,some]
  | list items =>
    simp only [listNumber,Value.unread?]
    split <;> simp
  | object fields =>
    simp only [objectNumber,Value.unread?]
    split <;> simp
  | _ => simp [leadingNumber,Value.unread?,Value.writable]

end FormGuard
