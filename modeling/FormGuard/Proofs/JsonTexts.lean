import FormGuard.Proofs.ReadObjects
import Mathlib.Data.List.TakeWhile

/-! What a text spells as JSON, by a grammar that knows no limits, and the reading of its numbers, texts and words. -/
namespace FormGuard.Json

def Blank (cs : List Char) : Prop := ∀ c ∈ cs, isBlank c = true

structure Digits (cs : List Char) : Prop where
  filled : cs ≠ []
  each : ∀ c ∈ cs, Numeral.isDigit c = true

structure Whole (cs : List Char) : Prop extends Digits cs where
  zero : cs.head? = some '0' → cs = ['0']

inductive Fraction : List Char → List Char → Prop
  | none : Fraction [] []
  | some {ds} (digits : Digits ds) : Fraction ('.' :: ds) ds

inductive Sign : List Char → Bool → Prop
  | none : Sign [] false
  | plus : Sign ['+'] false
  | minus : Sign ['-'] true

def signed (negative : Bool) (n : Nat) : Int := if negative then -n else n

inductive Exponent : List Char → Option Int → Prop
  | none : Exponent [] none
  | some {c sg negative ds} (mark : c = 'e' ∨ c = 'E') (sign : Sign sg negative) (digits : Digits ds) :
      Exponent (c :: (sg ++ ds)) (some (signed negative (Numeral.natOf ds)))

inductive Number (negative : Bool) : List Char → Value → Nat → Prop
  | integer {ds} (whole : Whole ds) : Number negative ds (.int (signed negative (Numeral.natOf ds))) ds.length
  | decimal {ds cs ps es e} (whole : Whole ds) (part : Fraction cs ps) (exponent : Exponent es e)
      (more : ps ≠ [] ∨ e ≠ none) : Number negative (ds ++ (cs ++ es))
        (.float (.ofDecimal negative (Numeral.natOf (ds ++ ps)) (e.getD 0 - ps.length))) 0

inductive Units : List Char → List Nat → Prop
  | close : Units ['"'] []
  | code {p q r s u cs us} (unit : hexUnit? p q r s = some u) (rest : Units cs us) :
      Units ('\\' :: 'u' :: p :: q :: r :: s :: cs) (u :: us)
  | escape {e u cs us} (known : escaped? e = some u) (rest : Units cs us) : Units ('\\' :: e :: cs) (u :: us)
  | plain {c cs us} (quote : c ≠ '"') (slash : c ≠ '\\') (shown : 32 ≤ c.toNat) (rest : Units cs us) :
      Units (c :: cs) (c.toNat :: us)

def Quoted (cs : List Char) (s : String) : Prop := ∃ us, Units cs us ∧ String.ofList (joinUnits us) = s

inductive Piece where
  | value (v : Value)
  | items (vs : List Value)
  | fields (es : Value.Fields)

/-- What a text spells, with its levels and the digits of its longest integer. Items and entries go up to the bracket that
closes them; of entries that share a name the last counts, in the place of the first. -/
inductive Spells : Piece → List Char → Nat → Nat → Prop
  | word {cs v} (known : (cs,v) ∈ words) : Spells (.value v) cs 0 0
  | text {cs s} (quoted : Quoted cs s) : Spells (.value (.text s)) ('"' :: cs) 0 0
  | positive {cs v n} (number : Number false cs v n) : Spells (.value v) cs 0 n
  | negative {cs v n} (number : Number true cs v n) : Spells (.value v) ('-' :: cs) 0 n
  | emptyList {b} (blank : Blank b) : Spells (.value (.list [])) ('[' :: (b ++ [']'])) 1 0
  | list {b cs vs k n} (blank : Blank b) (items : Spells (.items vs) cs k n) :
      Spells (.value (.list vs)) ('[' :: (b ++ cs)) (k + 1) n
  | emptyObject {b} (blank : Blank b) : Spells (.value (.object [])) ('\x7b' :: (b ++ ['\x7d'])) 1 0
  | object {b cs es k n} (blank : Blank b) (fields : Spells (.fields es) cs k n) :
      Spells (.value (.object (Table.overlay [] es))) ('\x7b' :: (b ++ cs)) (k + 1) n
  | lastItem {v cs b k n} (item : Spells (.value v) cs k n) (blank : Blank b) :
      Spells (.items [v]) (cs ++ (b ++ [']'])) k n
  | nextItem {v vs cs b b' more k n k' n'} (item : Spells (.value v) cs k n) (before : Blank b) (behind : Blank b')
      (rest : Spells (.items vs) more k' n') :
      Spells (.items (v :: vs)) (cs ++ (b ++ ',' :: (b' ++ more))) (max k k') (max n n')
  | lastField {name v b b' ns cs b'' k n} (quoted : Quoted ns name) (before : Blank b) (behind : Blank b')
      (value : Spells (.value v) cs k n) (blank : Blank b'') :
      Spells (.fields [(name,v)]) ('"' :: (ns ++ (b ++ ':' :: (b' ++ (cs ++ (b'' ++ ['\x7d'])))))) k n
  | nextField {name v es b b' b₁ b₂ ns cs more k n k' n'} (quoted : Quoted ns name) (before : Blank b) (behind : Blank b')
      (value : Spells (.value v) cs k n) (blank : Blank b₁) (blank' : Blank b₂) (rest : Spells (.fields es) more k' n') :
      Spells (.fields ((name,v) :: es))
        ('"' :: (ns ++ (b ++ ':' :: (b' ++ (cs ++ (b₁ ++ ',' :: (b₂ ++ more))))))) (max k k') (max n n')

def Document (line : String) (v : Value) (levels digits : Nat) : Prop :=
  ∃ before cs behind, Blank before ∧ Spells (.value v) cs levels digits ∧ Blank behind ∧
    line.toList = before ++ (cs ++ behind)

/-! ## Numbers -/

theorem takenDigits {ds rest : List Char} (each : ∀ c ∈ ds, Numeral.isDigit c = true)
    (stop : ∀ c, rest.head? = some c → Numeral.isDigit c = false) :
    (ds ++ rest).takeWhile Numeral.isDigit = ds ∧ (ds ++ rest).dropWhile Numeral.isDigit = rest := by
  have none : rest.takeWhile Numeral.isDigit = [] ∧ rest.dropWhile Numeral.isDigit = rest := by
    cases rest with
    | nil => exact ⟨rfl,rfl⟩
    | cons c cs => simp [stop c rfl]
  rw [List.takeWhile_append_of_pos each,List.dropWhile_append_of_pos each,none.1,none.2,List.append_nil]
  exact ⟨rfl,rfl⟩

theorem digitsTaken (cs : List Char) (some : (cs.takeWhile Numeral.isDigit).isEmpty = false) :
    Digits (cs.takeWhile Numeral.isDigit) :=
  ⟨by simpa using some,fun _ inside => List.mem_takeWhile_imp inside⟩

theorem wholeRead {ds rest : List Char} (whole : Whole ds) (stop : ∀ c, rest.head? = some c → Numeral.isDigit c = false) :
    readWhole? (ds ++ rest) = some (ds,rest) := by
  have taken := takenDigits whole.each stop
  by_cases zero : ds.head? = some '0'
  · rw [whole.zero zero]
    rfl
  · unfold readWhole?
    split
    · rename_i tail same
      cases ds with
      | nil => exact absurd rfl whole.filled
      | cons d ds =>
        cases same
        exact absurd rfl zero
    · dsimp only
      rw [taken.1,taken.2,if_neg (by simpa using whole.filled)]

theorem readWhole {cs ds rest : List Char} (read : readWhole? cs = some (ds,rest)) : cs = ds ++ rest ∧ Whole ds := by
  unfold readWhole? at read
  split at read
  · cases read
    exact ⟨rfl,⟨by simp,by simp; rfl⟩,fun _ => rfl⟩
  · rename_i other
    dsimp only at read
    split at read
    · contradiction
    · rename_i some
      cases read
      have digits := digitsTaken cs (by simpa using some)
      refine ⟨(List.takeWhile_append_dropWhile ..).symm,digits,fun zero => ?_⟩
      cases cs with
      | nil => contradiction
      | cons c cs =>
        have : c = '0' := by
          rw [List.takeWhile_cons] at zero
          split at zero
          · exact Option.some.inj zero
          · contradiction
        exact absurd (this ▸ rfl) (other cs)

theorem fractionRead {cs ps rest : List Char} (part : Fraction cs ps)
    (stop : ∀ c, rest.head? = some c → Numeral.isDigit c = false ∧ c ≠ '.') : readPart (cs ++ rest) = (ps,rest) := by
  cases part with
  | none =>
    cases rest with
    | nil => rfl
    | cons c cs =>
      have point := (stop c rfl).2
      simp [readPart,point]
  | some digits =>
    have taken := takenDigits digits.each fun c head => (stop c head).1
    simp only [List.cons_append,readPart,taken.1,taken.2]
    rw [if_neg (by simpa using digits.filled)]

theorem readFraction {rest ps rest' : List Char} (read : readPart rest = (ps,rest')) :
    ∃ cs, rest = cs ++ rest' ∧ Fraction cs ps := by
  unfold readPart at read
  split at read
  · dsimp only at read
    split at read
    · cases read
      exact ⟨[],rfl,.none⟩
    · rename_i cs some
      cases read
      exact ⟨_,by rw [List.cons_append,List.takeWhile_append_dropWhile],.some (digitsTaken cs (by simpa using some))⟩
  · cases read
    exact ⟨[],rfl,.none⟩

theorem signRead {sg ds rest : List Char} {negative} (sign : Sign sg negative) (digits : Digits ds) :
    Numeral.sign (sg ++ (ds ++ rest)) = (negative,ds ++ rest) := by
  cases sign with
  | none =>
    cases ds with
    | nil => exact absurd rfl digits.filled
    | cons d ds =>
      have digit := digits.each d (.head _)
      unfold Numeral.sign
      split
      · rename_i same
        cases same
        contradiction
      · rename_i same
        cases same
        contradiction
      · rfl
  | plus => rfl
  | minus => rfl

theorem readSign (cs : List Char) : ∃ sg, cs = sg ++ (Numeral.sign cs).2 ∧ Sign sg (Numeral.sign cs).1 := by
  unfold Numeral.sign
  split
  · exact ⟨_,rfl,.minus⟩
  · exact ⟨_,rfl,.plus⟩
  · exact ⟨_,rfl,.none⟩

theorem exponentRead {es rest : List Char} {e} (exponent : Exponent es e)
    (stop : ∀ c, rest.head? = some c → Numeral.isDigit c = false ∧ c ≠ 'e' ∧ c ≠ 'E') :
    Numeral.exponent? (es ++ rest) = e.map (·,rest) := by
  cases exponent with
  | none =>
    cases rest with
    | nil => rfl
    | cons c cs =>
      have := (stop c rfl).2
      simp [Numeral.exponent?,this]
  | some mark sign digits =>
    have taken := takenDigits digits.each fun c head => (stop c head).1
    simp only [List.cons_append,List.append_assoc,Numeral.exponent?,if_pos mark,signRead sign digits,taken.1,taken.2]
    rw [if_neg (by simpa using digits.filled)]
    rfl

theorem readExponent {rest rest' : List Char} {e} (read : Numeral.exponent? rest = some (e,rest')) :
    ∃ es, rest = es ++ rest' ∧ Exponent es (some e) := by
  unfold Numeral.exponent? at read
  split at read
  · rename_i c cs
    split at read
    · rename_i mark
      obtain ⟨sg,cut,sign⟩ := readSign cs
      dsimp only at read
      split at read
      · contradiction
      · rename_i some
        cases read
        refine ⟨_,?_,.some mark sign (digitsTaken _ (by simpa using some))⟩
        rw [List.cons_append,List.append_assoc,List.takeWhile_append_dropWhile,← cut]
    · contradiction
  · contradiction

inductive Answers {α : Type} (a : α) (rest : List Char) (levels k n : Nat) : Except Defect (α × List Char) → Prop
  | given (shallow : k ≤ levels) (short : n ≤ Numeral.digitLimit) : Answers a rest levels k n (.ok (a,rest))
  | deep (deep : levels < k) : Answers a rest levels k n (.error .tooDeep)
  | long (long : Numeral.digitLimit < n) : Answers a rest levels k n (.error .longNumeral)

namespace Answers
variable {α : Type} {a : α} {rest : List Char} {levels k n : Nat} {x : Except Defect (α × List Char)}

theorem map {β : Type} (f : α → β) (answers : Answers a rest levels k n x) :
    Answers (f a) rest levels k n (x.map fun read => (f read.1,read.2)) := by
  cases answers with
  | given shallow short => exact .given shallow short
  | deep deep => exact .deep deep
  | long long => exact .long long

theorem deeper (answers : Answers a rest levels k n x) : Answers a rest (levels + 1) (k + 1) n x := by
  cases answers with
  | given shallow short => exact .given (Nat.succ_le_succ shallow) short
  | deep deep => exact .deep (Nat.succ_lt_succ deep)
  | long long => exact .long long

theorem joined {k' n' : Nat} (answers : Answers a rest levels k n x) (shallow : k' ≤ levels)
    (short : n' ≤ Numeral.digitLimit) : Answers a rest levels (max k' k) (max n' n) x := by
  cases answers with
  | given shallow' short' => exact .given (Nat.max_le.mpr ⟨shallow,shallow'⟩) (Nat.max_le.mpr ⟨short,short'⟩)
  | deep deep => exact .deep (Nat.lt_of_lt_of_le deep (Nat.le_max_right ..))
  | long long => exact .long (Nat.lt_of_lt_of_le long (Nat.le_max_right ..))

theorem goesOn (answers : Answers a rest levels k n x) :
    (k ≤ levels ∧ n ≤ Numeral.digitLimit ∧ x = .ok (a,rest)) ∨ ∃ d, x = .error d ∧
      ∀ {β : Type} (b : β) (rest : List Char) (k' n'), k ≤ k' → n ≤ n' → Answers b rest levels k' n' (.error d) := by
  cases answers with
  | given shallow short => exact .inl ⟨shallow,short,rfl⟩
  | deep deep => exact .inr ⟨_,rfl,fun _ _ _ _ deepest _ => .deep (Nat.lt_of_lt_of_le deep deepest)⟩
  | long long => exact .inr ⟨_,rfl,fun _ _ _ _ _ longest => .long (Nat.lt_of_lt_of_le long longest)⟩

end Answers

def Stops (rest : List Char) : Prop :=
  ∀ c, rest.head? = some c → Numeral.isDigit c = false ∧ c ≠ '.' ∧ c ≠ 'e' ∧ c ≠ 'E'

theorem fractionHead {cs ps rest : List Char} (part : Fraction cs ps)
    (stop : ∀ c, rest.head? = some c → Numeral.isDigit c = false) :
    ∀ c, (cs ++ rest).head? = some c → Numeral.isDigit c = false := by
  cases part with
  | none => exact stop
  | some => rintro c ⟨⟩; rfl

theorem exponentHead {es rest : List Char} {e} (exponent : Exponent es e)
    (stop : ∀ c, rest.head? = some c → Numeral.isDigit c = false ∧ c ≠ '.') :
    ∀ c, (es ++ rest).head? = some c → Numeral.isDigit c = false ∧ c ≠ '.' := by
  cases exponent with
  | none => exact stop
  | some mark =>
    rintro c ⟨⟩
    rcases mark with rfl | rfl <;> decide

theorem numberRead {negative cs v n rest} (number : Number negative cs v n) (stops : Stops rest) (levels : Nat) :
    Answers v rest levels 0 n (readUnsigned negative (cs ++ rest)) := by
  cases number with
  | integer whole =>
    have part : readPart rest = ([],rest) := fractionRead .none fun c head => ⟨(stops c head).1,(stops c head).2.1⟩
    have exponent : Numeral.exponent? rest = none := exponentRead .none fun c head => ⟨(stops c head).1,(stops c head).2.2⟩
    simp only [readUnsigned,wholeRead whole fun c head => (stops c head).1,part,exponent,integer]
    split
    · rename_i long
      exact .long long
    · rename_i short
      exact .given (Nat.zero_le _) (Nat.not_lt.mp short)
  | @decimal ds cs ps es e whole part exponent more =>
    have behind := exponentHead exponent fun c head => ⟨(stops c head).1,(stops c head).2.1⟩
    have first := wholeRead whole (fractionHead part fun c head => (behind c head).1)
    have second := fractionRead part behind
    have third := exponentRead exponent fun c head => ⟨(stops c head).1,(stops c head).2.2⟩
    simp only [readUnsigned,List.append_assoc,first,second,third]
    cases exponent with
    | some => cases ps <;> exact .given (Nat.zero_le _) (Nat.zero_le _)
    | none =>
      cases ps with
      | nil => simp at more
      | cons => exact .given (Nat.zero_le _) (Nat.zero_le _)

theorem readNumber {negative cs v rest} (read : readUnsigned negative cs = .ok (v,rest)) :
    ∃ text n, cs = text ++ rest ∧ Number negative text v n ∧ n ≤ Numeral.digitLimit := by
  unfold readUnsigned at read
  split at read
  · contradiction
  · rename_i ds behind first
    obtain ⟨rfl,whole⟩ := readWhole first
    rcases cut : readPart behind with ⟨ps,behind'⟩
    obtain ⟨part,rfl,fraction⟩ := readFraction cut
    simp only [cut] at read
    rcases found : Numeral.exponent? behind' with _ | ⟨e,behind''⟩
    · rw [found] at read
      cases fraction with
      | none =>
        obtain ⟨w,number,same⟩ := mapOk read
        cases same
        unfold integer at number
        split at number
        · contradiction
        · rename_i short
          cases number
          exact ⟨ds,_,rfl,.integer whole,Nat.not_lt.mp short⟩
      | some digits =>
        split at read
        · exact absurd rfl digits.filled
        · cases read
          refine ⟨_,0,?_,.decimal whole (.some digits) .none (.inl digits.filled),Nat.zero_le _⟩
          simp
    · rw [found] at read
      obtain ⟨text,rfl,exponent⟩ := readExponent found
      split at read
      · contradiction
      · cases read
        refine ⟨_,0,?_,.decimal whole fraction exponent (.inr nofun),Nat.zero_le _⟩
        simp

/-! ## Texts and words -/

theorem unitsRead {cs us} (units : Units cs us) (rest : List Char) : readUnits? (cs ++ rest) = some (us,rest) := by
  induction units with
  | close =>
    unfold readUnits?
    rfl
  | code unit _ ih => simp [readUnits?,unit,ih]
  | @escape e u cs us known _ ih =>
    have other : e ≠ 'u' := by
      rintro rfl
      contradiction
    unfold readUnits?
    simp only [List.cons_append]
    rw [if_neg (by decide),if_pos trivial]
    split
    · rename_i same
      exact absurd (List.cons.inj same).1 other
    · rename_i same
      cases same
      simp [known,ih]
    · contradiction
  | plain quote slash shown _ ih =>
    unfold readUnits?
    simp only [List.cons_append]
    rw [if_neg quote,if_neg slash,if_neg (by omega),ih]
    rfl

theorem readUnits {cs us rest} (read : readUnits? cs = some (us,rest)) : ∃ text, cs = text ++ rest ∧ Units text us := by
  fun_induction readUnits? cs generalizing us with
  | case1 => contradiction
  | case2 =>
    cases read
    exact ⟨['"'],rfl,.close⟩
  | case3 p q r s rest' _ ih =>
    obtain ⟨u,unit,⟨us',rest''⟩,units,same⟩ : ∃ u, hexUnit? p q r s = some u ∧ ∃ more, readUnits? rest' = some more ∧
        (u :: more.1,more.2) = (us,rest) := by simpa [Option.bind_eq_some_iff] using read
    cases same
    obtain ⟨text,rfl,spelled⟩ := ih units
    exact ⟨_,rfl,.code unit spelled⟩
  | case4 e rest' other _ ih =>
    obtain ⟨u,known,⟨us',rest''⟩,units,same⟩ : ∃ u, escaped? e = some u ∧ ∃ more, readUnits? rest' = some more ∧
        (u :: more.1,more.2) = (us,rest) := by simpa [Option.bind_eq_some_iff] using read
    cases same
    obtain ⟨text,rfl,spelled⟩ := ih units
    exact ⟨_,rfl,.escape known spelled⟩
  | case5 => contradiction
  | case6 => contradiction
  | case7 c rest' quote slash shown ih =>
    obtain ⟨⟨us',rest''⟩,units,same⟩ := Option.map_eq_some_iff.mp read
    cases same
    obtain ⟨text,rfl,spelled⟩ := ih units
    exact ⟨_,rfl,.plain quote slash (Nat.not_lt.mp shown) spelled⟩

theorem quotedRead {cs s} (quoted : Quoted cs s) (rest : List Char) : readText? (cs ++ rest) = some (s,rest) := by
  obtain ⟨us,units,rfl⟩ := quoted
  simp [readText?,unitsRead units]

theorem readQuoted {cs s rest} (read : readText? cs = some (s,rest)) : ∃ text, cs = text ++ rest ∧ Quoted text s := by
  obtain ⟨⟨us,rest'⟩,units,same⟩ := Option.map_eq_some_iff.mp read
  cases same
  obtain ⟨text,rfl,spelled⟩ := readUnits units
  exact ⟨text,rfl,us,spelled,rfl⟩

theorem wordRead {cs v} (known : (cs,v) ∈ words) (rest : List Char) : readWord? (cs ++ rest) = some (v,rest) := by
  simp only [words,List.mem_cons,Prod.mk.injEq,List.not_mem_nil,or_false] at known
  rcases known with ⟨rfl,rfl⟩ | ⟨rfl,rfl⟩ | ⟨rfl,rfl⟩ | ⟨rfl,rfl⟩ | ⟨rfl,rfl⟩ | ⟨rfl,rfl⟩ <;> rfl

theorem readWord {cs v rest} (read : readWord? cs = some (v,rest)) : ∃ word, cs = word ++ rest ∧ (word,v) ∈ words := by
  obtain ⟨⟨word,w⟩,member,found⟩ := List.exists_of_findSome?_eq_some read
  dsimp only at found
  split at found
  · rename_i leads
    cases found
    obtain ⟨rest,rfl⟩ := List.isPrefixOf_iff_prefix.mp leads
    exact ⟨word,by simp,member⟩
  · contradiction

end FormGuard.Json
