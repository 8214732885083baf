import FormGuard.Proofs.CheckedCatalogs
import FormGuard.Proofs.NumeralCuts
import FormGuard.Check.Evaluation

/-! The bound of a number, read twice: whole when a rule string is taken in, and from its front when a value is judged.
The second reading stops at the first underscore and knows no name of infinity; without these the two agree. -/
namespace FormGuard
namespace Numeral
open Text (isBlank isAsciiBlank isAsciiDigit)

def namesInfinity (cs : List Char) : Bool :=
  let word := (sign (trim (cs.map plain))).2
  isSpelled "inf" word || isSpelled "infinity" word

theorem roundedNumber (negative num den) : (Binary64.roundQuotient negative num den).isNan = false := by
  unfold Binary64.roundQuotient Binary64.ofZero
  dsimp only
  repeat' split
  all_goals rfl

theorem decimalNumber (negative n e) : (Binary64.ofDecimal negative n e).isNan = false := by
  unfold Binary64.ofDecimal
  repeat' split
  all_goals first
    | rfl
    | exact roundedNumber _ _ _

theorem valued {x : Binary64} (number : x.isNan = false) : x ≠ .nan := by
  rintro rfl
  cases number

theorem signPlain {cs : List Char} (free : ∀ c ∈ cs.head?, c ≠ '-' ∧ c ≠ '+') : sign cs = (false,cs) := by
  cases cs with
  | nil => rfl
  | cons c cs =>
    obtain ⟨minus,plus⟩ := free c rfl
    simp [sign,minus,plus]

theorem wordUnsigned {b n e rest} (read : unsigned? b = some (n,e,rest)) {word : String}
    (letters : ∀ c ∈ word.toList, Letter c) (some : word ≠ "") : isSpelled word b = false := by
  cases spelled : isSpelled word b with
  | false => rfl
  | true =>
    have all := spelledLetters letters spelled
    cases b with
    | nil =>
      have empty : [] = word.toList := by simpa [isSpelled] using spelled
      exact absurd (String.toList_eq_nil_iff.mp empty.symm) some
    | cons c b =>
      have other := (all c (by simp)).other
      rw [unsignedLetter other.1 other.2.1] at read
      contradiction

theorem wordLetters : (∀ c ∈ "nan".toList, Letter c) ∧ (∀ c ∈ "inf".toList, Letter c) ∧
    ∀ c ∈ "infinity".toList, Letter c := by
  simp [Letter]

theorem numeralRead {cs b : List Char} (trimmed : trim (cs.map plain) = b) (free : '_' ∉ b) {n e}
    (read : unsigned? (sign b).2 = some (n,e,[])) : readDecimal? cs = some (.ofDecimal (sign b).1 n e) := by
  have whole : dropUnderscores? b = some b := goFree free (by simp)
  have words := wordLetters
  unfold readDecimal?
  simp [trimmed,whole,read,wordUnsigned read words.1 (by decide),wordUnsigned read words.2.1 (by decide),
    wordUnsigned read words.2.2 (by decide)]

theorem trimLast (cs : List Char) : ∀ c ∈ (trim cs).getLast?, isAsciiBlank c.toNat = false := by
  intro c last
  have stop := List.head?_dropWhile_not (fun c : Char => isAsciiBlank c.toNat) (dropBlanks cs).reverse
  unfold trim at last
  rw [List.getLast?_reverse] at last
  unfold dropBlanks at last stop
  rw [Option.mem_def.mp last] at stop
  simpa using stop

theorem sameCut {p q : Char → Bool} (wider : ∀ c, p c = true → q c = true) {cs : List Char}
    (stop : ∀ c ∈ (cs.dropWhile p).head?, q c = false) :
    cs.takeWhile q = cs.takeWhile p ∧ cs.dropWhile q = cs.dropWhile p := by
  induction cs with
  | nil => exact ⟨rfl,rfl⟩
  | cons c cs ih =>
    by_cases inside : p c = true
    · have := ih (by simpa [inside] using stop)
      simp [inside,wider c inside,this]
    · have out : q c = false := stop c (by simp [inside])
      simp [inside,out]

def front (cs : List Char) : List Char := cs.takeWhile fun c => isBlank c.toNat

def behind (cs : List Char) : List Char := cs.dropWhile fun c => isBlank c.toNat

theorem frontBehind (cs : List Char) : front cs++behind cs = cs := List.takeWhile_append_dropWhile

theorem blanksAround {cs : List Char} (filled : trim (cs.map plain) ≠ [])
    (first : ∀ c ∈ (trim (cs.map plain)).head?, isBlank c.toNat = false) :
    ∃ trail, (behind cs).map plain = trim (cs.map plain)++trail ∧
      (∀ c ∈ trail, isAsciiBlank c.toNat = true) ∧
      ∀ c ∈ (front cs).map plain, isAsciiBlank c.toNat = true := by
  obtain ⟨trail,rest,blank⟩ := trimSplit (cs.map plain)
  unfold dropBlanks at rest
  rw [List.dropWhile_map,Function.comp_def] at rest
  have cut (stop) : front cs = cs.takeWhile _ ∧ behind cs = cs.dropWhile fun c => isAsciiBlank (plain c).toNat :=
    sameCut (fun c => blankOfPlain) stop
  replace cut := cut ?_
  · refine ⟨trail,by rw [cut.2,rest],blank,?_⟩
    rw [cut.1,List.forall_mem_map]
    exact fun c inside => List.mem_takeWhile_imp (p := fun c => isAsciiBlank (plain c).toNat) inside
  · intro c head
    cases ht : trim (cs.map plain) with
    | nil => contradiction
    | cons d ds =>
      cases hc : cs.dropWhile fun c => isAsciiBlank (plain c).toNat with
      | nil => simp [hc] at head
      | cons c' cs' =>
        simp only [hc,ht,List.map_cons,List.cons_append,List.cons.injEq] at rest
        obtain rfl : c' = c := by simpa [hc] using head
        have other := first d (by simp [ht])
        rw [← rest.1] at other
        cases wide : isBlank c'.toNat with
        | false => rfl
        | true => rw [plainBlank wide] at other; contradiction

theorem leadingEq (cs : List Char) :
    leading? cs = (unsigned? (sign ((behind cs).map plain)).2).map fun (_,_,rest) => cs.take (cs.length-rest.length) := by
  have rest : cs.drop (front cs).length = behind cs :=
    (congrArg (List.drop (front cs).length) (frontBehind cs).symm).trans List.drop_left
  unfold leading?
  dsimp only
  rw [show cs.drop (cs.takeWhile _).length = behind cs from rest]
  cases unsigned? (sign ((behind cs).map plain)).2 <;> rfl

theorem infinityUnread {cs : List Char} (named : namesInfinity cs = true) : leading? cs = none := by
  have letters : ∀ c ∈ (sign (trim (cs.map plain))).2, Letter c := by
    simp only [namesInfinity,Bool.or_eq_true] at named
    rcases named with inf | infinity
    · exact spelledLetters wordLetters.2.1 inf
    · exact spelledLetters wordLetters.2.2 infinity
  have word : (sign (trim (cs.map plain))).2 ≠ [] := by
    intro empty
    simp [namesInfinity,empty,isSpelled] at named
  have filled : trim (cs.map plain) ≠ [] := by
    intro empty
    simp [empty,sign] at word
  have first : ∀ c ∈ (trim (cs.map plain)).head?, isBlank c.toNat = false := by
    intro c head
    cases blank : isBlank c.toNat with
    | false => rfl
    | true =>
      have apart := blankApart blank
      rw [signPlain (by rintro d same; cases head.symm.trans same; exact ⟨apart.2.2.2.2.2,apart.2.2.2.2.1⟩)] at letters
      rw [(letters c (List.mem_of_mem_head? head)).other.2.2] at blank
      contradiction
  obtain ⟨trail,rest,_,_⟩ := blanksAround filled first
  rw [leadingEq,rest,signAppend filled]
  cases hw : (sign (trim (cs.map plain))).2 with
  | nil => contradiction
  | cons c b =>
    have other := (letters c (by simp [hw])).other
    rw [List.cons_append,unsignedLetter other.1 other.2.1]
    rfl

structure Numbered (cs pre t : List Char) (n : Nat) (e : Int) : Prop where
  split : trim (cs.map plain) = pre++t
  free : '_' ∉ pre
  read : unsigned? (sign pre).2 = some (n,e,[])
  ended : t = [] ∨ EndsInDigit pre ∧ ∃ t', t = '_' :: t'

theorem numeralFirst {b n e rest} (read : unsigned? (sign b).2 = some (n,e,rest)) :
    b ≠ [] ∧ ∀ c ∈ b.head?, isBlank c.toNat = false := by
  constructor
  · rintro rfl
    simp [sign,unsignedEq,fraction,scaled] at read
  · intro c head
    cases blank : isBlank c.toNat with
    | false => rfl
    | true =>
      have apart := blankApart blank
      cases b with
      | nil => cases head
      | cons d b =>
        cases head
        rw [signPlain (by rintro d ⟨⟩; exact ⟨apart.2.2.2.2.2,apart.2.2.2.2.1⟩),unsignedLetter apart.1 apart.2.1] at read
        contradiction

theorem digitUnblank {d : Char} (digit : isDigit d = true) : isAsciiBlank d.toNat = false := by
  simp [isDigit,isAsciiDigit] at digit
  simp [isAsciiBlank]
  omega

namespace Numbered
variable {cs pre t : List Char} {n : Nat} {e : Int}

theorem trimmed (num : Numbered cs pre t n e) {lead trail : List Char}
    (leads : ∀ c ∈ lead, isAsciiBlank c.toNat = true) (trails : ∀ c ∈ trail, isAsciiBlank c.toNat = true) :
    trim (lead++(pre++trail)) = pre := by
  have first := numeralFirst num.read
  refine trimBetween leads trails ?_ ?_ first.1
  · intro c head
    cases blank : isAsciiBlank c.toNat with
    | false => rfl
    | true =>
      have wide : isBlank c.toNat = true := by
        simp [isAsciiBlank,isBlank] at blank ⊢; omega
      rw [first.2 c head] at wide
      contradiction
  · intro c last
    rcases num.ended with none | ⟨⟨d,last',digit⟩,_⟩
    · have := trimLast (cs.map plain)
      rw [num.split,none,List.append_nil] at this
      exact this c last
    · cases last.symm.trans last'
      exact digitUnblank digit

theorem around (num : Numbered cs pre t n e) :
    ∃ lead trail, cs.map plain = lead++(pre++(t++trail)) ∧
      (behind cs).map plain = pre++(t++trail) ∧
      (∀ c ∈ lead, isAsciiBlank c.toNat = true) ∧ ∀ c ∈ trail, isAsciiBlank c.toNat = true := by
  have first := numeralFirst num.read
  have front : (pre++t).head? = pre.head? := by
    cases hp : pre with
    | nil => exact absurd hp first.1
    | cons d b => rfl
  obtain ⟨trail,rest,trails,leads⟩ := @blanksAround cs (by simp [num.split,first.1]) (by
    rw [num.split,front]
    exact first.2)
  rw [num.split,List.append_assoc] at rest
  refine ⟨_,trail,?_,rest,leads,trails⟩
  rw [← rest,← List.map_append,frontBehind]

theorem apart (num : Numbered cs pre t n e) {trail : List Char} (trails : ∀ c ∈ trail, isAsciiBlank c.toNat = true) :
    Apart (t++trail) := by
  rcases num.ended with rfl | ⟨_,t',rfl⟩
  · intro c head
    have blank := trails c (List.mem_of_mem_head? head)
    exact blankApart (by simp [isAsciiBlank,isBlank] at blank ⊢; omega)
  · rintro c ⟨⟩
    decide

theorem led (num : Numbered cs pre t n e) :
    ∃ start, leading? cs = some start ∧ readDecimal? start = some (.ofDecimal (sign pre).1 n e) := by
  obtain ⟨lead,trail,whole,rest,leads,trails⟩ := num.around
  have apart := num.apart trails
  have size : cs.length-(t++trail).length = (lead++pre).length := by
    have := congrArg List.length whole
    simp only [List.length_map,List.length_append] at this ⊢
    omega
  have start : leading? cs = some (cs.take (lead++pre).length) := by
    rw [leadingEq,rest,signApart apart,unsignedApart apart,num.read]
    exact congrArg (some <| cs.take ·) size
  refine ⟨_,start,numeralRead ?_ num.free num.read⟩
  rw [List.map_take,whole,← List.append_assoc,List.take_left]
  simpa using num.trimmed leads (List.forall_mem_nil _)

theorem cut (num : Numbered cs pre t n e) :
    readDecimal? (beforeUnderscore cs) = some (.ofDecimal (sign pre).1 n e) := by
  obtain ⟨lead,trail,whole,_,leads,trails⟩ := num.around
  have same : (beforeUnderscore cs).map plain = (cs.map plain).takeWhile (· != '_') := by
    have mark : (· != '_') ∘ plain = (· != '_') := by
      funext c
      exact Bool.eq_iff_iff.mpr (by simp [plainUnderscore])
    rw [List.takeWhile_map,mark,beforeUnderscore]
  have none : ∀ c ∈ lead++pre, (c != '_') = true := by
    intro c inside
    simp only [bne_iff_ne]
    rintro rfl
    rcases List.mem_append.mp inside with inside | inside
    · exact absurd (leads _ inside) (by decide)
    · exact num.free inside
  have short : (beforeUnderscore cs).map plain = lead++(pre++(t++trail).takeWhile (· != '_')) := by
    rw [same,whole,← List.append_assoc,List.takeWhile_append_of_pos none,List.append_assoc]
  refine numeralRead ?_ num.free num.read
  rw [short]
  refine num.trimmed leads ?_
  rcases num.ended with rfl | ⟨_,t',rfl⟩
  · exact fun c inside => trails c ((List.takeWhile_sublist _).mem inside)
  · simp

end Numbered

theorem digitNoWord {b u : List Char} (ends : EndsInDigit b) {word : String} (letters : ∀ c ∈ word.toList, Letter c) :
    isSpelled word (b++u) = false := by
  obtain ⟨d,last,digit⟩ := ends
  cases spelled : isSpelled word (b++u) with
  | false => rfl
  | true =>
    have letter := spelledLetters letters spelled d (List.mem_append_left u (List.mem_of_getLast? last))
    rw [letter.other.1] at digit
    contradiction

theorem numbered {cs x} (read : readDecimal? cs = some x) (number : x.isNan = false) (unnamed : namesInfinity cs = false) :
    ∃ pre t n e, Numbered cs pre t n e := by
  unfold readDecimal? at read
  simp only [Option.bind_eq_bind,Option.bind_eq_some_iff] at read
  obtain ⟨us,clean,read⟩ := read
  simp only [namesInfinity,Bool.or_eq_false_iff] at unnamed
  have free : '_' ∉ beforeUnderscore (trim (cs.map plain)) := fun inside => by simpa using List.mem_takeWhile_imp inside
  have words := wordLetters
  rcases underscored clean with ⟨rfl,whole⟩ | ⟨t,u,split,rfl,ends⟩
  · rw [whole] at free
    simp only [unnamed.1,unnamed.2,Bool.or_false,Bool.false_eq_true,if_false] at read
    split at read
    · cases read
      contradiction
    · obtain ⟨⟨n,e,rest⟩,inner,last⟩ := Option.bind_eq_some_iff.mp read
      dsimp only at last
      split at last
      · rename_i empty
        obtain rfl := List.isEmpty_iff.mp empty
        exact ⟨_,[],n,e,(List.append_nil _).symm,free,inner,.inl rfl⟩
      · contradiction
  · rw [signAppend ends.ne] at read
    simp only [digitNoWord ends.sign words.1,digitNoWord ends.sign words.2.1,digitNoWord ends.sign words.2.2,
      Bool.or_false,Bool.false_eq_true,if_false] at read
    obtain ⟨⟨n,e,rest⟩,inner,last⟩ := Option.bind_eq_some_iff.mp read
    dsimp only at last
    split at last
    · rename_i empty
      obtain rfl := List.isEmpty_iff.mp empty
      obtain ⟨n',e',cut⟩ := unsignedCut ends.sign inner
      exact ⟨_,_,n',e',split,free,cut,.inr ⟨ends,t,rfl⟩⟩
    · contradiction

end Numeral

open Numeral Catalog

def boundRead (p : String) : Binary64 :=
  if namesInfinity p.toList then .nan else ((readDecimal? (beforeUnderscore p.toList)).getD .nan)

theorem boundCompared {p : String} {x} (read : readDecimal? p.toList = some x) (number : x.isNan = false) :
    leadingNumber (.text p) = .ok (boundRead p) ∧
      (namesInfinity p.toList = false → readDecimal? (beforeUnderscore p.toList) = some (boundRead p) ∧
        (boundRead p).isNan = false) := by
  unfold boundRead
  cases named : namesInfinity p.toList with
  | true =>
    refine ⟨?_,by simp⟩
    simp [leadingNumber,Value.textOf,Value.writable,Value.plainText,infinityUnread named,bind,Except.bind]
  | false =>
    obtain ⟨pre,t,n,e,num⟩ := numbered read number named
    obtain ⟨start,leads,starts⟩ := num.led
    rw [num.cut]
    refine ⟨?_,fun _ => ⟨rfl,decimalNumber _ _ _⟩⟩
    simp [leadingNumber,Value.textOf,Value.writable,Value.plainText,leads,starts,bind,Except.bind]

theorem wholeBefore {cs : List Char} (free : '_' ∉ cs) : beforeUnderscore cs = cs :=
  List.takeWhile_eq_self_iff.mpr fun _ inside => bne_iff_ne.mpr fun same => free (same ▸ inside)

theorem paramsChecked {d : RuleDefinition} {custom token descriptor}
    (described : d.describe custom token = .ok descriptor) (plain : d.name ≠ customRule) :
    d.checkParams descriptor.params = .ok () ∧ descriptor.condition = d.condition := by
  unfold RuleDefinition.describe at described
  simp only [plain,if_false,bindOk] at described
  obtain ⟨_,_,_,checked,_,_,last⟩ := described
  cases last
  exact ⟨checked,rfl⟩

theorem paramsSuit {d : RuleDefinition} {ps} (checked : d.checkParams ps = .ok ()) :
    ∀ p ∈ ps, ∃ expected, d.suits p = .ok (true,expected) := by
  induction ps with
  | nil => simp
  | cons p ps ih =>
    simp only [RuleDefinition.checkParams,bindOk] at checked
    obtain ⟨⟨fine,expected⟩,suits,rest⟩ := checked
    cases fine with
    | false => contradiction
    | true => exact List.forall_mem_cons.mpr ⟨⟨expected,suits⟩,ih rest⟩

theorem RuleDefinition.numberIff {p : String} :
    RuleDefinition.isNumber p = true ↔ ∃ x, readDecimal? p.toList = some x ∧ x.isNan = false := by
  unfold RuleDefinition.isNumber
  cases readDecimal? p.toList <;> simp

theorem numberTaken {d : RuleDefinition} (type : d.paramType = .number) {p expected}
    (suits : d.suits p = .ok (true,expected)) : ∃ x, readDecimal? p.toList = some x ∧ x.isNan = false := by
  simp only [RuleDefinition.suits,type,Except.ok.injEq,Prod.mk.injEq] at suits
  exact RuleDefinition.numberIff.mp suits.1

theorem boundsMapped {ps : List String} (taken : ∀ p ∈ ps, ∃ x, readDecimal? p.toList = some x ∧ x.isNan = false) :
    (ps.mapM fun p => leadingNumber (.text p)) = .ok (ps.map boundRead) := by
  induction ps with
  | nil => rfl
  | cons p ps ih =>
    simp only [List.forall_mem_cons] at taken
    obtain ⟨⟨x,read,number⟩,rest⟩ := taken
    simp [List.mapM_cons,(boundCompared read number).1,ih rest,bind,Except.bind,pure,Except.pure]

/-- The two readings of an accepted bound: what the check of a number compares with is no number exactly for the names
of infinity, and the accepted number exactly when that is read before the first underscore too. -/
theorem acceptedBounds {c : Catalog} (remembers : c.Remembers) {rules pipeline}
    (read : (c.parse rules).1 = .ok pipeline) : ∀ descriptor ∈ pipeline.descriptors,
    ∃ token d, c.find token.name = .ok d ∧ d.describe pipeline.custom token = .ok descriptor ∧
      (d.paramType = .number → d.name ≠ customRule →
        (∀ v, descriptor.checkNumber v = liftFault do
          let x ← leadingNumber v
          withinBounds descriptor.condition (.number x) (descriptor.params.map fun p => .number (boundRead p))) ∧
        ∀ p ∈ descriptor.params, ∃ x, readDecimal? p.toList = some x ∧ x.isNan = false ∧
          leadingNumber (.text p) = .ok (boundRead p) ∧
          (boundRead p = .nan ↔ namesInfinity p.toList = true) ∧
          (boundRead p = x ↔ namesInfinity p.toList = false ∧ readDecimal? (beforeUnderscore p.toList) = some x) ∧
          ('_' ∉ p.toList → namesInfinity p.toList = false → boundRead p = x)) := by
  intro descriptor inside
  obtain ⟨token,d,found,described⟩ := parsedEach remembers read descriptor inside
  refine ⟨token,d,found,described,fun type plain => ?_⟩
  have suits := paramsSuit (paramsChecked described plain).1
  have taken : ∀ p ∈ descriptor.params, ∃ x, readDecimal? p.toList = some x ∧ x.isNan = false := fun p member => by
    obtain ⟨expected,fine⟩ := suits p member
    exact numberTaken type fine
  constructor
  · intro v
    unfold Descriptor.checkNumber
    rw [boundsMapped taken]
    simp [bind,Except.bind,Function.comp_def]
  · intro p member
    obtain ⟨x,accepted,number⟩ := taken p member
    obtain ⟨compared,unnamed⟩ := boundCompared accepted number
    refine ⟨x,accepted,number,compared,?_⟩
    cases named : namesInfinity p.toList with
    | true =>
      have none : boundRead p = .nan := by simp [boundRead,named]
      simp [none,Ne.symm (valued number)]
    | false =>
      obtain ⟨cut,some⟩ := unnamed named
      rw [cut]
      refine ⟨by simp [valued some],by simp,fun free _ => ?_⟩
      rw [wholeBefore free,accepted] at cut
      exact (Option.some.inj cut).symm

def atMost (param : String) : Descriptor := ⟨"at_most",.numberBounds,"TOO_MUCH",none,"",[param],.single "<=",none⟩

theorem atMostFound {name d} (found : smallCatalog.find name = .ok d) (named : d.name = "at_most") :
    d.paramType = .number := by
  obtain ⟨rules,key,entry,⟨⟩,same,defined⟩ := findEntry found
  by_cases atMost : key = "at_most"
  · subst atMost
    cases Option.some.inj same
    cases defined
    rfl
  · have atLeast : key = "at_least" := by
      by_contra other
      simp [Table.get?,List.lookup_cons,beq_eq_false_iff_ne.mpr atMost,beq_eq_false_iff_ne.mpr other] at same
    subst atLeast
    cases Option.some.inj same
    cases defined
    contradiction

theorem foreignBound : smallCatalog.Remembers ∧
    (smallCatalog.parse "at_most:٣e2 ").1 = .ok ⟨"at_most:٣e2 ",[atMost "٣e2 "],false,none⟩ ∧
    leadingNumber (.text "٣e2 ") = .ok (.ofDecimal false 3 2) := by
  have remembers : smallCatalog.Remembers := smallChecked.remembers
  have read : (smallCatalog.parse "at_most:٣e2 ").1 = .ok ⟨"at_most:٣e2 ",[atMost "٣e2 "],false,none⟩ :=
    answered (by decide +kernel)
  refine ⟨remembers,read,?_⟩
  obtain ⟨token,d,found,described,bounds⟩ := acceptedBounds remembers read (atMost "٣e2 ") (by simp)
  have name : d.name = "at_most" := (describedRule described).1.symm
  obtain ⟨x,accepted,_,compared,_,_,same⟩ := (bounds (atMostFound found name) (by rw [name]; decide)).2 "٣e2 " (by simp [atMost])
  have value : readDecimal? "٣e2 ".toList = some (.ofDecimal false 3 2) := by decide +kernel
  rw [compared,same (by decide) (by decide +kernel)]
  exact congrArg Except.ok (Option.some.inj (accepted.symm.trans value))

theorem boundCutShort : (smallCatalog.parse "at_most:1_000").1 = .ok ⟨"at_most:1_000",[atMost "1_000"],false,none⟩ ∧
    (∃ d, smallCatalog.find "at_most" = .ok d ∧ d.paramType = .number) ∧
    readDecimal? "1_000".toList = some (.ofDecimal false 1000 0) ∧
    leadingNumber (.text "1_000") = .ok (.ofDecimal false 1 0) ∧
    Binary64.ofDecimal false 1 0 ≠ Binary64.ofDecimal false 1000 0 ∧
    (atMost "1_000").checkNumber (.text "5") = .ok false := by
  have found : (smallCatalog.find "at_most").toOption.map (·.paramType) = some .number := by decide +kernel
  obtain ⟨d,found,type⟩ := Option.map_eq_some_iff.mp found
  exact ⟨answered (by decide +kernel),⟨d,answered found,type⟩,by decide +kernel,by decide +kernel,by decide +kernel,
    answered (by decide +kernel)⟩

end FormGuard
