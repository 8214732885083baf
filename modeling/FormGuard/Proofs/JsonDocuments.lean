import FormGuard.Proofs.JsonTexts

/-! The reader against the grammar. What it gives is what the text spells; and what a text spells is given, or refused for the
level or the integer that goes beyond its limit. -/
namespace FormGuard.Json

/-! ## Blanks and first characters -/

theorem skipped {b rest : List Char} {c} (blank : Blank b) (shown : isBlank c = false) : skip (b ++ c :: rest) = c :: rest := by
  unfold skip
  rw [List.dropWhile_append_of_pos blank]
  simp [shown]

theorem skipCut (cs : List Char) : ∃ b, Blank b ∧ cs = b ++ skip cs :=
  ⟨cs.takeWhile isBlank,fun _ inside => List.mem_takeWhile_imp inside,(List.takeWhile_append_dropWhile ..).symm⟩

theorem blankStops {b rest : List Char} (blank : Blank b) (ends : Stops rest) : Stops (b ++ rest) := by
  cases b with
  | nil => exact ends
  | cons d b =>
    have shown := blank d (.head _)
    simp only [isBlank,Bool.or_eq_true,beq_iff_eq] at shown
    rintro _ ⟨⟩
    obtain ((rfl | rfl) | rfl) | rfl := shown <;> decide

def Opens (cs : List Char) : Prop := ∃ c tail, cs = c :: tail ∧ isBlank c = false ∧ c ≠ ']' ∧ c ≠ '\x7d'

theorem numberHead {negative cs v n} (number : Number negative cs v n) :
    ∃ c tail, cs = c :: tail ∧ Numeral.isDigit c = true := by
  have opened {ds : List Char} (whole : Whole ds) : ∃ c tail, ds = c :: tail ∧ Numeral.isDigit c = true := by
    cases ds with
    | nil => exact absurd rfl whole.filled
    | cons c ds => exact ⟨c,ds,rfl,whole.each c (.head _)⟩
  cases number with
  | integer whole => exact opened whole
  | decimal whole =>
    obtain ⟨c,tail,rfl,digit⟩ := opened whole
    exact ⟨c,_,rfl,digit⟩

theorem digitOther {c d : Char} (digit : Numeral.isDigit c = true) (other : Numeral.isDigit d = false) : c ≠ d := by
  rintro rfl
  rw [digit] at other
  contradiction

theorem digitShown {c : Char} (digit : Numeral.isDigit c = true) : isBlank c = false := by
  have other {d} := @digitOther c d digit
  simp [isBlank,other (show Numeral.isDigit ' ' = false by decide),other (show Numeral.isDigit '\t' = false by decide),
    other (show Numeral.isDigit '\n' = false by decide),other (show Numeral.isDigit '\r' = false by decide)]

def initials : List Char := ['n','t','f','N','I','-']

theorem wordHead {cs v} (known : (cs,v) ∈ words) : ∃ c tail, cs = c :: tail ∧ c ∈ initials := by
  simp only [words,List.mem_cons,Prod.mk.injEq,List.not_mem_nil,or_false] at known
  rcases known with ⟨rfl,_⟩ | ⟨rfl,_⟩ | ⟨rfl,_⟩ | ⟨rfl,_⟩ | ⟨rfl,_⟩ | ⟨rfl,_⟩ <;> exact ⟨_,_,rfl,by decide⟩

theorem wordless {c : Char} (other : c ∉ initials) (cs : List Char) : readWord? (c :: cs) = none := by
  refine List.findSome?_eq_none_iff.mpr fun (word,v) member => ?_
  obtain ⟨d,tail,rfl,initial⟩ := wordHead member
  have differs : d ≠ c := by
    rintro rfl
    exact other initial
  simp [List.isPrefixOf,differs]

theorem positiveRead {c : Char} (digit : Numeral.isDigit c = true) (cs : List Char) :
    readScalar (c :: cs) = readUnsigned false (c :: cs) := by
  have other : c ∉ initials := by
    intro initial
    have digits : ∀ d ∈ initials, Numeral.isDigit d = false := by simp [initials,Numeral.isDigit,Text.isAsciiDigit]
    exact digitOther digit (digits c initial) rfl
  unfold readScalar
  rw [wordless other]
  dsimp only
  split
  · rename_i same
    cases same
    contradiction
  · rename_i same
    cases same
    contradiction
  · rfl

theorem negativeRead {c : Char} (digit : Numeral.isDigit c = true) (cs : List Char) :
    readScalar ('-' :: c :: cs) = readUnsigned true (c :: cs) := by
  have infinity : 'I' ≠ c := (digitOther digit (by decide)).symm
  have none : readWord? ('-' :: c :: cs) = none := by
    unfold readWord? words
    simp [infinity]
  unfold readScalar
  rw [none]
  rfl

/-! ## Values -/

theorem spelledOpens {p cs k n} (spells : Spells p cs k n) : Opens cs := by
  have more {cs} (rest : List Char) : Opens cs → Opens (cs ++ rest) := fun ⟨c,tail,same,shown⟩ =>
    ⟨c,tail ++ rest,congrArg (· ++ rest) same,shown⟩
  induction spells with
  | word known =>
    obtain ⟨c,tail,same,initial⟩ := wordHead known
    have shown : ∀ d ∈ initials, isBlank d = false ∧ d ≠ ']' ∧ d ≠ '\x7d' := by simp [initials,isBlank]
    exact ⟨c,tail,same,shown c initial⟩
  | positive number =>
    obtain ⟨c,tail,same,digit⟩ := numberHead number
    exact ⟨c,tail,same,digitShown digit,digitOther digit (by decide),digitOther digit (by decide)⟩
  | lastItem _ _ ih => exact more _ ih
  | nextItem _ _ _ _ ih => exact more _ ih
  | _ => exact ⟨_,_,rfl,by decide⟩

theorem openedSkip {b cs : List Char} (blank : Blank b) (opens : Opens cs) (rest : List Char) :
    skip (b ++ (cs ++ rest)) = cs ++ rest := by
  obtain ⟨c,tail,rfl,shown,_⟩ := opens
  exact skipped blank shown

theorem listRead {m levels : Nat} {b cs : List Char} (blank : Blank b) (opens : Opens cs) (rest : List Char) :
    readValue (m + 1) (levels + 1) ('[' :: (b ++ (cs ++ rest))) =
      (readItems m levels (cs ++ rest)).map fun read => (.list read.1,read.2) := by
  have skips := openedSkip blank opens rest
  obtain ⟨c,tail,rfl,_,other,_⟩ := opens
  simp only [readValue]
  rw [skips]
  split
  · rename_i same
    exact absurd (List.cons.inj same).1 other
  · rfl

theorem objectRead {m levels : Nat} {b cs : List Char} (blank : Blank b) (opens : Opens cs) (rest : List Char) :
    readValue (m + 1) (levels + 1) ('\x7b' :: (b ++ (cs ++ rest))) =
      (readFields m levels [] (cs ++ rest)).map fun read => (.object read.1,read.2) := by
  have skips := openedSkip blank opens rest
  obtain ⟨c,tail,rfl,_,_,other⟩ := opens
  simp only [readValue]
  rw [skips]
  split
  · rename_i same
    exact absurd (List.cons.inj same).1 other
  · rfl

/-- The reader is as complete as its limits allow: fuel never ends before the text does. -/
def Reads : Piece → List Char → Nat → Nat → Prop
  | .value v,cs,k,n => ∀ {fuel rest} levels, Stops rest → 2 * cs.length < fuel →
      Answers v rest levels k n (readValue fuel levels (cs ++ rest))
  | .items vs,cs,k,n => ∀ {fuel} levels rest, 2 * cs.length ≤ fuel →
      Answers vs rest levels k n (readItems fuel levels (cs ++ rest))
  | .fields es,cs,k,n => ∀ {fuel} levels before rest, 2 * cs.length ≤ fuel →
      Answers (Table.overlay before es) rest levels k n (readFields fuel levels before (cs ++ rest))

def entryOf (m levels : Nat) (before : Value.Fields) (name : String) :
    Except Defect (Value × List Char) → Except Defect (Value.Fields × List Char)
  | .error d => .error d
  | .ok (v,rest) =>
    match skip rest with
    | '\x7d' :: rest => .ok (before.put name v,rest)
    | ',' :: rest => readFields m levels (before.put name v) (skip rest)
    | _ => .error .malformed

theorem fieldRead {m levels : Nat} {ns b b' cs : List Char} {name before} (quoted : Quoted ns name) (blank : Blank b)
    (blank' : Blank b') (opens : Opens cs) (rest : List Char) :
    readFields (m + 1) levels before ('"' :: (ns ++ (b ++ ':' :: (b' ++ (cs ++ rest))))) =
      entryOf m levels before name (readValue m levels (cs ++ rest)) := by
  unfold readFields
  simp only [quotedRead quoted]
  rw [skipped blank (by decide)]
  simp only [openedSkip blank' opens]
  rfl

theorem closedStops {c : Char} (sign : c = ',' ∨ c = ']' ∨ c = '\x7d') (rest : List Char) : Stops (c :: rest) := by
  rintro _ ⟨⟩
  obtain rfl | rfl | rfl := sign <;> decide

theorem fuelled {n fuel : Nat} (enough : n < fuel) : ∃ m, fuel = m + 1 :=
  Nat.exists_eq_add_one_of_ne_zero (Nat.ne_zero_of_lt enough)

theorem scalarReads {c cs v n} (list : c ≠ '[') (object : c ≠ '\x7b')
    (answers : ∀ {rest} levels, Stops rest → Answers v rest levels 0 n (readScalar (c :: (cs ++ rest)))) :
    Reads (.value v) (c :: cs) 0 n := by
  intro fuel rest levels stops enough
  have read : readValue fuel levels (c :: (cs ++ rest)) = readScalar (c :: (cs ++ rest)) := by
    unfold readValue
    split <;> simp_all
  rw [List.cons_append,read]
  exact answers levels stops

theorem wordReads {cs v} (known : (cs,v) ∈ words) : Reads (.value v) cs 0 0 := by
  obtain ⟨c,tail,rfl,initial⟩ := wordHead known
  have plain : ∀ d ∈ initials, d ≠ '[' ∧ d ≠ '\x7b' := by simp [initials]
  apply scalarReads (plain c initial).1 (plain c initial).2
  intro rest levels _
  have read := wordRead known rest
  rw [List.cons_append] at read
  unfold readScalar
  rw [read]
  exact .given (Nat.zero_le _) (Nat.zero_le _)

theorem textReads {cs s} (quoted : Quoted cs s) : Reads (.value (.text s)) ('"' :: cs) 0 0 := by
  apply scalarReads (by decide) (by decide)
  intro rest levels _
  unfold readScalar
  rw [wordless (by decide)]
  simp only [quotedRead quoted]
  exact .given (Nat.zero_le _) (Nat.zero_le _)

theorem positiveReads {cs v n} (number : Number false cs v n) : Reads (.value v) cs 0 n := by
  obtain ⟨c,tail,rfl,digit⟩ := numberHead number
  apply scalarReads (digitOther digit (by decide)) (digitOther digit (by decide))
  intro rest levels stops
  rw [positiveRead digit]
  exact numberRead number stops levels

theorem negativeReads {cs v n} (number : Number true cs v n) : Reads (.value v) ('-' :: cs) 0 n := by
  obtain ⟨c,tail,rfl,digit⟩ := numberHead number
  apply scalarReads (by decide) (by decide)
  intro rest levels stops
  rw [List.cons_append,negativeRead digit]
  exact numberRead number stops levels

theorem emptyListReads {b} (blank : Blank b) : Reads (.value (.list [])) ('[' :: (b ++ [']'])) 1 0 := by
  intro fuel rest levels _ enough
  obtain ⟨m,rfl⟩ := fuelled enough
  cases levels with
  | zero => exact .deep Nat.one_pos
  | succ levels =>
    simp only [List.cons_append,List.append_assoc,List.nil_append,readValue,
      skipped blank (show isBlank ']' = false by decide)]
    exact .given (Nat.succ_pos _) (Nat.zero_le _)

theorem emptyObjectReads {b} (blank : Blank b) : Reads (.value (.object [])) ('\x7b' :: (b ++ ['\x7d'])) 1 0 := by
  intro fuel rest levels _ enough
  obtain ⟨m,rfl⟩ := fuelled enough
  cases levels with
  | zero => exact .deep Nat.one_pos
  | succ levels =>
    simp only [List.cons_append,List.append_assoc,List.nil_append,readValue,
      skipped blank (show isBlank '\x7d' = false by decide)]
    exact .given (Nat.succ_pos _) (Nat.zero_le _)

theorem listReads {b cs vs k n} (blank : Blank b) (opens : Opens cs) (items : Reads (.items vs) cs k n) :
    Reads (.value (.list vs)) ('[' :: (b ++ cs)) (k + 1) n := by
  intro fuel rest levels _ enough
  obtain ⟨m,rfl⟩ := fuelled enough
  cases levels with
  | zero => exact .deep (Nat.succ_pos _)
  | succ levels =>
    rw [List.cons_append,List.append_assoc,listRead blank opens]
    simp only [List.length_cons,List.length_append] at enough
    exact ((items levels rest (by omega)).map Value.list).deeper

theorem objectReads {b cs es k n} (blank : Blank b) (opens : Opens cs) (fields : Reads (.fields es) cs k n) :
    Reads (.value (.object (Table.overlay [] es))) ('\x7b' :: (b ++ cs)) (k + 1) n := by
  intro fuel rest levels _ enough
  obtain ⟨m,rfl⟩ := fuelled enough
  cases levels with
  | zero => exact .deep (Nat.succ_pos _)
  | succ levels =>
    rw [List.cons_append,List.append_assoc,objectRead blank opens]
    simp only [List.length_cons,List.length_append] at enough
    exact ((fields levels [] rest (by omega)).map Value.object).deeper

theorem lastItemReads {v cs b k n} (item : Reads (.value v) cs k n) (blank : Blank b) :
    Reads (.items [v]) (cs ++ (b ++ [']'])) k n := by
  intro fuel levels rest enough
  simp only [List.length_cons,List.length_append,List.length_nil] at enough
  obtain ⟨m,rfl⟩ := fuelled (show 0 < fuel by omega)
  have first := item levels (blankStops blank (closedStops (.inr (.inl rfl)) rest)) (show _ < m by omega)
  rw [List.append_assoc,List.append_assoc,List.cons_append,List.nil_append]
  unfold readItems
  obtain ⟨shallow,short,read⟩ | ⟨d,read,stopped⟩ := first.goesOn
  case inr =>
    rw [read]
    exact stopped _ _ _ _ (Nat.le_refl _) (Nat.le_refl _)
  rw [read]
  dsimp only
  rw [skipped blank (by decide)]
  exact .given shallow short

theorem nextItemReads {v vs cs b b' more k n k' n'} (item : Reads (.value v) cs k n) (blank : Blank b) (blank' : Blank b')
    (opens : Opens more) (items : Reads (.items vs) more k' n') :
    Reads (.items (v :: vs)) (cs ++ (b ++ ',' :: (b' ++ more))) (max k k') (max n n') := by
  intro fuel levels rest enough
  simp only [List.length_cons,List.length_append] at enough
  obtain ⟨m,rfl⟩ := fuelled (show 0 < fuel by omega)
  have first := item levels (blankStops blank (closedStops (.inl rfl) (b' ++ (more ++ rest)))) (show _ < m by omega)
  have second := items levels rest (show _ ≤ m by omega)
  simp only [List.append_assoc,List.cons_append]
  unfold readItems
  obtain ⟨shallow,short,read⟩ | ⟨d,read,stopped⟩ := first.goesOn
  case inr =>
    rw [read]
    exact stopped _ _ _ _ (Nat.le_max_left ..) (Nat.le_max_left ..)
  rw [read]
  simp only [skipped blank (show isBlank ',' = false by decide),openedSkip blank' opens]
  exact (second.map _).joined shallow short

theorem lastFieldReads {name v b b' ns cs b'' k n} (quoted : Quoted ns name) (blank : Blank b) (blank' : Blank b')
    (opens : Opens cs) (value : Reads (.value v) cs k n) (last : Blank b'') :
    Reads (.fields [(name,v)]) ('"' :: (ns ++ (b ++ ':' :: (b' ++ (cs ++ (b'' ++ ['\x7d'])))))) k n := by
  intro fuel levels before rest enough
  simp only [List.length_cons,List.length_append,List.length_nil] at enough
  obtain ⟨m,rfl⟩ := fuelled (show 0 < fuel by omega)
  have first := value levels (blankStops last (closedStops (.inr (.inr rfl)) rest)) (show _ < m by omega)
  simp only [List.append_assoc,List.cons_append,List.nil_append]
  rw [fieldRead quoted blank blank' opens]
  obtain ⟨shallow,short,read⟩ | ⟨d,read,stopped⟩ := first.goesOn
  case inr =>
    rw [read]
    exact stopped _ _ _ _ (Nat.le_refl _) (Nat.le_refl _)
  rw [read]
  simp only [entryOf,skipped last (show isBlank '\x7d' = false by decide)]
  exact .given shallow short

theorem nextFieldReads {name v es b b' b₁ b₂ ns cs more k n k' n'} (quoted : Quoted ns name) (blank : Blank b)
    (blank' : Blank b') (opens : Opens cs) (value : Reads (.value v) cs k n) (last : Blank b₁) (last' : Blank b₂)
    (opens' : Opens more) (fields : Reads (.fields es) more k' n') :
    Reads (.fields ((name,v) :: es))
      ('"' :: (ns ++ (b ++ ':' :: (b' ++ (cs ++ (b₁ ++ ',' :: (b₂ ++ more))))))) (max k k') (max n n') := by
  intro fuel levels before rest enough
  simp only [List.length_cons,List.length_append] at enough
  obtain ⟨m,rfl⟩ := fuelled (show 0 < fuel by omega)
  have first := value levels (blankStops last (closedStops (.inl rfl) (b₂ ++ (more ++ rest)))) (show _ < m by omega)
  have second := fields levels (before.put name v) rest (show _ ≤ m by omega)
  simp only [List.append_assoc,List.cons_append]
  rw [fieldRead quoted blank blank' opens]
  obtain ⟨shallow,short,read⟩ | ⟨d,read,stopped⟩ := first.goesOn
  case inr =>
    rw [read]
    exact stopped _ _ _ _ (Nat.le_max_left ..) (Nat.le_max_left ..)
  rw [read]
  simp only [entryOf,skipped last (show isBlank ',' = false by decide),openedSkip last' opens']
  exact second.joined shallow short

theorem spelledReads {p cs k n} (spells : Spells p cs k n) : Reads p cs k n := by
  induction spells with
  | word known => exact wordReads known
  | text quoted => exact textReads quoted
  | positive number => exact positiveReads number
  | negative number => exact negativeReads number
  | emptyList blank => exact emptyListReads blank
  | emptyObject blank => exact emptyObjectReads blank
  | list blank items ih => exact listReads blank (spelledOpens items) ih
  | object blank fields ih => exact objectReads blank (spelledOpens fields) ih
  | lastItem _ blank ih => exact lastItemReads ih blank
  | nextItem _ before behind items ih ih' => exact nextItemReads ih before behind (spelledOpens items) ih'
  | lastField quoted before behind value blank ih =>
    exact lastFieldReads quoted before behind (spelledOpens value) ih blank
  | nextField quoted before behind value blank blank' fields ih ih' =>
    exact nextFieldReads quoted before behind (spelledOpens value) ih blank blank' (spelledOpens fields) ih'

theorem documentRead {line : String} {v k n} (document : Document line v k n) :
    Answers v [] levelLimit k n ((read line).map (·,[])) := by
  obtain ⟨b,cs,b',blank,spells,blank',same⟩ := document
  have stops : Stops b' := List.append_nil b' ▸ blankStops blank' nofun
  have enough : 2 * cs.length < 2 * line.toList.length + 1 := by
    rw [same]
    simp only [List.length_append]
    omega
  have answers := (spelledReads spells : Reads (.value v) cs k n) levelLimit stops enough
  have ended : (skip b').isEmpty = true := by
    unfold skip
    rw [List.dropWhile_eq_nil_iff.mpr blank']
    rfl
  unfold read
  dsimp only
  rw [show skip line.toList = cs ++ b' by rw [same,openedSkip blank (spelledOpens spells)]]
  obtain ⟨shallow,short,read⟩ | ⟨d,read,stopped⟩ := answers.goesOn
  · rw [read]
    simp only [ended]
    exact .given shallow short
  · rw [read]
    exact stopped _ _ _ _ (Nat.le_refl _) (Nat.le_refl _)

theorem documentGiven {line : String} {v k n} (document : Document line v k n) (shallow : k ≤ levelLimit)
    (short : n ≤ Numeral.digitLimit) : read line = .ok v := by
  have answers := documentRead document
  generalize read line = x at answers ⊢
  cases x with
  | ok v' =>
    cases answers
    rfl
  | error d =>
    cases answers with
    | deep deep => exact absurd shallow (Nat.not_le.mpr deep)
    | long long => exact absurd short (Nat.not_le.mpr long)

theorem documentRefused {line : String} {v k n} (document : Document line v k n)
    (beyond : levelLimit < k ∨ Numeral.digitLimit < n) : read line = .error .tooDeep ∨ read line = .error .longNumeral := by
  have answers := documentRead document
  generalize read line = x at answers ⊢
  cases x with
  | ok v' =>
    cases answers
    omega
  | error d =>
    cases answers with
    | deep => exact .inl rfl
    | long => exact .inr rfl

def Begins (p : Piece) (levels : Nat) (cs rest : List Char) : Prop :=
  ∃ text k n, cs = text ++ rest ∧ Spells p text k n ∧ k ≤ levels ∧ n ≤ Numeral.digitLimit

structure Readable (fuel : Nat) : Prop where
  value {levels cs v rest} : readValue fuel levels cs = .ok (v,rest) → Begins (.value v) levels cs rest
  items {levels cs vs rest} : readItems fuel levels cs = .ok (vs,rest) → Begins (.items vs) levels cs rest
  fields {levels before cs fields rest} : readFields fuel levels before cs = .ok (fields,rest) →
    ∃ es, fields = Table.overlay before es ∧ Begins (.fields es) levels cs rest

theorem readScalars {cs v rest} (read : readScalar cs = .ok (v,rest)) (levels : Nat) : Begins (.value v) levels cs rest := by
  unfold readScalar at read
  split at read
  · rename_i found word
    cases read
    obtain ⟨text,rfl,known⟩ := readWord word
    exact ⟨text,0,0,rfl,.word known,Nat.zero_le _,Nat.zero_le _⟩
  · split at read
    · split at read
      · rename_i found
        cases read
        obtain ⟨text,rfl,quoted⟩ := readQuoted found
        exact ⟨_,0,0,rfl,.text quoted,Nat.zero_le _,Nat.zero_le _⟩
      · contradiction
    · obtain ⟨text,n,rfl,number,short⟩ := readNumber read
      exact ⟨_,0,n,rfl,.negative number,Nat.zero_le _,short⟩
    · obtain ⟨text,n,rfl,number,short⟩ := readNumber read
      exact ⟨_,0,n,rfl,.positive number,Nat.zero_le _,short⟩

section Steps
variable {fuel levels : Nat} (ih : Readable fuel) {cs rest : List Char}
include ih

theorem readableValue {v} (read : readValue (fuel + 1) levels cs = .ok (v,rest)) : Begins (.value v) levels cs rest := by
  have inner {m : Nat} (same : fuel + 1 = m.succ) : Readable m := Nat.succ.inj same ▸ ih
  unfold readValue at read
  split at read
  · contradiction
  · contradiction
  · contradiction
  · rename_i levels behind _
    obtain ⟨b,blank,cut⟩ := skipCut behind
    split at read
    · rename_i tail close
      cases read
      refine ⟨_,1,0,?_,.emptyList blank,Nat.succ_pos _,Nat.zero_le _⟩
      rw [cut,close]
      simp
    · obtain ⟨⟨vs,rest'⟩,items,same⟩ := mapOk read
      cases same
      obtain ⟨text,k,n,more,spells,shallow,short⟩ := (inner ‹_›).items items
      refine ⟨_,_,_,?_,.list blank spells,Nat.succ_le_succ shallow,short⟩
      rw [cut,more]
      simp
  · rename_i levels behind _
    obtain ⟨b,blank,cut⟩ := skipCut behind
    split at read
    · rename_i tail close
      cases read
      refine ⟨_,1,0,?_,.emptyObject blank,Nat.succ_pos _,Nat.zero_le _⟩
      rw [cut,close]
      simp
    · obtain ⟨⟨fields,rest'⟩,entries,same⟩ := mapOk read
      cases same
      obtain ⟨es,rfl,text,k,n,more,spells,shallow,short⟩ := (inner ‹_›).fields entries
      refine ⟨_,_,_,?_,.object blank spells,Nat.succ_le_succ shallow,short⟩
      rw [cut,more]
      simp
  · exact readScalars read _

theorem readableItems {vs} (read : readItems (fuel + 1) levels cs = .ok (vs,rest)) : Begins (.items vs) levels cs rest := by
  unfold readItems at read
  split at read
  · contradiction
  · rename_i v behind first
    obtain ⟨text,k,n,rfl,spells,shallow,short⟩ := ih.value first
    obtain ⟨b,blank,cut⟩ := skipCut behind
    split at read
    · rename_i close
      cases read
      refine ⟨_,k,n,?_,.lastItem spells blank,shallow,short⟩
      rw [cut,close]
      simp
    · rename_i tail comma
      obtain ⟨⟨vs,rest'⟩,items,same⟩ := mapOk read
      cases same
      obtain ⟨text',k',n',more,spells',shallow',short'⟩ := ih.items items
      obtain ⟨b',blank',cut'⟩ := skipCut tail
      refine ⟨_,_,_,?_,.nextItem spells blank blank' spells',Nat.max_le.mpr ⟨shallow,shallow'⟩,
        Nat.max_le.mpr ⟨short,short'⟩⟩
      rw [cut,comma,cut',more]
      simp
    · contradiction

theorem readableFields {before fields} (read : readFields (fuel + 1) levels before cs = .ok (fields,rest)) :
    ∃ es, fields = Table.overlay before es ∧ Begins (.fields es) levels cs rest := by
  have inner {m : Nat} (same : fuel + 1 = m.succ) : Readable m := Nat.succ.inj same ▸ ih
  unfold readFields at read
  split at read
  case h_2 =>
    split at read
    · contradiction
    · rename_i name behind found
      obtain ⟨text,rfl,quoted⟩ := readQuoted found
      obtain ⟨b,blank,cut⟩ := skipCut behind
      split at read
      · rename_i tail colon
        obtain ⟨b',blank',cut'⟩ := skipCut tail
        split at read
        · contradiction
        · rename_i v behind' value
          obtain ⟨cs,k,n,spelled,spells,shallow,short⟩ := (inner ‹_›).value value
          obtain ⟨b₁,blank₁,cut₁⟩ := skipCut behind'
          split at read
          · rename_i brace
            cases read
            refine ⟨[(name,v)],rfl,_,k,n,?_,.lastField quoted blank blank' spells blank₁,shallow,short⟩
            rw [cut,colon,cut',spelled,cut₁,brace]
            simp
          · rename_i tail' comma
            obtain ⟨es,rfl,more,k',n',same,spells',shallow',short'⟩ := (inner ‹_›).fields read
            obtain ⟨b₂,blank₂,cut₂⟩ := skipCut tail'
            refine ⟨(name,v) :: es,rfl,_,_,_,?_,.nextField quoted blank blank' spells blank₁ blank₂ spells',
              Nat.max_le.mpr ⟨shallow,shallow'⟩,Nat.max_le.mpr ⟨short,short'⟩⟩
            rw [cut,colon,cut',spelled,cut₁,comma,cut₂,same]
            simp
          · contradiction
      · contradiction
  all_goals contradiction

end Steps

theorem readable (fuel : Nat) : Readable fuel := by
  induction fuel with
  | zero => exact ⟨nofun,nofun,nofun⟩
  | succ fuel ih => exact ⟨readableValue ih,readableItems ih,readableFields ih⟩

theorem readDocument {line : String} {v} (ok : read line = .ok v) :
    ∃ k n, Document line v k n ∧ k ≤ levelLimit ∧ n ≤ Numeral.digitLimit := by
  unfold read at ok
  dsimp only at ok
  split at ok
  · contradiction
  · rename_i v behind value
    split at ok
    · rename_i ended
      cases ok
      obtain ⟨cs,k,n,same,spells,shallow,short⟩ := (readable _).value value
      obtain ⟨b,blank,cut⟩ := skipCut line.toList
      refine ⟨k,n,⟨b,cs,behind,blank,spells,?_,by rw [cut,same]⟩,shallow,short⟩
      exact List.dropWhile_eq_nil_iff.mp (List.isEmpty_iff.mp ended)
    · contradiction

end FormGuard.Json
