import FormGuard.Proofs.WrittenDates
import Mathlib.Data.List.Infix

/-! Cutting and searching joined texts. A search finds a mark exactly where it occurs; a mark without the separator in it
never lies across a joint, and a mark whose first character does not come again in it never overlaps itself. -/
namespace FormGuard.Text

theorem dropLeadNone {lead text : List Char} : dropLead? lead text = none ↔ ¬ lead <+: text := by
  rw [← not_iff_not,not_not,← ne_eq,Option.ne_none_iff_exists']
  exact exists_congr fun rest => dropLeadIff.trans eq_comm

theorem startsIff {lead text : List Char} : startsWith lead text = true ↔ lead <+: text := by
  unfold startsWith
  rw [Option.isSome_iff_ne_none,ne_eq,dropLeadNone,not_not]

theorem breakNone {mark text : List Char} : breakOn? mark text = none ↔ ¬ mark <:+: text := by
  induction text with
  | nil => simp [breakOn?,dropLeadNone]
  | cons c cs ih =>
    rw [List.infix_cons_iff,not_or,breakOn?]
    cases lead : dropLead? mark (c::cs) with
    | none => simp [dropLeadNone.mp lead,ih]
    | some rest =>
      have starts : mark <+: c::cs := ⟨rest,(dropLeadIff.mp lead).symm⟩
      simp [starts]

theorem occursIff {mark text : List Char} : occurs mark text = true ↔ mark <:+: text := by
  unfold occurs
  rw [Option.isSome_iff_ne_none,ne_eq,breakNone,not_not]

theorem replaceNone {mark fresh text : List Char} (absent : ¬ mark <:+: text) : replaceAll mark fresh text = text := by
  unfold replaceAll
  induction text with
  | nil => rfl
  | cons c cs ih =>
    rw [List.infix_cons_iff,not_or,← startsIff] at absent
    simp [replaceFrom,absent.1,ih absent.2]

/-! ## Marks that do not overlap themselves -/

def Distinct (mark : List Char) : Prop := ∃ c cs, mark = c::cs ∧ c ∉ cs

theorem Distinct.begins {mark before rest : List Char} (distinct : Distinct mark) (filled : before ≠ [])
    (begins : mark <+: before++(mark++rest)) : mark <+: before := by
  obtain ⟨c,cs,rfl,fresh⟩ := distinct
  obtain ⟨tail,whole⟩ := begins
  rcases List.append_eq_append_iff.mp whole with ⟨more,inside,_⟩ | ⟨extra,short,next⟩
  · exact ⟨more,inside.symm⟩
  · cases extra with
    | nil => exact ⟨[],by simpa using short⟩
    | cons d extra =>
      obtain rfl : c = d := (List.cons.inj next).1
      cases before with
      | nil => contradiction
      | cons d before =>
        have inside : c ∈ cs := by
          rw [(List.cons.inj short).2]
          simp
        exact absurd inside fresh

theorem Distinct.breaks {mark before rest : List Char} (distinct : Distinct mark) (free : ¬ mark <:+: before) :
    breakOn? mark (before++(mark++rest)) = some (before,rest) := by
  induction before with
  | nil =>
    have lead : dropLead? mark (mark++rest) = some rest := dropLeadIff.mpr rfl
    obtain ⟨c,cs,rfl,_⟩ := distinct
    rw [List.cons_append] at lead
    simp [breakOn?,lead]
  | cons c before ih =>
    have lead : dropLead? mark (c::before++(mark++rest)) = none :=
      dropLeadNone.mpr fun begins => free (distinct.begins (by simp) begins).isInfix
    rw [List.infix_cons_iff,not_or] at free
    rw [List.cons_append] at lead ⊢
    simp [breakOn?,lead,ih free.2]

theorem Distinct.breakIff {mark : List Char} (distinct : Distinct mark) {text before rest : List Char} :
    breakOn? mark text = some (before,rest) ↔ text = before++(mark++rest) ∧ ¬ mark <:+: before := by
  refine ⟨fun found => ⟨by simpa using breakOnAppend found,?_⟩,by rintro ⟨rfl,free⟩; exact distinct.breaks free⟩
  have whole := breakOnAppend found
  induction text generalizing before with
  | nil =>
    obtain ⟨c,cs,rfl,_⟩ := distinct
    simp at whole
  | cons c text ih =>
    rw [breakOn?] at found
    cases lead : dropLead? mark (c::text) with
    | some rest' =>
      rw [lead] at found
      cases found
      obtain ⟨c,cs,rfl,_⟩ := distinct
      simp
    | none =>
      simp only [lead,Option.map_eq_some_iff] at found
      obtain ⟨⟨before',rest'⟩,found,same⟩ := found
      cases same
      rw [List.infix_cons_iff,not_or]
      refine ⟨fun begins => dropLeadNone.mp lead ?_,ih found (breakOnAppend found)⟩
      rw [whole,List.append_assoc]
      exact begins.trans (List.prefix_append _ _)

/-! ## Joints -/

section Joint
variable {sep : Char} {mark : List Char} (free : sep ∉ mark)
include free

theorem prefixJoint {a b : List Char} (begins : mark <+: a++sep::b) : mark <+: a := by
  obtain ⟨tail,whole⟩ := begins
  rcases List.append_eq_append_iff.mp whole with ⟨more,inside,_⟩ | ⟨extra,short,next⟩
  · exact ⟨more,inside.symm⟩
  · cases extra with
    | nil => exact ⟨[],by simpa using short⟩
    | cons c extra =>
      obtain rfl : sep = c := (List.cons.inj next).1
      simp [short] at free

theorem infixJoint (filled : mark ≠ []) {a b : List Char} : mark <:+: a++sep::b ↔ mark <:+: a ∨ mark <:+: b := by
  induction a with
  | nil =>
    have never : ¬ mark <+: sep::b := fun begins => filled (List.prefix_nil.mp (prefixJoint (a := []) free begins))
    simp [List.infix_cons_iff,never,filled]
  | cons c a ih =>
    have front : mark <+: (c::a)++sep::b ↔ mark <+: c::a :=
      ⟨prefixJoint free,fun begins => begins.trans (List.prefix_append _ _)⟩
    rw [List.cons_append] at front ⊢
    rw [List.infix_cons_iff,List.infix_cons_iff,front,ih,or_assoc]

theorem infixJoin (filled : mark ≠ []) {ps : List (List Char)} : mark <:+: join [sep] ps ↔ ∃ p ∈ ps, mark <:+: p := by
  induction ps with
  | nil => simp [join,filled]
  | cons p ps ih =>
    cases ps with
    | nil => simp [join]
    | cons q qs =>
      rw [join,List.append_assoc,List.singleton_append,infixJoint free filled,ih]
      simp only [List.mem_cons,exists_eq_or_imp]

theorem joinLead (filled : mark ≠ []) {ps : List (List Char)} (none : ∀ p ∈ ps, ¬ mark <:+: p) :
    ∃ lead, ¬ mark <:+: lead ∧ ∀ x rest, join [sep] (ps++x::rest) = lead++join [sep] (x::rest) := by
  induction ps with
  | nil => exact ⟨[],by simp [filled],fun _ _ => rfl⟩
  | cons p ps ih =>
    obtain ⟨outside,others⟩ := List.forall_mem_cons.mp none
    obtain ⟨lead,free',joined⟩ := ih others
    refine ⟨p++sep::lead,by simp [infixJoint free filled,outside,free'],fun x rest => ?_⟩
    have next : ∃ q qs, ps++x::rest = q::qs := List.exists_cons_of_ne_nil (by simp)
    obtain ⟨q,qs,next⟩ := next
    rw [List.cons_append,next,join,← next,joined]
    simp

theorem joinTrail (filled : mark ≠ []) {qs : List (List Char)} (none : ∀ q ∈ qs, ¬ mark <:+: q) :
    ∃ trail, ¬ mark <:+: trail ∧ ∀ x, join [sep] (x::qs) = x++trail := by
  cases qs with
  | nil => exact ⟨[],by simp [filled],fun x => by simp [join]⟩
  | cons q qs =>
    have joined : ¬ mark <:+: join [sep] (q::qs) := by
      rw [infixJoin free filled]
      simpa using none
    refine ⟨sep::join [sep] (q::qs),?_,fun x => by simp [join]⟩
    have := infixJoint free filled (a := []) (b := join [sep] (q::qs))
    simpa [filled,joined] using this

end Joint

theorem splitJoint (sep : Char) (a b : List Char) : splitOn sep (a++sep::b) = splitOn sep a++splitOn sep b := by
  induction a with
  | nil => simp [splitOn]
  | cons c a ih =>
    rw [List.cons_append,splitOn,splitOn]
    split
    · rw [ih,List.cons_append]
    · rw [ih]
      cases split : splitOn sep a with
      | nil => exact absurd split (splitOnNonempty sep a)
      | cons p ps => rfl

theorem splitJoin {sep : Char} {ps : List (List Char)} (some : ps ≠ []) :
    splitOn sep (join [sep] ps) = ps.flatMap (splitOn sep) := by
  induction ps with
  | nil => contradiction
  | cons p ps ih =>
    cases ps with
    | nil => simp [join]
    | cons q qs => rw [join,List.append_assoc,List.singleton_append,splitJoint,ih (by simp)]; rfl

theorem splitPieces {sep : Char} {ps : List (List Char)} (filled : ps ≠ []) (free : ∀ p ∈ ps, sep ∉ p) :
    splitOn sep (join [sep] ps) = ps := by
  rw [splitJoin filled,List.flatMap_congr fun p inside => splitFree (free p inside)]
  simp

theorem joinAround (sep : Char) (ps qs : List (List Char)) (p m q : List Char) :
    join [sep] (ps++(p++m++q)::qs) = join [sep] (ps++[p])++m++join [sep] (q::qs) := by
  induction ps with
  | nil => cases qs <;> simp [join]
  | cons r ps ih => cases ps <;> simp_all [join]

theorem splitAround {sep : Char} {m : List Char} (free : sep ∉ m) {before behind : List Char} {ps qs p q}
    (front : splitOn sep before = ps++[p]) (back : splitOn sep behind = q::qs) :
    splitOn sep (before++m++behind) = ps++(p++m++q)::qs := by
  have whole : before++m++behind = join [sep] (ps++(p++m++q)::qs) := by
    rw [joinAround,← front,← back,joinSplitOn,joinSplitOn]
  have left : ∀ r ∈ ps++[p], sep ∉ r := fun r inside here => (splitChars (front ▸ inside) here).2 rfl
  have right : ∀ r ∈ q::qs, sep ∉ r := fun r inside here => (splitChars (back ▸ inside) here).2 rfl
  refine whole ▸ splitPieces (by simp) fun r inside here => ?_
  simp only [List.mem_append,List.mem_cons] at inside left right
  rcases inside with r' | rfl | r'
  · exact left r (.inl r') here
  · simp [left p,right q,free] at here
  · exact right r (.inr r') here

end FormGuard.Text
