import FormGuard.Message.English
import FormGuard.Message.Translator
import FormGuard.Proofs.SoundRules
import FormGuard.Proofs.TextMarks

/-! The parameters of a message. Each is put in the place of the first mark there is by then; that is the next mark of the
template, unless an earlier parameter and the text before it have made another. -/
namespace FormGuard
namespace Text

/-- The text with a piece in the place of each mark, in their order. Marks that are left over stay, and pieces that are left
over are not used. -/
def placed (mark : List Char) : (text : List Char) → (pieces : List (List Char)) → List Char
  | text,[] => text
  | text,p :: ps =>
    match breakOn? mark text with
    | some (before,rest) => before++(p++placed mark rest ps)
    | none => text

def insertedInTurn (mark text : List Char) (pieces : List (List Char)) : List Char :=
  pieces.foldl (fun text p => replaceFirst mark p text) text

/-- With some pieces in their places, and one more to come, a mark begins before the marks that are left. -/
def StrayBehind (mark front text : List Char) (pieces : List (List Char)) : Prop :=
  ∃ k, k < pieces.length ∧ occurrences mark text-k < occurrences mark (front++placed mark text (pieces.take k))

def Stray (mark text : List Char) (pieces : List (List Char)) : Prop := StrayBehind mark [] text pieces

instance (mark front text pieces) : Decidable (StrayBehind mark front text pieces) :=
  inferInstanceAs (Decidable (∃ k, k < pieces.length ∧
    occurrences mark text-k < occurrences mark (front++placed mark text (pieces.take k))))

instance (mark text pieces) : Decidable (Stray mark text pieces) := inferInstanceAs (Decidable (StrayBehind _ _ _ _))

theorem replaceFirstNone {mark fresh text : List Char} (absent : ¬ mark <:+: text) : replaceFirst mark fresh text = text := by
  simp [replaceFirst,breakNone.mpr absent]

theorem placedNone {mark text : List Char} (absent : ¬ mark <:+: text) (ps : List (List Char)) : placed mark text ps = text := by
  cases ps with
  | nil => rfl
  | cons p ps => simp [placed,breakNone.mpr absent]

namespace Distinct
variable {mark : List Char}

theorem replaceFirstOne (distinct : Distinct mark) {front : List Char} (free : ¬ mark <:+: front) (fresh rest : List Char) :
    replaceFirst mark fresh (front++(mark++rest)) = front++(fresh++rest) := by
  simp [replaceFirst,distinct.breaks free]

theorem placedOne (distinct : Distinct mark) {front : List Char} (free : ¬ mark <:+: front) (rest p : List Char)
    (ps : List (List Char)) : placed mark (front++(mark++rest)) (p::ps) = front++(p++placed mark rest ps) := by
  simp [placed,distinct.breaks free]

theorem firstCut (distinct : Distinct mark) (text : List Char) :
    ¬ mark <:+: text ∨ ∃ front rest, text = front++(mark++rest) ∧ ¬ mark <:+: front := by
  cases found : breakOn? mark text with
  | none => exact .inl (breakNone.mp found)
  | some parts => exact .inr ⟨_,_,distinct.breakIff.mp found⟩

theorem occurrencesFirst (distinct : Distinct mark) {front : List Char} (free : ¬ mark <:+: front) (rest : List Char) :
    occurrences mark (front++(mark++rest)) = occurrences mark rest+1 := by
  rw [distinct.occurrencesAround,(occurrencesNone distinct.filled).mpr free,Nat.zero_add]

theorem nextPlaced (distinct : Distinct mark) {front text : List Char} (own : occurrences mark (front++text) ≤ occurrences mark text)
    (p : List Char) : ∃ front' text', replaceFirst mark p (front++text) = front'++text' ∧
      occurrences mark text' = occurrences mark text-1 ∧ ∀ ps, front++placed mark text (p::ps) = front'++placed mark text' ps := by
  rcases distinct.firstCut text with absent | ⟨before,rest,rfl,free⟩
  · have none := (occurrencesNone distinct.filled).mpr absent
    have absent' : ¬ mark <:+: front++text := (occurrencesNone distinct.filled).mp (by omega)
    exact ⟨front,text,replaceFirstNone absent',by omega,fun ps => by rw [placedNone absent,placedNone absent]⟩
  · have free' : ¬ mark <:+: front++before := by
      rw [distinct.occurrencesFirst free,← List.append_assoc,distinct.occurrencesAround] at own
      exact (occurrencesNone distinct.filled).mp (by omega)
    have replaced := distinct.replaceFirstOne free' p rest
    rw [List.append_assoc] at replaced
    refine ⟨front++(before++p),rest,by simp [replaced],by rw [distinct.occurrencesFirst free,Nat.add_sub_cancel],fun ps => ?_⟩
    simp [distinct.placedOne free]

theorem insertedPlaced (distinct : Distinct mark) (ps : List (List Char)) {front text : List Char}
    (own : ¬ StrayBehind mark front text ps) : insertedInTurn mark (front++text) ps = front++placed mark text ps := by
  induction ps generalizing front text with
  | nil => rfl
  | cons p ps ih =>
    have first : occurrences mark (front++text) ≤ occurrences mark text := by
      by_contra more
      exact own ⟨0,by simp,Nat.not_le.mp more⟩
    obtain ⟨front',text',replaced,one,each⟩ := distinct.nextPlaced first p
    have rest : insertedInTurn mark (front'++text') ps = front'++placed mark text' ps := by
      refine ih fun ⟨k,inside,more⟩ => own ⟨k+1,Nat.succ_lt_succ inside,?_⟩
      rw [List.take_succ_cons,each]
      omega
    rw [each,← rest,← replaced]
    rfl

end Distinct

/-! ## Marks that stray -/

def Leaves (c : Char) (a b : List Char) : Prop := ∃ u x v w, a = u++x::v ∧ x ≠ c ∧ b = u++c::w

theorem leavesApart {c a b} (leaves : Leaves c a b) : a ≠ b := by
  rintro rfl
  obtain ⟨u,x,v,w,whole,other,whole'⟩ := leaves
  exact other (List.cons.inj (List.append_cancel_left (whole.symm.trans whole'))).1

theorem pieceLeaves {c : Char} {p : List Char} (some : p ≠ []) (free : c ∉ p) (front rest tail : List Char) :
    Leaves c (front++(p++rest)) (front++c::tail) := by
  obtain ⟨x,p,rfl⟩ := List.exists_cons_of_ne_nil some
  have other : x ≠ c := fun same => free (same ▸ List.mem_cons_self)
  exact ⟨front,x,p++rest,tail,rfl,other,rfl⟩

section Straying
variable {c : Char} {cs : List Char} (fresh : c ∉ cs)
include fresh

theorem leavesKept {a b p : List Char} (leaves : Leaves c a b) (some : p ≠ []) (free : c ∉ p) :
    Leaves c (replaceFirst (c::cs) p a) b := by
  have distinct : Distinct (c::cs) := ⟨c,cs,rfl,fresh⟩
  rcases distinct.firstCut a with absent | ⟨before,rest,whole,apart⟩
  · rwa [replaceFirstNone absent]
  · obtain ⟨u,x,v,w,same,other,rfl⟩ := leaves
    rw [whole,distinct.replaceFirstOne apart]
    rcases List.append_eq_append_iff.mp (whole.symm.trans same) with ⟨e,rfl,inside⟩ | ⟨e,rfl,inside⟩
    · cases e with
      | nil => exact absurd (List.cons.inj inside).1.symm other
      | cons d e =>
        obtain rfl : c = d := (List.cons.inj inside).1
        simpa using pieceLeaves some free before rest (e++c::w)
    · cases e with
      | nil => exact absurd (List.cons.inj inside).1 other
      | cons d e =>
        obtain rfl : x = d := (List.cons.inj inside).1
        exact ⟨u,x,e++(p++rest),w,by simp,other,rfl⟩

theorem leavesThrough (ps : List (List Char)) {a b : List Char} (leaves : Leaves c a b) (each : ∀ p ∈ ps, p ≠ [] ∧ c ∉ p) :
    Leaves c (insertedInTurn (c::cs) a ps) b := by
  induction ps generalizing a with
  | nil => exact leaves
  | cons p ps ih =>
    obtain ⟨⟨some,free⟩,others⟩ := List.forall_mem_cons.mp each
    exact ih (leavesKept fresh leaves some free) others

theorem strayLeaves {front text p : List Char} (more : occurrences (c::cs) text < occurrences (c::cs) (front++text))
    (some : p ≠ []) (free : c ∉ p) (tail : List Char) : Leaves c (replaceFirst (c::cs) p (front++text)) (front++tail) := by
  have distinct : Distinct (c::cs) := ⟨c,cs,rfl,fresh⟩
  rcases distinct.firstCut (front++text) with absent | ⟨before,rest,whole,apart⟩
  · have none := (occurrencesNone distinct.filled).mpr absent
    omega
  · have count : occurrences (c::cs) text < occurrences (c::cs) rest+1 := by rwa [whole,distinct.occurrencesFirst apart] at more
    rw [whole,distinct.replaceFirstOne apart]
    have later {e} (same : text = e++(c::cs++rest)) : False := by
      rw [same,distinct.occurrencesAround] at count
      omega
    rcases List.append_eq_append_iff.mp whole with ⟨e,_,same⟩ | ⟨e,rfl,inside⟩
    · exact (later same).elim
    · cases e with
      | nil => exact (later (e := []) inside.symm).elim
      | cons d e =>
        obtain rfl : c = d := (List.cons.inj inside).1
        simpa using pieceLeaves some free before rest (e++tail)

theorem straysLeave (ps : List (List Char)) {front text : List Char} (each : ∀ p ∈ ps, p ≠ [] ∧ c ∉ p)
    (stray : StrayBehind (c::cs) front text ps) :
    Leaves c (insertedInTurn (c::cs) (front++text) ps) (front++placed (c::cs) text ps) := by
  have distinct : Distinct (c::cs) := ⟨c,cs,rfl,fresh⟩
  induction ps generalizing front text with
  | nil =>
    obtain ⟨_,inside,_⟩ := stray
    cases inside
  | cons p ps ih =>
    obtain ⟨⟨some,free⟩,others⟩ := List.forall_mem_cons.mp each
    by_cases now : occurrences (c::cs) text < occurrences (c::cs) (front++text)
    · exact leavesThrough fresh ps (strayLeaves fresh now some free _) others
    · obtain ⟨front',text',replaced,one,step⟩ := distinct.nextPlaced (Nat.not_lt.mp now) p
      obtain ⟨k,inside,more⟩ := stray
      cases k with
      | zero => exact absurd more now
      | succ k =>
        rw [List.take_succ_cons,step] at more
        have rest : Leaves c (insertedInTurn (c::cs) (front'++text') ps) (front'++placed (c::cs) text' ps) :=
          ih others ⟨k,Nat.lt_of_succ_lt_succ inside,by omega⟩
        rw [← replaced,← step] at rest
        exact rest

theorem insertedIff {text : List Char} {ps : List (List Char)} (each : ∀ p ∈ ps, p ≠ [] ∧ c ∉ p) :
    insertedInTurn (c::cs) text ps = placed (c::cs) text ps ↔ ¬ Stray (c::cs) text ps :=
  ⟨fun same stray => leavesApart (straysLeave fresh ps each stray) same,Distinct.insertedPlaced ⟨c,cs,rfl,fresh⟩ ps⟩

end Straying

theorem singleStays {mark text : List Char} {ps : List (List Char)} (few : ps.length ≤ 1) : ¬ Stray mark text ps := by
  rintro ⟨k,inside,more⟩
  obtain rfl : k = 0 := by omega
  exact Nat.lt_irrefl _ more

/-! ## Templates in which no mark can stray -/

def Clear (mark template : List Char) : Prop := ∀ s ∈ mark.inits, s ≠ [] → s ≠ mark → ¬ s++mark <:+: template

instance (mark template) : Decidable (Clear mark template) :=
  inferInstanceAs (Decidable (∀ s ∈ mark.inits, s ≠ [] → s ≠ mark → ¬ s++mark <:+: template))

theorem occurrencesSealed {mark front : List Char} (apart : ¬ mark <:+: front) (tail : ∀ s, s ≠ [] → s <+: mark → ¬ s <:+ front)
    (text : List Char) : occurrences mark (front++text) = occurrences mark text := by
  induction front with
  | nil => rfl
  | cons x front ih =>
    have other : ¬ mark <+: x::(front++text) := by
      intro begins
      rcases List.prefix_or_prefix_of_prefix begins (List.prefix_append (x::front) text) with whole | part
      · exact apart whole.isInfix
      · exact tail _ (List.cons_ne_nil _ _) part List.suffix_rfl
    rw [List.cons_append,occurrencesNext other]
    exact ih (fun inside => apart (List.infix_cons inside)) fun s some part ends => tail s some part (ends.trans (List.suffix_cons _ _))

namespace Clear
variable {mark before rest : List Char}

theorem later (clear : Clear mark (before++(mark++rest))) : Clear mark rest := fun s part some whole inside =>
  clear s part some whole (inside.trans ((List.suffix_append _ _).trans (List.suffix_append _ _)).isInfix)

theorem ends (clear : Clear mark (before++(mark++rest))) (apart : ¬ mark <:+: before) :
    ∀ s, s ≠ [] → s <+: mark → ¬ s <:+ before := by
  rintro s some part ⟨lead,rfl⟩
  by_cases whole : s = mark
  · exact apart (whole ▸ (List.suffix_append lead s).isInfix)
  · exact clear s ((List.mem_inits _ _).mpr part) some whole ⟨lead,rest,by simp⟩

end Clear

theorem strayMade {c : Char} {s m : List Char} (fresh : c ∉ s++m) (rest : m ≠ []) (b front a : List Char) :
    ∃ n, StrayBehind (c::(s++m)) front (a++(c::s++(c::(s++m)++b))) (List.replicate n m) := by
  have distinct : Distinct (c::(s++m)) := ⟨c,_,rfl,fresh⟩
  induction a using distinct.cut generalizing front with
  | none a absent =>
    have short : ¬ c::(s++m) <:+: c::s := by
      intro inside
      have long := inside.length_le
      simp only [List.length_cons,List.length_append] at long
      exact rest (List.length_eq_zero_iff.mp (by omega))
    have free : ¬ c::(s++m) <:+: a++c::s := by
      refine (occurrencesNone distinct.filled).mp ?_
      rw [occurrencesJoint fresh,(occurrencesNone distinct.filled).mpr absent,(occurrencesNone distinct.filled).mpr short]
    have whole : a++(c::s++(c::(s++m)++b)) = (a++c::s)++(c::(s++m)++b) := by simp
    have made : front++((a++c::s)++(m++placed (c::(s++m)) b [])) = (front++a)++(c::(s++m)++b) := by simp [placed]
    have two : (List.replicate 2 m).length = 2 := List.length_replicate
    refine ⟨2,1,two ▸ Nat.one_lt_two,?_⟩
    rw [whole,distinct.occurrencesFirst free,List.replicate_succ,List.take_succ_cons,List.take_zero,distinct.placedOne free,made,
      distinct.occurrencesAround]
    omega
  | first before a absent ih =>
    obtain ⟨n,k,inside,more⟩ := ih (front++(before++m))
    have whole : before++(c::(s++m)++a)++(c::s++(c::(s++m)++b)) = before++(c::(s++m)++(a++(c::s++(c::(s++m)++b)))) := by simp
    refine ⟨n+1,k+1,by simpa using inside,?_⟩
    rw [whole,List.replicate_succ,List.take_succ_cons,distinct.placedOne absent,distinct.occurrencesFirst absent]
    simp only [List.append_assoc] at more ⊢
    omega

section Clearing
variable {c : Char} {cs : List Char} (fresh : c ∉ cs)
include fresh

theorem clearStays (ps : List (List Char)) {front text : List Char} (clear : Clear (c::cs) text)
    (shut : ∀ more, occurrences (c::cs) (front++more) = occurrences (c::cs) more) (free : ∀ p ∈ ps, c ∉ p) :
    ¬ StrayBehind (c::cs) front text ps := by
  have distinct : Distinct (c::cs) := ⟨c,cs,rfl,fresh⟩
  induction ps generalizing front text with
  | nil => exact fun ⟨_,inside,_⟩ => by cases inside
  | cons p ps ih =>
    obtain ⟨own,others⟩ := List.forall_mem_cons.mp free
    rintro ⟨k,inside,more⟩
    cases k with
    | zero =>
      rw [shut] at more
      exact Nat.lt_irrefl _ more
    | succ k =>
      rcases distinct.firstCut text with absent | ⟨before,rest,rfl,apart⟩
      · have none := (occurrencesNone distinct.filled).mpr absent
        rw [placedNone absent,shut] at more
        omega
      · have shut' (more) : occurrences (c::cs) (front++(before++p)++more) = occurrences (c::cs) more := by
          rw [List.append_assoc,shut,List.append_assoc,occurrencesSealed apart (clear.ends apart),occurrencesUnled own]
        rw [List.take_succ_cons,distinct.placedOne apart,distinct.occurrencesFirst apart,← List.append_assoc,← List.append_assoc,
          List.append_assoc front] at more
        exact ih clear.later shut' others ⟨k,Nat.lt_of_succ_lt_succ inside,by omega⟩

theorem clearIff {template : List Char} : Clear (c::cs) template ↔
    ∀ ps, (∀ p ∈ ps, p ≠ [] ∧ c ∉ p) → insertedInTurn (c::cs) template ps = placed (c::cs) template ps := by
  have distinct : Distinct (c::cs) := ⟨c,cs,rfl,fresh⟩
  constructor
  · intro clear ps each
    have none : ¬ StrayBehind (c::cs) [] template ps := clearStays fresh ps clear (fun _ => rfl) fun p inside => (each p inside).2
    exact distinct.insertedPlaced ps none
  · rintro every s part some other ⟨a,b,rfl⟩
    obtain ⟨m,mark⟩ := (List.mem_inits _ _).mp part
    obtain ⟨d,s,rfl⟩ := List.exists_cons_of_ne_nil some
    obtain ⟨rfl,rfl⟩ := List.cons.inj mark
    have rest : m ≠ [] := by
      rintro rfl
      simp at other
    obtain ⟨n,stray⟩ := strayMade fresh rest b [] a
    have each : ∀ p ∈ List.replicate n m, p ≠ [] ∧ d ∉ p := by
      intro p inside
      rw [List.eq_of_mem_replicate inside]
      exact ⟨rest,fun inside => fresh (List.mem_append_right _ inside)⟩
    have whole : a++(d::s++d::(s++m))++b = a++(d::s++(d::(s++m)++b)) := by simp
    exact (insertedIff fresh each).mp (every _ each) (whole ▸ stray)

end Clearing

end Text

open Text

theorem paramMarkDistinct : Distinct paramMark := ⟨_,_,rfl,by decide⟩

theorem insertedParams (template : List Char) (params : List String) :
    insertParams template params = insertedInTurn paramMark template (params.map String.toList) := by
  rw [insertParams,insertedInTurn,List.foldl_map]

def paramsInPlaces (template : List Char) (params : List String) : List Char := placed paramMark template (params.map String.toList)

section Params
variable {template : List Char} {params : List String}

theorem straylessPlaced (none : ¬ Stray paramMark template (params.map String.toList)) :
    insertParams template params = paramsInPlaces template params := by
  have own : ¬ StrayBehind paramMark [] template (params.map String.toList) := none
  rw [insertedParams]
  exact paramMarkDistinct.insertedPlaced _ own

theorem straylessIff (each : ∀ q ∈ params, q ≠ "" ∧ ':' ∉ q.toList) :
    insertParams template params = paramsInPlaces template params ↔ ¬ Stray paramMark template (params.map String.toList) := by
  have each : ∀ q ∈ params.map String.toList, q ≠ [] ∧ ':' ∉ q := by simpa using each
  have fresh : ':' ∉ "param".toList := by decide
  rw [insertedParams]
  exact insertedIff fresh each

theorem clearStrayless (clear : Clear paramMark template) (free : ∀ q ∈ params, ':' ∉ q.toList) :
    ¬ Stray paramMark template (params.map String.toList) := by
  have fresh : ':' ∉ "param".toList := by decide
  exact clearStays fresh _ clear (fun _ => rfl) (by simpa using free)

theorem clearTemplate : Clear paramMark template ↔ ∀ params : List String, (∀ q ∈ params, q ≠ "" ∧ ':' ∉ q.toList) →
    insertParams template params = paramsInPlaces template params := by
  have fresh : ':' ∉ "param".toList := by decide
  have iff : Clear paramMark template ↔ _ := clearIff fresh
  constructor
  · intro clear params each
    exact straylessPlaced (clearStrayless clear fun q inside => (each q inside).2)
  · intro every
    refine iff.mpr fun ps each => ?_
    obtain ⟨params,rfl⟩ : ∃ params : List String, params.map String.toList = ps :=
      ⟨ps.map String.ofList,by simp [Function.comp_def]⟩
    have same := every params (by simpa using each)
    rw [insertedParams] at same
    exact same

end Params

theorem describedColonless {d : RuleDefinition} {custom token e} (described : d.describe custom token = .ok e)
    (free : ∀ q ∈ token.params, ':' ∉ q.toList) : e.params.length ≤ 1 ∨ ∀ q ∈ e.params, ':' ∉ q.toList := by
  by_cases named : d.name = customRule
  · cases custom with
    | none => simp [RuleDefinition.describe,named] at described
    | some clause =>
      obtain rfl := (customDescribe named).mp described
      exact .inl (Nat.le_refl 1)
  · rw [(describedGives described named).params]
    exact .inr (d.arrangedParams free)

namespace Catalog
variable {c : Catalog} {rules : String} {p : Pipeline} {d : Descriptor}

theorem shownColonless (remembers : c.Remembers) (read : (c.parse rules).1 = .ok p) (inside : d ∈ p.descriptors) :
    d.shownParams.length ≤ 1 ∨ ∀ q ∈ d.shownParams, ':' ∉ q.toList := by
  obtain ⟨_,described⟩ := parsedDescribes remembers read d inside
  obtain ⟨token,rule,named,_,described⟩ := describesIff.mp described
  unfold Descriptor.shownParams
  rcases describedColonless described (tokenParams named) with few | free
  · split
    · exact .inl (by rw [List.length_drop]; omega)
    · exact .inl few
  · split
    · exact .inr fun q member => free q (List.mem_of_mem_drop member)
    · exact .inr free

/-- The parameters of a message come to their own places where no mark strays, and where none of them is empty only there. A single
one never makes a mark stray, and in a template none can make one stray exactly if no mark has the beginning of one right before it. -/
theorem messageParams (remembers : c.Remembers) (read : (c.parse rules).1 = .ok p) (inside : d ∈ p.descriptors)
    (template : List Char) :
    (¬ Stray paramMark template (d.shownParams.map String.toList) →
      insertParams template d.shownParams = paramsInPlaces template d.shownParams) ∧
    ((∀ q ∈ d.shownParams, q ≠ "") → (insertParams template d.shownParams = paramsInPlaces template d.shownParams ↔
      ¬ Stray paramMark template (d.shownParams.map String.toList))) ∧
    (d.shownParams.length ≤ 1 ∨ Clear paramMark template → insertParams template d.shownParams = paramsInPlaces template d.shownParams) ∧
    (Clear paramMark template ↔ ∀ params : List String, (∀ q ∈ params, q ≠ "" ∧ ':' ∉ q.toList) →
      insertParams template params = paramsInPlaces template params) := by
  have colonless := shownColonless remembers read inside
  have single (few : d.shownParams.length ≤ 1) : ¬ Stray paramMark template (d.shownParams.map String.toList) :=
    singleStays (by rwa [List.length_map])
  refine ⟨straylessPlaced,fun filled => ?_,fun plain => straylessPlaced ?_,clearTemplate⟩
  · rcases colonless with few | free
    · exact iff_of_true (straylessPlaced (single few)) (single few)
    · exact straylessIff fun q member => ⟨filled q member,free q member⟩
  · rcases plain with few | clear
    · exact single few
    · rcases colonless with few | free
      · exact single few
      · exact clearStrayless clear free

theorem rangeNamed : bundled.Remembers ∧ ∃ p d template, (bundled.parse "between_num:1,5").1 = .ok p ∧ d ∈ p.descriptors ∧
    messagesEnglish.lookup d.messageKey = some template ∧ Clear paramMark template.toList ∧
    insertParams template.toList d.shownParams = "Needs to be a numeric value, between 1 and 5.".toList := by
  have read : (bundled.parse "between_num:1,5").1.toOption.map Pipeline.descriptors =
      some [⟨"between_num",.numberBounds,"INVALID_BETWEEN_NUM",none,"",["1","5"],.several [">=","<="],none⟩] := by decide +kernel
  obtain ⟨p,read,inside⟩ := parsedSole read
  have clear : Clear paramMark "Needs to be a numeric value, between :param and :param.".toList := by decide +kernel
  have named := (messageParams bundledChecked.remembers read inside _).2.2.1 (.inr clear)
  exact ⟨bundledChecked.remembers,p,_,_,read,inside,by decide +kernel,clear,named.trans (by decide +kernel)⟩

def pairRules : Value :=
  .object [("rules",.object [
    ("pair",.object [("kind",.text "regex"),("pattern",.text "^$1-$2$"),("params",.int 2),("message",.text "NO_PAIR")])])]

def pairCatalog : Catalog := ⟨Catalog.table? pairRules >>= (Table.get? · "rules") >>= Catalog.table?,some [],[]⟩

theorem pairChecked : pairCatalog.Checked :=
  ⟨⟨pairRules,pairCatalog,Schema.checkedMeets.mp (by decide),rfl,.refl _⟩,freshRemembers rfl⟩

/-- The first parameter completes a mark, which the second takes the place of. -/
theorem markCompleted : pairCatalog.Checked ∧ ∃ p d, (pairCatalog.parse "pair:am:x").1 = .ok p ∧ d ∈ p.descriptors ∧
    Stray paramMark ":par:param".toList (d.shownParams.map String.toList) ∧
    paramsInPlaces ":par:param".toList d.shownParams = ":param".toList ∧
    insertParams ":par:param".toList d.shownParams = "x".toList := by
  have read : (pairCatalog.parse "pair:am:x").1.toOption.map Pipeline.descriptors =
      some [⟨"pair",.pattern,"NO_PAIR",some "^am-x$","",["am","x"],.absent,none⟩] := by decide +kernel
  obtain ⟨p,read,inside⟩ := parsedSole read
  exact ⟨pairChecked,p,_,read,inside,by decide +kernel,by decide +kernel,by decide +kernel⟩

end Catalog
end FormGuard
