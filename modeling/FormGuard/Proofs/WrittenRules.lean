import FormGuard.Proofs.BundledCatalog
import FormGuard.Proofs.RuleReading

/-! Rules written as tokens read back. The pieces of a token stand between colons, and two parameters may stand between
commas; a name keeps its ends, a parameter does not look like an alternative text, and nothing holds a bar. -/
namespace FormGuard
open Text

namespace Token

def pieces (t : Token) : List String := t.name::(t.params++if t.altText = "" then [] else [t.altText])

def spell (t : Token) : String := String.ofList (join [':'] (t.pieces.map String.toList))

structure Plain (t : Token) : Prop where
  named : t.name ≠ ""
  name : ':' ∉ t.name.toList ∧ '|' ∉ t.name.toList
  first : ∀ c ∈ t.name.toList.head?, isBlank c.toNat = false
  last : ∀ c ∈ t.name.toList.getLast?, isBlank c.toNat = false
  filled : ∀ p ∈ t.params, p ≠ ""
  params : ∀ p ∈ t.params, ':' ∉ p.toList ∧ '|' ∉ p.toList
  unmarked : ∀ p ∈ t.params, ¬ altMark <+: p.toList
  altText : t.altText = "" ∨ altMark <+: t.altText.toList ∧ '|' ∉ t.altText.toList

theorem stripEnds {cs : List Char} (first : ∀ c ∈ cs.head?, isBlank c.toNat = false)
    (last : ∀ c ∈ cs.getLast?, isBlank c.toNat = false) : strip cs = cs := by
  have kept {ds : List Char} (first : ∀ c ∈ ds.head?, isBlank c.toNat = false) : dropBlanks ds = ds := by
    cases ds with
    | nil => rfl
    | cons d ds => simp [dropBlanks,first d rfl]
  have back : dropBlanks cs.reverse = cs.reverse := kept (by simpa using last)
  rw [strip,kept first,back,List.reverse_reverse]

theorem altBehind {ps rest : List (List Char)} (unmarked : ∀ p ∈ ps, ¬ altMark <+: p) :
    splitAlt (ps++rest) = (ps++(splitAlt rest).1,(splitAlt rest).2) := by
  induction ps with
  | nil => rfl
  | cons p ps ih =>
    obtain ⟨first,others⟩ := List.forall_mem_cons.mp unmarked
    rw [← startsIff] at first
    simp [splitAlt,first,ih others]

theorem altWhole {alt : List Char} (marked : altMark <+: alt) : splitAlt (splitOn ':' alt) = ([],alt) := by
  have whole := joinSplitOn ':' alt
  cases split : splitOn ':' alt with
  | nil => exact absurd split (splitOnNonempty ':' alt)
  | cons p ps =>
    rw [split] at whole
    have first : altMark <+: p := by
      cases ps with
      | nil => rwa [show p = alt from whole]
      | cons q qs =>
        rw [join,List.append_assoc] at whole
        exact prefixJoint (by decide) (whole ▸ marked)
    rw [splitAlt,if_pos (startsIff.mpr first),whole]

theorem Plain.reads {t : Token} (plain : t.Plain) : ofChars? t.spell.toList = some t := by
  obtain ⟨name,params,alt⟩ := t
  obtain ⟨named,free,first,last,_,frees,unmarked,alts⟩ := plain
  dsimp only at *
  have each : (params.map String.toList).flatMap (splitOn ':') = params.map String.toList := by
    rw [List.flatMap_congr (g := fun p => [p]) (by simpa using fun p inside => splitFree (frees p inside).1)]
    simp
  have before : ∀ p ∈ params.map String.toList, ¬ altMark <+: p := by simpa using unmarked
  have read {rest} (split : splitOn ':' (spell ⟨name,params,alt⟩).toList = name.toList::(params.map String.toList++rest))
      (taken : splitAlt rest = ([],alt.toList)) : ofChars? (spell ⟨name,params,alt⟩).toList = some ⟨name,params,alt⟩ := by
    simp [ofChars?,split,altBehind before,taken,stripEnds first last,named]
  rcases alts with rfl | ⟨marked,_⟩
  · refine @read [] ?_ rfl
    rw [spell,String.toList_ofList,splitJoin (by simp [pieces])]
    simp [pieces,splitFree free.1,each]
  · refine read ?_ (altWhole marked)
    have some : alt ≠ "" := by
      rintro rfl
      exact absurd marked (by decide)
    rw [spell,String.toList_ofList,splitJoin (by simp [pieces])]
    simp [pieces,some,splitFree free.1,each]

theorem Plain.barFree {t : Token} (plain : t.Plain) : '|' ∉ t.spell.toList := by
  intro bar
  rw [spell,String.toList_ofList] at bar
  have piece : ∀ p ∈ t.pieces, '|' ∉ p.toList := by
    intro p inside
    rcases List.mem_cons.mp inside with rfl | inside
    · exact plain.name.2
    · rcases List.mem_append.mp inside with inside | inside
      · exact (plain.params p inside).2
      · split at inside
        · contradiction
        · rename_i some
          obtain rfl := List.mem_singleton.mp inside
          exact (plain.altText.resolve_left some).2
  have lies := (infixJoin (by decide) (by simp)).mp ((List.singleton_infix_iff '|' _).mpr bar)
  simp only [List.mem_map,exists_exists_and_eq_and,List.singleton_infix_iff] at lies
  obtain ⟨p,inside,lies⟩ := lies
  exact piece p inside lies

theorem Plain.comma {t : Token} (plain : t.Plain) {a b} (two : t.params = [a,b]) :
    Plain { t with params := [a++","++b] } := by
  have frees := plain.params
  have unmarked := plain.unmarked
  simp only [two,List.forall_mem_cons] at frees unmarked
  obtain ⟨⟨ac,ab⟩,⟨bc,bb⟩,_⟩ := frees
  refine ⟨plain.named,plain.name,plain.first,plain.last,by simp,?_,?_,plain.altText⟩
  · simp [ac,ab,bc,bb]
  · rintro _ inside begins
    obtain rfl := List.mem_singleton.mp inside
    rw [String.toList_append,String.toList_append,List.append_assoc] at begins
    have comma : ',' ∉ altMark := by decide
    exact unmarked.1 (prefixJoint comma begins)

end Token

namespace RuleDefinition

def Suits (d : RuleDefinition) (p : String) : Prop :=
  match d.paramType with
  | .integer => p ≠ "" ∧ ∀ c ∈ p.toList, '0' ≤ c ∧ c ≤ '9'
  | .number => ∃ x, Numeral.readDecimal? p.toList = some x ∧ x.isNan = false
  | .date => ∃ i, readDate false (.text d.layoutName) (.text p) = .ok i
  | .free _ => True

structure Takes (d : RuleDefinition) (params : List String) : Prop where
  least : d.leastParams ≤ params.length
  most : params.length ≤ d.mostParams
  typed : ∀ p ∈ params, d.Suits p
  single : ∀ p, params = [p] → d.mostParams = 2 → ',' ∉ p.toList
  pattern : ∀ pattern, d.buildPattern params = some pattern → ∃ node, Pattern.read .none pattern.toList = .ok node

inductive Spells (d : RuleDefinition) (t : Token) : String → Prop
  | colons : Spells d t t.spell
  | comma {a b} (most : d.mostParams = 2) (two : t.params = [a,b]) (first : ',' ∉ a.toList) (second : ',' ∉ b.toList) :
    Spells d t (Token.spell { t with params := [a++","++b] })

def descriptor (d : RuleDefinition) (t : Token) : Descriptor :=
  ⟨d.name,d.kind,d.messageKey,d.buildPattern t.params,t.altText,t.params,d.condition,d.dateFormat⟩

theorem suitsFine {d : RuleDefinition} {p} (fine : d.Suits p) : ∃ expected, d.suits p = .ok (true,expected) := by
  unfold Suits at fine
  unfold suits
  cases type : d.paramType <;> simp only [type] at fine
  · obtain ⟨some,digits⟩ := fine
    refine ⟨_,congrArg (fun b => Except.ok (b,_)) ?_⟩
    simpa [isWhole,isAsciiDigit,some,Char.le_def,UInt32.le_iff_toNat_le] using digits
  · obtain ⟨x,read,number⟩ := fine
    refine ⟨_,congrArg (fun b => Except.ok (b,_)) ?_⟩
    simp [isNumber,read,number]
  · obtain ⟨i,read⟩ := fine
    exact ⟨_,by rw [isDate,read]; rfl⟩
  · exact ⟨_,rfl⟩

theorem paramsFine {d : RuleDefinition} {ps} (fine : ∀ p ∈ ps, d.Suits p) : d.checkParams ps = .ok () := by
  induction ps with
  | nil => rfl
  | cons p ps ih =>
    obtain ⟨first,others⟩ := List.forall_mem_cons.mp fine
    obtain ⟨expected,suits⟩ := suitsFine first
    simp [checkParams,suits,bind,Except.bind,ih others]

theorem arrangeSame {d : RuleDefinition} {ps : List String} (filled : ∀ p ∈ ps, p ≠ "")
    (single : ∀ p, ps = [p] → d.mostParams = 2 → ',' ∉ p.toList) : d.arrangeParams ps = ps := by
  have all : ps.filter (· != "") = ps := List.filter_eq_self.mpr (by simpa using filled)
  unfold arrangeParams
  rw [all]
  dsimp only
  split
  · rename_i p
    have kept : ¬ (d.mostParams = 2 ∧ p.toList.contains ',') := fun ⟨most,comma⟩ => single p rfl most (by simpa using comma)
    rw [if_neg kept]
  · rfl

theorem arrangeComma {d : RuleDefinition} (most : d.mostParams = 2) {a b : String} (first : ',' ∉ a.toList)
    (second : ',' ∉ b.toList) : d.arrangeParams [a++","++b] = [a,b] := by
  have apart : splitOn ',' (a++","++b).toList = [a.toList,b.toList] := by
    rw [String.toList_append,String.toList_append,List.append_assoc]
    exact (splitJoint ',' a.toList b.toList).trans (by simp [splitFree first,splitFree second])
  have inside : ',' ∈ (a++","++b).toList := by simp
  simp [arrangeParams,most,inside,apart,-String.toList_append]

theorem describeTaken {d : RuleDefinition} (plain : d.name ≠ customRule) {t : Token} (takes : d.Takes t.params) {ps}
    (arranged : d.arrangeParams ps = t.params) (custom) :
    d.describe custom { t with params := ps } = .ok (d.descriptor t) := by
  have arity : d.checkArity ps = .ok t.params := by
    simp [checkArity,arranged,takes.least,takes.most]
  have pattern : d.checkPattern t.params (d.buildPattern t.params) = .ok () := by
    cases built : d.buildPattern t.params with
    | none => rfl
    | some p => exact Clause.readableOk.mpr (takes.pattern p built)
  unfold describe
  simp [plain,arity,paramsFine takes.typed,pattern,bind,Except.bind,descriptor,pure,Except.pure]

theorem spelledReads {d : RuleDefinition} (named : d.name ≠ customRule) {t : Token} (plain : t.Plain)
    (takes : d.Takes t.params) {text} (spells : d.Spells t text) : '|' ∉ text.toList ∧
    ∃ token, Token.ofChars? text.toList = some token ∧ token.name = t.name ∧
      ∀ custom, d.describe custom token = .ok (d.descriptor t) := by
  cases spells with
  | colons => exact ⟨plain.barFree,t,plain.reads,rfl,describeTaken named takes (arrangeSame plain.filled takes.single)⟩
  | comma most two first second =>
    have one := plain.comma two
    have arranged := (arrangeComma most first second).trans two.symm
    exact ⟨one.barFree,_,one.reads,rfl,describeTaken named takes arranged⟩

end RuleDefinition

namespace Catalog

structure Writes (c : Catalog) (t : Token) (text : String) : Prop where
  plain : t.Plain
  rule : ∃ d, c.find t.name = .ok d ∧ d.name ≠ customRule ∧ d.Takes t.params ∧ d.Spells t text

def Yields (c : Catalog) (t : Token) (e : Descriptor) : Prop :=
  ∃ d, c.find t.name = .ok d ∧ c.canonical t.name = .ok (.text e.ruleName) ∧ e = d.descriptor t

theorem foundCanonical {c : Catalog} {name d} (found : c.find name = .ok d) : c.canonical name = .ok (.text d.name) := by
  unfold find at found
  split at found
  · contradiction
  · contradiction
  · rename_i canonical _
    split at found
    · contradiction
    · contradiction
    · split at found
      · rename_i defined
        cases found
        rw [canonical,definedName defined]
      · contradiction
  · split at found <;> contradiction

theorem Writes.describes {c : Catalog} {t text} (writes : c.Writes t text) :
    '|' ∉ text.toList ∧ ∃ e, c.Yields t e ∧ ∀ custom, c.Describes custom text.toList e := by
  obtain ⟨plain,d,found,named,takes,spells⟩ := writes
  obtain ⟨free,token,read,same,described⟩ := RuleDefinition.spelledReads named plain takes spells
  refine ⟨free,_,⟨d,found,foundCanonical found,rfl⟩,fun custom => ?_⟩
  exact describesIff.mpr ⟨token,d,read,by rwa [same],described custom⟩

theorem writtenDescribes {c : Catalog} {tokens texts} (written : List.Forall₂ c.Writes tokens texts) :
    ∃ ds, List.Forall₂ c.Yields tokens ds ∧
      List.Forall₂ (c.Describes none) ((texts.map String.toList).flatMap (splitOn '|')) ds := by
  induction written with
  | nil => exact ⟨[],.nil,.nil⟩
  | cons writes _ ih =>
    obtain ⟨ds,yields,described⟩ := ih
    obtain ⟨free,e,yield,describes⟩ := writes.describes
    refine ⟨e::ds,.cons yield yields,?_⟩
    rw [List.map_cons,List.flatMap_cons,splitFree free]
    exact .cons (describes none) described

theorem yieldsRequired {c : Catalog} {tokens ds} (yields : List.Forall₂ c.Yields tokens ds) :
    ds.any (·.ruleName == requiredRule) = true ↔ ∃ t ∈ tokens, ∃ d, c.find t.name = .ok d ∧ d.name = requiredRule := by
  induction yields with
  | nil => simp
  | cons yield _ ih =>
    obtain ⟨d,found,_,rfl⟩ := yield
    rw [List.any_cons,Bool.or_eq_true,ih]
    simp [found,RuleDefinition.descriptor]

theorem writtenReads {c : Catalog} (remembers : c.Remembers) {tokens texts} (filled : tokens ≠ [])
    (written : List.Forall₂ c.Writes tokens texts) (free : ¬ Clause.opening <:+: (barred texts).toList) :
    ∃ ds r, (c.parse (barred texts)).1 = .ok ⟨barred texts,ds,r,none⟩ ∧ List.Forall₂ c.Yields tokens ds ∧
      (r = true ↔ ∃ t ∈ tokens, ∃ d, c.find t.name = .ok d ∧ d.name = requiredRule) := by
  obtain ⟨ds,yields,described⟩ := writtenDescribes written
  have some : texts.map String.toList ≠ [] := by
    cases written with
    | nil => contradiction
    | cons => simp
  have pieces : splitOn '|' (barred texts).toList = (texts.map String.toList).flatMap (splitOn '|') := by
    rw [barred,String.toList_ofList,splitJoin some]
  refine ⟨ds,_,(parsedIff remembers).mpr ⟨_,none,ds,Clause.extractFree free,by rwa [pieces],?_⟩,yields,yieldsRequired yields⟩
  rw [String.ofList_toList]

def ofAge : Token := ⟨"between",["18","65"],"alt=Age: 18 to 65"⟩

def ofLength : Token := ⟨"min_len",["3"],""⟩

def ageAndLength : List String := ["between:18,65:alt=Age: 18 to 65","min_len:3"]

theorem ageBesideLength : bundled.Remembers ∧ [ofAge,ofLength] ≠ [] ∧
    List.Forall₂ bundled.Writes [ofAge,ofLength] ageAndLength ∧
    ¬ Clause.opening <:+: (barred ageAndLength).toList ∧
    ∃ ds r, (bundled.parse (barred ageAndLength)).1 =
        .ok ⟨barred ageAndLength,ds,r,none⟩ ∧
      List.Forall₂ bundled.Yields [ofAge,ofLength] ds ∧
      (r = true ↔ ∃ t ∈ [ofAge,ofLength], ∃ d, bundled.find t.name = .ok d ∧ d.name = requiredRule) := by
  have number (p : String) (read : (Numeral.readDecimal? p.toList).map (·.isNan) = some false) :
      ∃ x, Numeral.readDecimal? p.toList = some x ∧ x.isNan = false := by simpa using read
  have age : bundled.find "between" = .ok ⟨"between_num",.numberBounds,"INVALID_BETWEEN_NUM",none,.several [">=","<="],none,
      2,2,.number⟩ := answered (by decide +kernel)
  have length : bundled.find "min_len" = .ok ⟨"min_len",.pattern,"INVALID_MIN_CHAR",some "^(.|[\\r\\n])\x7b$1,\x7d$",.absent,none,
      1,1,.integer⟩ := answered (by decide +kernel)
  have written : List.Forall₂ bundled.Writes [ofAge,ofLength] ageAndLength := by
    refine .cons ⟨?_,_,age,by decide,?_,.comma (a := "18") (b := "65") rfl rfl (by decide) (by decide)⟩
      (.cons ⟨?_,_,length,by decide,?_,.colons⟩ .nil)
    · exact ⟨by decide,by decide,by rintro _ ⟨⟩; rfl,by rintro _ ⟨⟩; rfl,by decide,by decide,by decide,.inr (by decide)⟩
    · refine ⟨by decide,by decide,?_,by simp [ofAge],by simp [RuleDefinition.buildPattern]⟩
      refine List.forall_mem_cons.mpr ⟨number _ (by decide +kernel),List.forall_mem_cons.mpr ⟨number _ (by decide +kernel),by simp⟩⟩
    · exact ⟨by decide,by decide,by rintro _ ⟨⟩; rfl,by rintro _ ⟨⟩; rfl,by decide,by decide,by decide,.inl rfl⟩
    · refine ⟨by decide,by decide,List.forall_mem_cons.mpr ⟨⟨by decide,by simp⟩,by simp⟩,by simp,?_⟩
      rintro _ ⟨⟩
      exact succeeds (by decide +kernel)
  have free : ¬ Clause.opening <:+: (barred ageAndLength).toList := by decide +kernel
  exact ⟨bundledChecked.remembers,by simp,written,free,writtenReads bundledChecked.remembers (by simp) written free⟩

end Catalog
end FormGuard
