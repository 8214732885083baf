import FormGuard.Proofs.CheckedCatalogs
import FormGuard.Proofs.WrittenDates

/-! How rule strings are refused. A reading ends in a pipeline, in one of four families of problems, or breaks off over a
pattern with a number out of range or two alphabets at once; nothing is said of how deep a pattern may nest. -/
namespace FormGuard
open Text

theorem splitAltParams (pieces : List (List Char)) : (Token.splitAlt pieces).1 ⊆ pieces := by
  induction pieces with
  | nil => simp [Token.splitAlt]
  | cons p ps ih =>
    unfold Token.splitAlt
    split
    · simp
    · exact List.cons_subset_cons p ih

theorem tokenParams {t token} (read : Token.ofChars? t = some token) : ∀ p ∈ token.params, ':' ∉ p.toList := by
  unfold Token.ofChars? at read
  split at read
  · contradiction
  · rename_i head rest whole
    dsimp only at read
    split at read
    · contradiction
    · cases read
      intro p inside colon
      obtain ⟨piece,member,rfl⟩ := List.mem_map.mp inside
      have piece' : piece ∈ splitOn ':' t := by
        rw [whole]
        exact List.mem_cons_of_mem _ (splitAltParams rest member)
      exact (splitChars piece' (by simpa using colon)).2 rfl

namespace RuleDefinition

theorem arrangedParams (d : RuleDefinition) {params : List String} (free : ∀ p ∈ params, ':' ∉ p.toList) :
    ∀ p ∈ d.arrangeParams params, ':' ∉ p.toList := by
  have filtered : ∀ p ∈ params.filter (· != ""), ':' ∉ p.toList := fun p inside => free p (List.mem_filter.mp inside).1
  unfold arrangeParams
  dsimp only
  split
  · rename_i p whole
    split
    · intro q inside colon
      obtain ⟨piece,member,rfl⟩ := List.mem_map.mp inside
      exact filtered p (by simp [whole]) (splitChars member (by simpa using colon)).1
    · exact filtered
  · exact filtered

theorem arityAnswers {d : RuleDefinition} {params answer} (answers : d.checkArity params = answer) :
    answer = .ok (d.arrangeParams params) ∨
      answer = .error (.problem (.wrongArity d.name d.leastParams d.mostParams (d.arrangeParams params))) := by
  unfold checkArity at answers
  dsimp only at answers
  split at answers
  · exact .inl answers.symm
  · exact .inr answers.symm

theorem dateAnswers (d : RuleDefinition) {p : String} (free : ':' ∉ p.toList) : ∃ fine, d.isDate p = .ok fine := by
  have resolved : ∃ l, Layout.resolve false (.text d.layoutName) = .ok l := by
    unfold Layout.resolve
    split <;> exact ⟨_,rfl⟩
  obtain ⟨l,resolved⟩ := resolved
  have text : l.readValue (.text p) = l.read p.toList := by
    simp [Layout.readValue,Value.textOf,Value.writable,Value.plainText,bind,Except.bind]
  unfold isDate readDate
  rw [resolved]
  dsimp only
  rw [text]
  rcases Layout.readsWithin (l := l) free with ⟨i,read⟩ | read <;> simp [read]

theorem suitsAnswers (d : RuleDefinition) {p : String} (free : ':' ∉ p.toList) : ∃ answer, d.suits p = .ok answer := by
  unfold suits
  split
  · exact ⟨_,rfl⟩
  · exact ⟨_,rfl⟩
  · obtain ⟨fine,answer⟩ := d.dateAnswers free
    exact ⟨_,by rw [answer]; rfl⟩
  · exact ⟨_,rfl⟩

theorem paramsAnswer (d : RuleDefinition) {ps : List String} (free : ∀ p ∈ ps, ':' ∉ p.toList) :
    d.checkParams ps = .ok () ∨ ∃ expected p, d.checkParams ps = .error (.problem (.unsuitableParam d.name expected p)) := by
  induction ps with
  | nil => exact .inl rfl
  | cons p ps ih =>
    simp only [List.forall_mem_cons] at free
    obtain ⟨⟨fine,expected⟩,suits⟩ := d.suitsAnswers free.1
    unfold checkParams
    simp only [suits,bind,Except.bind]
    cases fine with
    | false => exact .inr ⟨expected,p,rfl⟩
    | true => exact ih free.2

end RuleDefinition

namespace Pattern.Defect

def escapes (d : Defect) : Prop := d ∈ [countTooLarge,codeTooLarge,countTooLong,clashingAlphabets]

theorem escapesIff (d : Defect) : d.escapes ↔ d.fault ≠ .badPattern := by
  cases d <;> simp [escapes,fault]

end Pattern.Defect

namespace Clause

theorem readableProblem {pattern otherwise p} (fails : readable pattern otherwise = .error (.problem p)) :
    ∃ detail, p = otherwise detail := by
  unfold readable at fails
  split at fails
  · contradiction
  · split at fails <;> cases fails
    exact ⟨_,rfl⟩

theorem readableFault {pattern otherwise f} : readable pattern otherwise = .error (.fault f) ↔
    ∃ defect, Pattern.read .none pattern = .error defect ∧ defect.escapes ∧ defect.fault = f := by
  unfold readable
  cases Pattern.read .none pattern with
  | ok p => simp
  | error d => cases fault : d.fault <;> simp [Pattern.Defect.escapesIff,fault]

def Single (rules : String) (pattern : List Char) : Prop :=
  ∃ before body behind message, next? rules.toList = some (before,body,behind) ∧ next? behind = none ∧
    breakOn? separator body = some (message,pattern)

theorem nextOccurs {cs : List Char} {clause} (next : next? cs = some clause) : occurs opening cs = true := by
  unfold next? at next
  unfold occurs
  cases found : breakOn? opening cs with
  | none => simp [found] at next
  | some => rfl

section Alone
variable {rules : String} {before body behind message pattern : List Char}
  (next : next? rules.toList = some (before,body,behind)) (alone : next? behind = none)
  (cut : breakOn? separator body = some (message,pattern))
include next alone cut

theorem singleIff (other : List Char) : Single rules other ↔ other = pattern := by
  constructor
  · rintro ⟨_,_,_,_,next',_,cut'⟩
    cases next.symm.trans next'
    cases cut.symm.trans cut'
    rfl
  · rintro rfl
    exact ⟨_,_,_,_,next,alone,cut⟩

theorem extractAlone (f : Failure) : extract rules = .error f ↔
    readable pattern (.badClausePattern (String.ofList pattern)) = .error f := by
  unfold extract
  simp only [nextOccurs next,next,alone,cut,Bool.not_true,Bool.false_eq_true,if_false,Option.isSome_none]
  cases readable pattern (.badClausePattern (String.ofList pattern)) <;> simp

end Alone

end Clause

def Family.ofRules : List Family := [.malformedClause,.emptyToken,.unknownRule,.invalidParams]

namespace RuleDefinition

def Fills (d : RuleDefinition) (token : Token) (pattern : String) : Prop :=
  d.name ≠ customRule ∧ ∃ params, d.checkArity token.params = .ok params ∧ d.checkParams params = .ok () ∧
    d.buildPattern params = some pattern

theorem describeError {d : RuleDefinition} (plain : d.name ≠ customRule) {custom token f} :
    d.describe custom token = .error f ↔ d.checkArity token.params = .error f ∨
      ∃ params, d.checkArity token.params = .ok params ∧ (d.checkParams params = .error f ∨
        d.checkParams params = .ok () ∧ d.checkPattern params (d.buildPattern params) = .error f) := by
  have passed {x : Except Failure Unit} : (∃ u, x = .ok u) ↔ x = .ok () :=
    ⟨fun ⟨(),passes⟩ => passes,fun passes => ⟨(),passes⟩⟩
  unfold describe
  simp [plain,bindError,passed,pure,Except.pure]

theorem describeFails {d : RuleDefinition} {custom token} (free : ∀ p ∈ token.params, ':' ∉ p.toList) :
    (∀ p, d.describe custom token = .error (.problem p) → p.family ∈ Family.ofRules) ∧
    ∀ f, d.describe custom token = .error (.fault f) ↔ ∃ pattern defect, d.Fills token pattern ∧
      Pattern.read .none pattern.toList = .error defect ∧ defect.escapes ∧ defect.fault = f := by
  by_cases plain : d.name = customRule
  · unfold describe Fills
    simp only [plain,if_true,ne_eq,not_true_eq_false,false_and,exists_false,iff_false]
    cases custom <;> simp [Problem.family,Family.ofRules]
  · have fit {params} (fits : d.checkArity token.params = .ok params) :
        d.checkParams params = .ok () ∨
          ∃ expected p, d.checkParams params = .error (.problem (.unsuitableParam d.name expected p)) := by
      rcases arityAnswers fits with same | same <;> cases same
      exact d.paramsAnswer (d.arrangedParams free)
    refine ⟨fun p fails => ?_,fun f => ⟨fun fails => ?_,?_⟩⟩
    · rcases (describeError plain).mp fails with arity | ⟨params,fits,unfit | ⟨_,unread⟩⟩
      · rcases arityAnswers arity with same | same <;> cases same
        simp [Problem.family,Family.ofRules]
      · rcases fit fits with fine | ⟨expected,q,wrong⟩
        · cases fine.symm.trans unfit
        · cases wrong.symm.trans unfit
          simp [Problem.family,Family.ofRules]
      · cases built : d.buildPattern params with
        | none =>
          rw [built] at unread
          cases unread
        | some pattern =>
          rw [built] at unread
          obtain ⟨_,rfl⟩ := Clause.readableProblem unread
          simp [Problem.family,Family.ofRules]
    · rcases (describeError plain).mp fails with arity | ⟨params,fits,unfit | ⟨fine,unread⟩⟩
      · rcases arityAnswers arity with same | same <;> cases same
      · rcases fit fits with fine | ⟨_,_,wrong⟩
        · cases fine.symm.trans unfit
        · cases wrong.symm.trans unfit
      · cases built : d.buildPattern params with
        | none =>
          rw [built] at unread
          cases unread
        | some pattern =>
          rw [built] at unread
          obtain ⟨defect,rest⟩ := Clause.readableFault.mp unread
          exact ⟨pattern,defect,⟨plain,params,fits,fine,built⟩,rest⟩
    · rintro ⟨pattern,defect,⟨_,params,fits,fine,built⟩,rest⟩
      refine (describeError plain).mpr (.inr ⟨params,fits,.inr ⟨fine,?_⟩⟩)
      rw [built]
      exact Clause.readableFault.mpr ⟨defect,rest⟩

end RuleDefinition

namespace Catalog

/-- The patterns that a rule string makes the reading come to: that of its clause, or that of the first token that the
reading has not described. -/
inductive Reaches (c : Catalog) (rules : String) : List Char → Prop
  | clause {pattern} (single : Clause.Single rules pattern) : Reaches c rules pattern
  | template {source custom earlier t later token d pattern} (taken : Clause.extract rules = .ok (source,custom))
      (split : splitOn '|' source = earlier ++ t :: later)
      (described : ∀ e ∈ earlier, ∃ descriptor, c.describeToken custom 0 e = .ok descriptor)
      (named : Token.ofChars? t = some token) (found : c.find token.name = .ok d) (filled : d.Fills token pattern) :
      Reaches c rules pattern.toList

theorem describePosition {c : Catalog} {custom k t descriptor} (ok : c.describeToken custom k t = .ok descriptor)
    (n : Nat) : c.describeToken custom n t = .ok descriptor := by
  unfold describeToken at ok ⊢
  split at ok
  · contradiction
  · exact ok

theorem firstFails {c : Catalog} (h : c.Remembers) {custom k ts f} : (c.describeTokens custom k ts).1 = .error f ↔
    ∃ earlier t later, ts = earlier ++ t :: later ∧ (∀ e ∈ earlier, ∃ descriptor, c.describeToken custom 0 e = .ok descriptor) ∧
      c.describeToken custom (k+earlier.length) t = .error f := by
  induction ts generalizing k with
  | nil => simp [describeTokens]
  | cons t ts ih =>
    rw [describeCons h]
    cases first : c.describeToken custom k t with
    | error g =>
      simp only [bind,Except.bind,Except.error.injEq]
      constructor
      · rintro rfl
        exact ⟨[],t,ts,rfl,by simp,first⟩
      · rintro ⟨earlier,t',later,whole,described,fails⟩
        cases earlier with
        | nil =>
          cases whole
          exact Except.error.inj (first.symm.trans fails)
        | cons e earlier =>
          cases whole
          obtain ⟨descriptor,ok⟩ := described t (by simp)
          cases first.symm.trans (describePosition ok k)
    | ok descriptor =>
      have rest : (do let rest ← (c.describeTokens custom (k+1) ts).1; return descriptor::rest) = .error f ↔
          (c.describeTokens custom (k+1) ts).1 = .error f := by simp [bindError,pure,Except.pure]
      simp only [bind,Except.bind] at rest ⊢
      rw [rest,ih]
      constructor
      · rintro ⟨earlier,t',later,rfl,described,fails⟩
        refine ⟨t::earlier,t',later,rfl,List.forall_mem_cons.mpr ⟨⟨descriptor,describePosition first 0⟩,described⟩,?_⟩
        rwa [List.length_cons,Nat.add_comm earlier.length,← Nat.add_assoc]
      · rintro ⟨earlier,t',later,whole,described,fails⟩
        cases earlier with
        | nil =>
          cases whole
          cases first.symm.trans fails
        | cons e earlier =>
          cases whole
          refine ⟨earlier,t',later,rfl,(List.forall_mem_cons.mp described).2,?_⟩
          rwa [List.length_cons,Nat.add_comm earlier.length,← Nat.add_assoc] at fails

theorem tokenFails {c : Catalog} (checked : c.Checked) {custom k t} :
    (∀ p, c.describeToken custom k t = .error (.problem p) → p.family ∈ Family.ofRules) ∧
    ∀ f, c.describeToken custom k t = .error (.fault f) ↔ ∃ token d pattern defect, Token.ofChars? t = some token ∧
      c.find token.name = .ok d ∧ d.Fills token pattern ∧ Pattern.read .none pattern.toList = .error defect ∧
      defect.escapes ∧ defect.fault = f := by
  unfold describeToken
  cases named : Token.ofChars? t with
  | none => simp [Problem.family,Family.ofRules]
  | some token =>
    rcases findAnswers checked token.name with ⟨d,found⟩ | ⟨known,unknown⟩
    · obtain ⟨problems,faults⟩ := @RuleDefinition.describeFails d custom token (tokenParams named)
      simp only [found,bind,Except.bind]
      exact ⟨problems,fun f => by simp [faults f,found]⟩
    · simp [unknown,bind,Except.bind,Problem.family,Family.ofRules]

theorem extractFails {rules : String} :
    (∀ p, Clause.extract rules = .error (.problem p) → p.family ∈ Family.ofRules) ∧
    ∀ f, Clause.extract rules = .error (.fault f) ↔ ∃ pattern defect, Clause.Single rules pattern ∧
      Pattern.read .none pattern = .error defect ∧ defect.escapes ∧ defect.fault = f := by
  cases next : Clause.next? rules.toList with
  | none =>
    unfold Clause.extract Clause.Single
    cases opened : occurs Clause.opening rules.toList <;> simp [opened,next,Problem.family,Family.ofRules]
  | some clause =>
    obtain ⟨before,body,behind⟩ := clause
    have opened := Clause.nextOccurs next
    cases again : Clause.next? behind with
    | some other =>
      unfold Clause.extract Clause.Single
      simp [opened,next,again,Problem.family,Family.ofRules]
    | none =>
      cases cut : breakOn? Clause.separator body with
      | none =>
        unfold Clause.extract Clause.Single
        simp [opened,next,again,cut,Problem.family,Family.ofRules]
      | some parts =>
        obtain ⟨message,pattern⟩ := parts
        have run := Clause.extractAlone next again cut
        refine ⟨fun p fails => ?_,fun f => ?_⟩
        · obtain ⟨_,rfl⟩ := Clause.readableProblem ((run _).mp fails)
          simp [Problem.family,Family.ofRules]
        · simp [run,Clause.singleIff next again cut,Clause.readableFault]

theorem parseError {c : Catalog} {rules f} : (c.parse rules).1 = .error f ↔ Clause.extract rules = .error f ∨
    ∃ source custom, Clause.extract rules = .ok (source,custom) ∧
      (c.describeTokens custom 0 (splitOn '|' source)).1 = .error f := by
  unfold parse
  cases Clause.extract rules with
  | error g => simp
  | ok pair =>
    obtain ⟨source,custom⟩ := pair
    have only : (∃ source' custom', (Except.ok (source,custom) : Except Failure _) = .ok (source',custom') ∧
        (c.describeTokens custom' 0 (splitOn '|' source')).1 = .error f) ↔
        (c.describeTokens custom 0 (splitOn '|' source)).1 = .error f :=
      ⟨by rintro ⟨_,_,⟨⟩,fails⟩; exact fails,fun fails => ⟨_,_,rfl,fails⟩⟩
    rw [only]
    dsimp only
    rcases c.describeTokens custom 0 (splitOn '|' source) with ⟨_|_,_⟩ <;> simp

theorem parseProblems {c : Catalog} (checked : c.Checked) {rules p}
    (fails : (c.parse rules).1 = .error (.problem p)) : p.family ∈ Family.ofRules := by
  rcases parseError.mp fails with unread | ⟨source,custom,_,undescribed⟩
  · exact extractFails.1 p unread
  · obtain ⟨earlier,t,later,_,_,token⟩ := (firstFails checked.remembers).mp undescribed
    exact (tokenFails checked).1 p token

theorem parseFaults {c : Catalog} (checked : c.Checked) {rules f} : (c.parse rules).1 = .error (.fault f) ↔
    ∃ pattern defect, c.Reaches rules pattern ∧ Pattern.read .none pattern = .error defect ∧ defect.escapes ∧
      defect.fault = f := by
  constructor
  · intro fails
    rcases parseError.mp fails with unread | ⟨source,custom,taken,undescribed⟩
    · obtain ⟨pattern,defect,single,rest⟩ := (extractFails.2 f).mp unread
      exact ⟨pattern,defect,.clause single,rest⟩
    · obtain ⟨earlier,t,later,split,described,token⟩ := (firstFails checked.remembers).mp undescribed
      obtain ⟨_,_,_,defect,named,found,filled,rest⟩ := ((tokenFails checked).2 f).mp token
      exact ⟨_,defect,.template taken split described named found filled,rest⟩
  · rintro ⟨_,defect,⟨single⟩ | ⟨taken,split,described,named,found,filled⟩,rest⟩
    · exact parseError.mpr (.inl ((extractFails.2 f).mpr ⟨_,defect,single,rest⟩))
    · refine parseError.mpr (.inr ⟨_,_,taken,(firstFails checked.remembers).mpr ⟨_,_,_,split,described,?_⟩⟩)
      exact ((tokenFails checked).2 f).mpr ⟨_,_,_,defect,named,found,filled,rest⟩

def Answers : Except Failure Pipeline → Prop
  | .ok _ => True
  | .error (.problem p) => p.family ∈ Family.ofRules
  | .error (.fault _) => False

/-- A rule string is taken or refused for what is wrong with it, exactly when every pattern that the reading comes to
is free of the defects that break it off; these are all that ever does. -/
theorem rulesAnswered {c : Catalog} (checked : c.Checked) (rules : String) :
    (Answers (c.parse rules).1 ↔
      ∀ pattern defect, c.Reaches rules pattern → Pattern.read .none pattern = .error defect → ¬ defect.escapes) ∧
    ∀ f, (c.parse rules).1 = .error (.fault f) ↔ ∃ pattern defect, c.Reaches rules pattern ∧
      Pattern.read .none pattern = .error defect ∧ defect.escapes ∧ defect.fault = f := by
  refine ⟨?_,fun f => parseFaults checked⟩
  cases parsed : (c.parse rules).1 with
  | ok pipeline =>
    refine iff_of_true trivial fun pattern defect reaches read escapes => ?_
    cases parsed.symm.trans ((parseFaults checked).mpr ⟨pattern,defect,reaches,read,escapes,rfl⟩)
  | error failure =>
    cases failure with
    | problem p =>
      refine iff_of_true (parseProblems checked parsed) fun pattern defect reaches read escapes => ?_
      cases parsed.symm.trans ((parseFaults checked).mpr ⟨pattern,defect,reaches,read,escapes,rfl⟩)
    | fault f =>
      obtain ⟨pattern,defect,reaches,read,escapes,_⟩ := (parseFaults checked).mp parsed
      exact iff_of_false id fun none => none pattern defect reaches read escapes

def faultOf? : Except Failure Pipeline → Option Fault
  | .error (.fault f) => some f
  | _ => none

theorem faultOfIff {answer f} : faultOf? answer = some f ↔ answer = .error (.fault f) := by
  unfold faultOf?
  split <;> simp_all

theorem longestText : smallCatalog.Checked ∧ ∃ pattern defect, smallCatalog.Reaches "at_least:4294967295" pattern ∧
    Pattern.read .none pattern = .error defect ∧ defect.escapes ∧ defect.fault = .overflow :=
  ⟨smallChecked,((rulesAnswered smallChecked "at_least:4294967295").2 .overflow).mp (faultOfIff.mp (by decide +kernel))⟩

theorem countBreaksOff : smallCatalog.Checked ∧
    (smallCatalog.parse "regex:m:=a\x7b4294967295\x7d:regex").1 = .error (.fault .overflow) ∧
    ¬ Answers (smallCatalog.parse "regex:m:=a\x7b4294967295\x7d:regex").1 := by
  have breaks : (smallCatalog.parse "regex:m:=a\x7b4294967295\x7d:regex").1 = .error (.fault .overflow) :=
    faultOfIff.mp (by decide +kernel)
  exact ⟨smallChecked,breaks,by rw [breaks]; exact id⟩

end Catalog
end FormGuard
