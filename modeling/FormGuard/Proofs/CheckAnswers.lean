import FormGuard.Check.Outcome
import FormGuard.Proofs.LeadingNumbers
import FormGuard.Proofs.WrittenDates
import Mathlib.Data.List.Basic

/-! Checks that come to an answer. A descriptor with all that its check reads answers on every value, unless the value has no
text or no number where the check asks for one. -/
namespace FormGuard
open Text

theorem pairAnswers {c : Condition} {first second} (one : c.side 0 = .ok first) (two : c.side 1 = .ok second)
    (v low high : Operand) : ∃ b, withinBounds c v [low,high] = .ok b := by
  simp only [withinBounds,one,two,bind,Except.bind]
  split <;> exact ⟨_,rfl⟩

namespace Descriptor

def Bounded (d : Descriptor) : Prop :=
  match d.condition with
  | .absent => False
  | .single _ => d.params.length = 1
  | .several ops => d.params.length = 2 ∧ ops.length = 2

structure Dated (d : Descriptor) : Prop where
  pattern : ∃ p node, d.pattern = some p ∧ p ≠ "" ∧ Pattern.read .caseless p.toList = .ok node ∧
    ∀ cs, node.search cs = true → cs.length ≤ 20
  layout : ∃ l, ∀ strict, Layout.resolve strict d.layoutValue = .ok l
  bounded : d.Bounded
  free : ∀ p ∈ d.params, ':' ∉ p.toList

def Complete (d : Descriptor) : Prop :=
  match d.kind with
  | .pattern => ∃ p node, d.pattern = some p ∧ Pattern.read .caseless p.toList = .ok node
  | .dateBounds => d.Dated
  | .numberBounds => d.Bounded ∧ ∃ bounds, (d.params.mapM fun p => leadingNumber (.text p)) = .ok bounds ∧
    bounds.length = d.params.length
  | .confirmation => d.params ≠ []

/-- What breaks the check of a value off: a value that should have a text and has none, or a number and is none. -/
def strain? (d : Descriptor) (v : Value) (ctx : FieldContext) : Option Fault :=
  match d.kind with
  | .pattern => if ctx.isDisabled || v.writable then none else some .badValue
  | .dateBounds => if v.writable then none else some .badValue
  | .numberBounds => v.unread?
  | .confirmation => none

theorem withinAnswers {d : Descriptor} (bounded : d.Bounded) (v : Operand) {bounds : List Operand}
    (each : bounds.length = d.params.length) : ∃ b, withinBounds d.condition v bounds = .ok b := by
  unfold Bounded at bounded
  cases condition : d.condition with
  | absent => simp [condition] at bounded
  | single s =>
    simp only [condition] at bounded
    obtain ⟨bound,rfl⟩ := List.length_eq_one_iff.mp (each.trans bounded)
    exact ⟨_,rfl⟩
  | several ops =>
    simp only [condition] at bounded
    obtain ⟨low,high,rfl⟩ := List.length_eq_two.mp (each.trans bounded.1)
    obtain ⟨first,second,rfl⟩ := List.length_eq_two.mp bounded.2
    exact pairAnswers rfl rfl v low high

theorem subjectAnswers (v : Value) : ∃ s, subjectOf v = if v.writable then .ok s else .error .badValue := by
  by_cases null : v = .null
  · subst null
    exact ⟨"",rfl⟩
  · have text : subjectOf v = v.textOf := by
      cases v <;> first | contradiction | rfl
    exact ⟨_,by rw [text,Value.textOf]⟩

theorem searchAnswers {p node} (read : Pattern.read .caseless p.toList = .ok node) (s : String) :
    searchIn p s = .ok (node.search s.toList) := by
  rw [searchIn,read]

variable {d : Descriptor} {v : Value} {ctx : FieldContext}

theorem textFails {p node} (given : d.pattern = some p) (read : Pattern.read .caseless p.toList = .ok node) {f} :
    d.checkText v ctx = .error f ↔ (if ctx.isDisabled || v.writable then none else some Fault.badValue).map Failure.fault = some f := by
  have search : checkText.search d v = .error f ↔ (if v.writable then none else some Fault.badValue).map Failure.fault = some f := by
    obtain ⟨s,subject⟩ := subjectAnswers v
    unfold checkText.search
    rw [subject,given]
    split <;> simp [liftFault,bind,Except.bind,searchAnswers read]
  unfold checkText
  cases disabled : ctx.isDisabled with
  | true => simp
  | false =>
    simp only [Bool.false_eq_true,if_false,Bool.false_or]
    split
    · split
      · simp [Value.writable]
      · exact search
    · exact search

theorem boundsRead (l : Layout) {ps : List String} (free : ∀ p ∈ ps, ':' ∉ p.toList) :
    (∃ is, (ps.mapM fun p => l.read p.toList) = .ok is ∧ is.length = ps.length) ∨
      (ps.mapM fun p => l.read p.toList) = .error .badValue := by
  induction ps with
  | nil => exact .inl ⟨[],rfl,rfl⟩
  | cons p ps ih =>
    obtain ⟨first,others⟩ := List.forall_mem_cons.mp free
    rw [List.mapM_cons]
    rcases Layout.readsWithin first with ⟨i,read⟩ | read <;> rw [read]
    · rcases ih others with ⟨is,read,each⟩ | read <;> rw [read]
      · exact .inl ⟨i::is,rfl,by simp [each]⟩
      · exact .inr rfl
    · exact .inr rfl

theorem datesAnswer (bounded : d.Bounded) (free : ∀ p ∈ d.params, ':' ∉ p.toList) (l : Layout) {s : String}
    (short : s.toList.length ≤ 20) : ∃ b, d.compareDates l s = .ok b := by
  have answer : (∃ i is, compareDates.instants d l s = .ok (i,is) ∧ is.length = d.params.length) ∨
      compareDates.instants d l s = .error .badValue := by
    unfold compareDates.instants
    rcases Layout.shortReads short with ⟨i,read⟩ | read <;> rw [read]
    · rcases boundsRead l free with ⟨is,read,each⟩ | read <;> rw [read]
      · exact .inl ⟨i,is,rfl,each⟩
      · exact .inr rfl
    · exact .inr rfl
  unfold compareDates
  rcases answer with ⟨i,is,read,each⟩ | read <;> rw [read]
  · have count : (is.map Operand.instant).length = d.params.length := by simpa using each
    obtain ⟨b,within⟩ := withinAnswers bounded (.instant i) count
    exact ⟨b,by simp [within,liftFault]⟩
  · exact ⟨false,rfl⟩

theorem dateFails (dated : d.Dated) {strict f} :
    d.checkDate strict v = .error f ↔ (if v.writable then none else some Fault.badValue).map Failure.fault = some f := by
  obtain ⟨⟨p,node,given,some,read,short⟩,⟨l,resolved⟩,bounded,free⟩ := dated
  have compare : checkDate.compare strict d v = .error f ↔
      (if v.writable then none else Option.some Fault.badValue).map Failure.fault = Option.some f := by
    obtain ⟨s,subject⟩ := subjectAnswers v
    unfold checkDate.compare
    rw [subject,given]
    split
    · simp only [liftFault,bind,Except.bind,some,if_false,searchAnswers read,resolved]
      cases found : node.search s.toList with
      | false => simp [pure,Except.pure]
      | true =>
        obtain ⟨b,answer⟩ := datesAnswer bounded free l (short _ found)
        simp [answer]
    · simp [liftFault,bind,Except.bind]
  unfold checkDate
  split
  · split
    · simp [Value.writable]
    · exact compare
  · exact compare

theorem numberFails (bounded : d.Bounded) {bounds} (read : (d.params.mapM fun p => leadingNumber (.text p)) = .ok bounds)
    (each : bounds.length = d.params.length) {f} : d.checkNumber v = .error f ↔ v.unread?.map Failure.fault = some f := by
  unfold checkNumber
  rw [read]
  cases number : leadingNumber v with
  | error g => simp [leadingFails.mp number,liftFault,bind,Except.bind]
  | ok x =>
    have count : (bounds.map Operand.number).length = d.params.length := by simpa using each
    obtain ⟨b,within⟩ := withinAnswers bounded (.number x) count
    have none : v.unread? = none := by
      cases strain : v.unread? with
      | none => rfl
      | some g => cases number.symm.trans (leadingFails.mpr strain)
    simp [none,liftFault,bind,Except.bind,within]

theorem confirmationAnswers (some : d.params ≠ []) : ∃ b, d.checkConfirmation v ctx = .ok b := by
  unfold checkConfirmation
  split
  · exact ⟨_,rfl⟩
  · split
    · contradiction
    · exact ⟨_,rfl⟩

theorem checkFails (complete : d.Complete) {strict f} :
    d.check strict v ctx = .error f ↔ (d.strain? v ctx).map Failure.fault = some f := by
  unfold Complete at complete
  unfold check strain?
  cases kind : d.kind with
  | pattern =>
    simp only [kind] at complete
    obtain ⟨p,node,given,read⟩ := complete
    exact textFails given read
  | dateBounds =>
    simp only [kind] at complete
    exact dateFails complete
  | numberBounds =>
    simp only [kind] at complete
    obtain ⟨bounded,bounds,read,each⟩ := complete
    exact numberFails bounded read each
  | confirmation =>
    simp only [kind] at complete
    obtain ⟨b,answer⟩ : ∃ b, d.checkConfirmation v ctx = .ok b := confirmationAnswers complete
    simp [answer]

end Descriptor

section Evaluation
variable {t : Translator} {strict : Bool} {v : Value} {ctx : FieldContext}

theorem keyEntryPlain {d : Descriptor} (entry : d.isKeyEntry v ctx = true) : d.strain? v ctx = none := by
  simp only [Descriptor.isKeyEntry,Bool.and_eq_true,beq_iff_eq] at entry
  obtain ⟨⟨⟨kind,_⟩,empty⟩,_⟩ := entry
  cases v <;> simp [isEmptyText] at empty
  simp [Descriptor.strain?,kind,Value.writable]

theorem evaluateFails {d : Descriptor} (complete : d.Complete) {f} :
    evaluate t strict d v ctx = .error f ↔ (d.strain? v ctx).map Failure.fault = some f := by
  unfold evaluate
  dsimp only
  cases entry : d.isKeyEntry v ctx with
  | true =>
    rw [keyEntryPlain entry]
    simp only [if_true]
    split <;> simp
  | false =>
    -- The check runs before anyone asks whether the field is exempt.
    have fails {f} : d.check strict v ctx = .error f ↔ _ := Descriptor.checkFails complete
    rw [← fails]
    simp only [Bool.false_eq_true,if_false]
    split
    · rename_i failed
      simp [failed]
    · rename_i passed
      rw [passed]
      split <;> simp

theorem evaluateAllFails {ds : List Descriptor} (complete : ∀ d ∈ ds, d.Complete) {f} :
    evaluateAll t strict v ctx ds = .error f ↔ (ds.findSome? (·.strain? v ctx)).map Failure.fault = some f := by
  induction ds with
  | nil => simp [evaluateAll]
  | cons d ds ih =>
    obtain ⟨first,others⟩ := List.forall_mem_cons.mp complete
    have fails {f} : evaluate t strict d v ctx = .error f ↔ _ := evaluateFails first
    rw [evaluateAll,List.findSome?_cons]
    cases strain : d.strain? v ctx with
    | some g =>
      have failed : evaluate t strict d v ctx = .error (.fault g) := fails.mpr (by rw [strain]; rfl)
      simp [failed]
    | none =>
      cases done : evaluate t strict d v ctx with
      | error g =>
        have failed := fails.mp done
        simp [strain] at failed
      | ok r =>
        rw [← ih others]
        dsimp only
        split <;> simp_all

theorem evaluateFieldFails {lastOnly : Bool} {p : Pipeline} (complete : ∀ d ∈ p.descriptors, d.Complete) {f} :
    evaluateField t strict lastOnly p v ctx = .error f ↔
      (p.descriptors.findSome? (·.strain? v ctx)).map Failure.fault = some f := by
  have fails {f} : evaluateAll t strict v { ctx with isRequired := p.isRequired } p.descriptors = .error f ↔
      (p.descriptors.findSome? (·.strain? v ctx)).map Failure.fault = some f := evaluateAllFails complete
  rw [← fails,evaluateField]
  split <;> simp_all

end Evaluation
end FormGuard
