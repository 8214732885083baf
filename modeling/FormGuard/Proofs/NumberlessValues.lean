import FormGuard.Proofs.LeadingNumbers
import FormGuard.Proofs.OperatorBounds

/-! Values without a number, under rules on numbers. What is no number is like nothing and stands in no order, so that it meets the
operators that ask for a difference, and no other. -/
namespace FormGuard
open Numeral

def Value.Numberless : Value → Prop
  | null | bool _ => True
  | int _ => False
  | float x => x = .nan
  | text s => leading? s.toList = none
  | v => v.writable = true

theorem integerValued {n : Int} {x} (made : Binary64.ofInt? n = some x) : x ≠ .nan := by
  have number := roundedNumber (n < 0) n.natAbs 1
  unfold Binary64.ofInt? at made
  split at made
  · contradiction
  · cases made
    exact valued number

theorem numberlessIff {v : Value} : leadingNumber v = .ok .nan ↔ v.Numberless := by
  cases v with
  | int n =>
    simp only [leadingNumber,Value.Numberless]
    cases made : Binary64.ofInt? n with
    | none => simp
    | some x => simp [integerValued made]
  | text s =>
    simp only [leadingNumber,Value.Numberless,Value.textOf,Value.writable,Value.plainText,if_true,bind,Except.bind]
    cases leads : leading? s.toList with
    | none => simp
    | some start =>
      cases read : readDecimal? start with
      | none => simp [read]
      | some x => simp [read,valued (leadingValued leads read)]
  | list items => simp [listNumber,Value.Numberless]
  | object fields => simp [objectNumber,Value.Numberless]
  | _ => simp [leadingNumber,Value.Numberless]

theorem nanHolds (op : Operator) (bound : Binary64) : op.holds (.number .nan) (.number bound) = decide (op = .different) := by
  cases op <;> rfl

theorem nanCompared {s : String} {op} (named : Operator.named? s = some op) (bound : Binary64) :
    compareNamed s (.number .nan) (.number bound) = decide (Operator.named? s = some .different) := by
  simp [compareNamed,named,nanHolds]

theorem nanMeets {c : Condition} (named : ∀ s ∈ c.operators, ∃ op, Operator.named? s = some op) {bounds : List Binary64}
    (count : bounds.length = c.operators.length) : c.meetsEach (.number .nan) (bounds.map .number) = true ↔
      ∀ s ∈ c.operators, Operator.named? s = some .different := by
  have paired {s bound} (inside : (s,bound) ∈ c.operators.zip (bounds.map .number)) :
      compareNamed s (.number .nan) bound = decide (Operator.named? s = some .different) := by
    obtain ⟨operator,limit⟩ := List.of_mem_zip inside
    obtain ⟨op,known⟩ := named s operator
    obtain ⟨x,_,rfl⟩ := List.mem_map.mp limit
    exact nanCompared known x
  have first : (c.operators.zip (bounds.map Operand.number)).map Prod.fst = c.operators :=
    List.map_fst_zip (by simp [count])
  rw [Condition.meetsEach,List.all_eq_true]
  constructor
  · intro each s operator
    rw [← first] at operator
    obtain ⟨⟨s,bound⟩,inside,rfl⟩ := List.mem_map.mp operator
    exact of_decide_eq_true ((paired inside).symm.trans (each _ inside))
  · rintro each ⟨s,bound⟩ inside
    exact (paired inside).trans (decide_eq_true (each s (List.of_mem_zip inside).1))

theorem numberlessJudged {d : Descriptor} (declared : d.Declared) (kind : d.kind = .numberBounds)
    (count : d.params.length = d.condition.operators.length) (filled : 0 < d.params.length)
    (numbers : ∀ q ∈ d.params, RuleDefinition.isNumber q = true) (t : Translator) (strict : Bool) {ctx : FieldContext}
    (required : ctx.isRequired = true) (enabled : ctx.isDisabled = false) {v : Value} (numberless : leadingNumber v = .ok .nan) :
    ∃ r, evaluate t strict d v ctx = .ok r ∧
      (r.valid = true ↔ ∀ s ∈ d.condition.operators, Operator.named? s = some .different) := by
  have limits := boundsMapped fun q member => RuleDefinition.numberIff.mp (numbers q member)
  have bounded := (Descriptor.boundedCounts declared.condition).mpr ⟨count,filled⟩
  have within : withinBounds d.condition (.number .nan) ((d.params.map boundRead).map .number) =
      .ok (d.condition.meetsEach (.number .nan) ((d.params.map boundRead).map .number)) :=
    Descriptor.withinWhole declared.condition bounded (by simp)
  have judged : d.check strict v ctx = .ok (d.condition.meetsEach (.number .nan) ((d.params.map boundRead).map .number)) := by
    simp only [Descriptor.check,kind,Descriptor.checkNumber,limits,numberless,bind,Except.bind,within,liftFault]
  have plain : d.isKeyEntry v ctx = false := by simp [Descriptor.isKeyEntry,kind]
  have exposed : ctx.exempts v = false := by simp [FieldContext.exempts,required,enabled]
  obtain ⟨r,evaluated,verdict⟩ := exposedVerdict (t := t) plain exposed judged
  exact ⟨r,evaluated,by rw [verdict,nanMeets declared.condition.named (by rw [List.length_map,count])]⟩

namespace Catalog
variable {c : Catalog} {rules : String} {p : Pipeline} {d : Descriptor}

theorem bundledCompares (same : SameBook bundled c) (remembers : c.Remembers) (read : (c.parse rules).1 = .ok p)
    (inside : d ∈ p.descriptors) (kind : d.kind = .numberBounds) : ∃ s ∈ d.condition.operators, Operator.named? s ≠ some .different := by
  obtain ⟨token,rule,found,described⟩ := parsedEach remembers read d inside
  have each := bundledEach (fun rule => rule.kind != .numberBounds ||
    rule.condition.operators.any fun s => Operator.named? s != some .different) (by decide) same found
  have plain : rule.name ≠ customRule := fun named =>
    RuleDefinition.customUnbounded named described (bundledBounded same remembers read inside (.inr kind))
  have gives := describedGives described plain
  rw [gives.condition]
  simpa [← gives.kind,kind] using each

/-- A value without a number passes exactly if all operators of the rule ask for a difference; over the bundled catalog, none does. -/
theorem numberlessVerdict (checked : c.Checked) (read : (c.parse rules).1 = .ok p) (inside : d ∈ p.descriptors)
    (kind : d.kind = .numberBounds) (count : d.params.length = d.condition.operators.length) (filled : 0 < d.params.length)
    (numbers : ∀ q ∈ d.params, RuleDefinition.isNumber q = true) (t : Translator) (strict : Bool) {ctx : FieldContext}
    (required : ctx.isRequired = true) (enabled : ctx.isDisabled = false) {v : Value} (numberless : leadingNumber v = .ok .nan) :
    v.Numberless ∧ ∃ r, evaluate t strict d v ctx = .ok r ∧
      (r.valid = true ↔ ∀ s ∈ d.condition.operators, Operator.named? s = some .different) ∧
      (SameBook bundled c → r.valid = false) := by
  obtain ⟨r,evaluated,met⟩ := numberlessJudged (parsedDeclared checked read d inside) kind count filled numbers t strict required
    enabled numberless
  refine ⟨numberlessIff.mp numberless,r,evaluated,met,fun same => ?_⟩
  obtain ⟨s,operator,other⟩ := bundledCompares same checked.remembers read inside kind
  exact Bool.eq_false_iff.mpr fun passes => other (met.mp passes s operator)

def demanded : FieldContext := { enabled with isRequired := true }

theorem lettersOnly : (Value.text "abc").Numberless := show leading? "abc".toList = none by decide

theorem wordsRefused : ∃ p d r, (bundled.parse "between_num:1,5").1 = .ok p ∧ d ∈ p.descriptors ∧
    evaluate untranslated false d (.text "abc") demanded = .ok r ∧ r.valid = false := by
  obtain ⟨p,read,inside⟩ := betweenRead
  obtain ⟨_,r,judged,_,shipped⟩ := numberlessVerdict bundledChecked read inside rfl rfl (by decide) (by decide) untranslated false
    (show demanded.isRequired = true from rfl) rfl (v := .text "abc") (numberlessIff.mpr lettersOnly)
  exact ⟨p,_,r,read,inside,judged,shipped (.refl _)⟩

def otherRules : Value :=
  .object [("rules",.object [
    ("other",.object [("kind",.text "conditionalNumber"),("condition",.text "!="),("params",.int 1),("message",.text "SAME")])])]

def otherCatalog : Catalog := ⟨Catalog.table? otherRules >>= (Table.get? · "rules") >>= Catalog.table?,some [],[]⟩

theorem otherChecked : otherCatalog.Checked :=
  ⟨⟨otherRules,otherCatalog,Schema.checkedMeets.mp (by decide),rfl,.refl _⟩,freshRemembers rfl⟩

theorem wordsDiffer : otherCatalog.Checked ∧ ∃ p d r, (otherCatalog.parse "other:5").1 = .ok p ∧ d ∈ p.descriptors ∧
    d.kind = .numberBounds ∧ d.condition.operators = ["!="] ∧ d.params = ["5"] ∧ RuleDefinition.isNumber "5" = true ∧
    leadingNumber (.text "abc") = .ok .nan ∧
    evaluate untranslated false d (.text "abc") demanded = .ok r ∧ r.valid = true := by
  have read : (otherCatalog.parse "other:5").1.toOption.map Pipeline.descriptors =
      some [⟨"other",.numberBounds,"SAME",none,"",["5"],.single "!=",none⟩] := by decide
  obtain ⟨p,read,inside⟩ := parsedSole read
  have wordless := numberlessIff.mpr lettersOnly
  obtain ⟨r,judged,met⟩ := numberlessJudged (parsedDeclared otherChecked read _ inside) rfl rfl (by decide) (by decide) untranslated false
    (show demanded.isRequired = true from rfl) rfl wordless
  exact ⟨otherChecked,p,_,r,read,inside,rfl,rfl,rfl,by decide,wordless,judged,met.mpr (by decide)⟩

end Catalog
end FormGuard
