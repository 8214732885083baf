import FormGuard.Proofs.DateReading
import FormGuard.Proofs.DeclaredRules
import FormGuard.Proofs.WrittenRules

/-! Bounds and their operators. Where a descriptor has as many bounds as its condition has operators, each bound is compared under
a whole operator; otherwise no value passes, unless under single characters of an operator. Whether every token of a rule comes
to as many is a matter of the rule's arity. -/
namespace FormGuard
open Text

namespace Condition

def operators : Condition → List String
  | absent => []
  | single s => [s]
  | several ops => ops

def meetsEach (c : Condition) (x : Operand) (bounds : List Operand) : Bool :=
  (c.operators.zip bounds).all fun (s,bound) => compareNamed s x bound

theorem Declared.named {c : Condition} (declared : c.Declared) : ∀ s ∈ c.operators, ∃ op, Operator.named? s = some op := by
  cases declared with
  | absent => exact List.forall_mem_nil _
  | single named => simpa [operators] using ⟨_,named⟩
  | pair first second => simpa [operators] using ⟨⟨_,first⟩,_,second⟩

end Condition

theorem operatorShort {s op} (named : Operator.named? s = some op) : s.toList.length ≤ 2 := by
  have each : ∀ e ∈ Operator.spellings, e.1.toList.length ≤ 2 := by decide
  exact each _ (memOfGet (t := Operator.spellings) named)

/-- Two bounds under a single operator, the value standing to each as one character of the operator has it. -/
def Condition.Splits (c : Condition) (x : Operand) (bounds : List Operand) : Prop :=
  ∃ s first second low high, c = .single s ∧ s.toList = [first,second] ∧ bounds = [low,high] ∧
    compareNamed (String.singleton first) x low = true ∧ compareNamed (String.singleton second) x high = true

namespace Descriptor
variable {d : Descriptor} {x : Operand} {bounds : List Operand}

theorem boundedCounts (declared : d.condition.Declared) :
    d.Bounded ↔ d.params.length = d.condition.operators.length ∧ 0 < d.params.length := by
  unfold Bounded
  generalize d.condition = condition at declared
  cases declared with
  | absent => exact iff_of_false id fun ⟨empty,filled⟩ => Nat.ne_of_gt filled empty
  | single => exact (and_iff_left_of_imp fun one => by rw [one]; decide).symm
  | pair => exact ⟨fun ⟨two,_⟩ => ⟨two,by rw [two]; decide⟩,fun ⟨two,_⟩ => ⟨two,rfl⟩⟩

theorem withinWhole (declared : d.condition.Declared) (bounded : d.Bounded) (each : bounds.length = d.params.length) :
    withinBounds d.condition x bounds = .ok (d.condition.meetsEach x bounds) := by
  obtain ⟨count,filled⟩ := (boundedCounts declared).mp bounded
  rw [← each] at count filled
  generalize d.condition = condition at declared count
  cases declared with
  | absent => exact absurd count (Nat.ne_of_gt filled)
  | single =>
    obtain ⟨bound,rfl⟩ := List.length_eq_one_iff.mp count
    simp [withinBounds,Condition.meetsEach,Condition.operators]
  | @pair s t =>
    obtain ⟨low,high,rfl⟩ := List.length_eq_two.mp count
    have first : Condition.side (.several [s,t]) 0 = .ok s := rfl
    have second : Condition.side (.several [s,t]) 1 = .ok t := rfl
    cases lower : compareNamed s x low <;>
      simp [withinBounds,first,second,Condition.meetsEach,Condition.operators,lower,bind,Except.bind,pure,Except.pure]

theorem withinSplit (declared : d.condition.Declared) (few : d.params.length ≤ 2) (unbounded : ¬ d.Bounded)
    (each : bounds.length = d.params.length) (passes : withinBounds d.condition x bounds = .ok true) : d.condition.Splits x bounds := by
  rw [boundedCounts declared,← each] at unbounded
  rw [← each] at few
  generalize d.condition = condition at declared unbounded passes
  match bounds,few with
  | [],_ => contradiction
  | [bound],_ =>
    cases declared with
    | single => simp [Condition.operators] at unbounded
    | absent => cases passes
    | pair => cases passes
  | [low,high],_ =>
    obtain ⟨a,first,rest⟩ := bindOk.mp passes
    split at rest
    · rename_i lower
      obtain ⟨b,second,upper⟩ := bindOk.mp rest
      cases declared with
      | absent => cases first
      | pair => simp [Condition.operators] at unbounded
      | @single s op named =>
        have short := operatorShort named
        unfold Condition.side at first second
        rcases chars : s.toList with _ | ⟨i,_ | ⟨j,_ | ⟨k,cs⟩⟩⟩
        · simp [chars] at first
        · simp [chars] at second
        · simp only [chars,List.getElem?_cons_zero,List.getElem?_cons_succ,Except.ok.injEq] at first second
          subst first second
          exact ⟨s,i,j,low,high,rfl,chars,rfl,lower,Except.ok.inj upper⟩
        · simp [chars] at short
    · cases rest

end Descriptor

/-! ## Every token of a rule -/

theorem datesWritten (l : Layout) : ∃ p : String, p ≠ "" ∧ ',' ∉ p.toList ∧ ∃ i, l.read p.toList = .ok i := by
  cases l with
  | iso => exact ⟨"2024-01-01",by decide,by decide,succeeds (by decide)⟩
  | usShort => exact ⟨"01-01-24",by decide,by decide,succeeds (by decide)⟩
  | usLong => exact ⟨"01-01-2024",by decide,by decide,succeeds (by decide)⟩
  | euroShort => exact ⟨"01-01-24",by decide,by decide,succeeds (by decide)⟩
  | euroLong => exact ⟨"01-01-2024",by decide,by decide,succeeds (by decide)⟩

namespace RuleDefinition
variable {d : RuleDefinition}

def Fixed (d : RuleDefinition) : Prop :=
  ∀ t, d.pattern = some t → ¬ Pattern.placeholder 1 <:+: t.toList ∧ ¬ Pattern.placeholder 2 <:+: t.toList

theorem fixedPattern (fixed : d.Fixed) {params : List String} (few : params.length ≤ 2) : d.buildPattern params = d.pattern := by
  unfold buildPattern
  cases given : d.pattern with
  | none => rfl
  | some t =>
    obtain ⟨first,second⟩ := fixed t given
    rw [Option.map_some,fillNone first second (by simpa using few),String.ofList_toList]

theorem someSuits (d : RuleDefinition) : ∃ p, p ≠ "" ∧ ',' ∉ p.toList ∧ d.Suits p := by
  unfold Suits
  cases d.paramType with
  | integer =>
    have digit : '0' ≤ '1' ∧ '1' ≤ '9' := by decide
    have only : "1".toList = ['1'] := rfl
    exact ⟨"1",by decide,by decide,by decide,by rw [only]; exact List.forall_mem_singleton.mpr digit⟩
  | number =>
    have read : (Numeral.readDecimal? "1".toList).any (!·.isNan) = true := by decide
    obtain ⟨x,read,number⟩ := (Option.any_eq_true _ _).mp read
    exact ⟨"1",by decide,by decide,x,read,by simpa using number⟩
  | date =>
    obtain ⟨l,named⟩ : ∃ l, Layout.resolve false (.text d.layoutName) = .ok l := by
      unfold Layout.resolve
      split <;> exact ⟨_,rfl⟩
    obtain ⟨p,filled,one,i,read⟩ := datesWritten l
    exact ⟨p,filled,one,i,(readDateOk named).mpr read⟩
  | free => exact ⟨"1",by decide,by decide,trivial⟩

theorem takesCount (fixed : d.Fixed) (plain : d.name ≠ customRule) (few : d.mostParams ≤ 2) {custom t e}
    (described : d.describe custom t = .ok e) {n : Nat} (least : d.leastParams ≤ n) (most : n ≤ d.mostParams) :
    ∃ t' e', d.describe custom t' = .ok e' ∧ e'.params.length = n ∧ e'.condition = d.condition := by
  obtain ⟨p,filled,one,suits⟩ := d.someSuits
  have gives := describedGives described plain
  have readable : ∀ pattern, d.pattern = some pattern → ∃ node, Pattern.read .none pattern.toList = .ok node := by
    intro pattern given
    have most := gives.most
    have readable := gives.readable
    rw [gives.pattern,fixedPattern fixed (by omega),given] at readable
    exact Clause.readableOk.mp readable
  have length : (List.replicate n p).length = n := List.length_replicate
  have takes : d.Takes (List.replicate n p) := by
    refine ⟨by rwa [length],by rwa [length],fun q inside => ?_,fun q whole _ => ?_,fun pattern built => ?_⟩
    · rwa [List.eq_of_mem_replicate inside]
    · have inside : q ∈ List.replicate n p := by simp [whole]
      rwa [List.eq_of_mem_replicate inside]
    · rw [fixedPattern fixed (by omega)] at built
      exact readable pattern built
  have arranged : d.arrangeParams (List.replicate n p) = List.replicate n p :=
    arrangeSame (fun q inside => by rwa [List.eq_of_mem_replicate inside]) takes.single
  exact ⟨_,_,describeTaken (t := ⟨d.name,List.replicate n p,""⟩) plain takes arranged custom,length,rfl⟩

theorem boundedIff (declared : d.Declared) (fixed : d.Fixed) (plain : d.name ≠ customRule) {custom t e}
    (described : d.describe custom t = .ok e) :
    (∀ custom t e, d.describe custom t = .ok e → e.Bounded) ↔ d.bounded = true := by
  constructor
  · intro every
    have gives := describedGives described plain
    have least := gives.least
    have most := gives.most
    have few := declared.most
    have only {n : Nat} (low : d.leastParams ≤ n) (high : n ≤ d.mostParams) : n = d.condition.operators.length ∧ 0 < n := by
      obtain ⟨t',e',described',length,condition⟩ := takesCount fixed plain few described low high
      have counts := (Descriptor.boundedCounts (condition ▸ declared.condition)).mp (every _ _ _ described')
      rwa [length,condition] at counts
    obtain ⟨now,filled⟩ := only least most
    have operators := declared.condition
    unfold bounded
    cases condition : d.condition with
    | absent =>
      rw [condition] at now
      exact absurd now (Nat.ne_of_gt filled)
    | single s =>
      have one : d.condition.operators.length = 1 := by rw [condition]; rfl
      have low : d.leastParams = 1 := by
        by_contra other
        have none := only (n := 0) (by omega) (by omega)
        omega
      have high : d.mostParams = 1 := by
        by_contra other
        have two := only (n := 2) (by omega) (by omega)
        omega
      simp [low,high]
    | several ops =>
      rw [condition] at operators
      cases operators with
      | pair =>
        have two : d.condition.operators.length = 2 := by rw [condition]; rfl
        have high : d.mostParams = 2 := by omega
        have low : d.leastParams = 2 := by
          by_contra other
          have one := only (n := 1) (by omega) (by omega)
          omega
        simp [low,high]
  · intro bounded custom t e described
    exact ((describedGives described plain).bounds bounded).1

theorem customUnbounded (named : d.name = customRule) {custom t e} (described : d.describe custom t = .ok e) : ¬ e.Bounded := by
  cases custom with
  | none => simp [describe,named] at described
  | some clause =>
    obtain rfl := (customDescribe named).mp described
    exact id

end RuleDefinition

namespace Catalog
variable {c : Catalog} {rules : String} {p : Pipeline} {d : Descriptor}

theorem bundledBounded (same : SameBook bundled c) (remembers : c.Remembers) (read : (c.parse rules).1 = .ok p)
    (inside : d ∈ p.descriptors) (kind : d.kind = .dateBounds ∨ d.kind = .numberBounds) : d.Bounded := by
  have complete := parsedComplete (bundledSound same) remembers read d inside
  unfold Descriptor.Complete at complete
  rcases kind with kind | kind <;> rw [kind] at complete
  · exact complete.bounded
  · exact complete.1

/-- With as many bounds as declared operators, every bound is compared under one of these, whole; otherwise no value passes, unless
under the characters of a single one. The bundled rules bring as many. Of other rules, the custom one brings none; one whose arity asks
for as many always does, and without places in its pattern only such a one. -/
theorem operatorBounds (checked : c.Checked) (read : (c.parse rules).1 = .ok p) (inside : d ∈ p.descriptors) :
    (d.Bounded ↔ d.params.length = d.condition.operators.length ∧ 0 < d.params.length) ∧
    (∀ s ∈ d.condition.operators, ∃ op, Operator.named? s = some op) ∧
    (d.Bounded → ∀ x bounds, bounds.length = d.params.length →
      withinBounds d.condition x bounds = .ok (d.condition.meetsEach x bounds)) ∧
    (¬ d.Bounded → ∀ x bounds, bounds.length = d.params.length → withinBounds d.condition x bounds = .ok true →
      d.condition.Splits x bounds) ∧
    (SameBook bundled c → d.kind = .dateBounds ∨ d.kind = .numberBounds → d.Bounded) ∧
    ∃ token rule, c.find token.name = .ok rule ∧ rule.describe p.custom token = .ok d ∧
      (rule.name = customRule → ¬ d.Bounded) ∧
      (rule.name ≠ customRule → rule.bounded = true → d.Bounded) ∧
      (rule.name ≠ customRule → rule.Fixed →
        ((∀ custom t e, rule.describe custom t = .ok e → e.Bounded) ↔ rule.bounded = true)) := by
  have declared := parsedDeclared checked read d inside
  obtain ⟨token,rule,found,described⟩ := parsedEach checked.remembers read d inside
  refine ⟨Descriptor.boundedCounts declared.condition,declared.condition.named,
    fun bounded _ _ => Descriptor.withinWhole declared.condition bounded,
    fun unbounded _ _ => Descriptor.withinSplit declared.condition declared.few unbounded,
    fun same => bundledBounded same checked.remembers read inside,token,rule,found,described,fun custom => ?_,fun plain bounded => ?_,
    fun plain fixed => RuleDefinition.boundedIff (foundDeclared checked found) fixed plain described⟩
  · exact RuleDefinition.customUnbounded custom described
  · exact ((describedGives described plain).bounds bounded).1

theorem betweenRead : ∃ p, (bundled.parse "between_num:1,5").1 = .ok p ∧
    ⟨"between_num",.numberBounds,"INVALID_BETWEEN_NUM",none,"",["1","5"],.several [">=","<="],none⟩ ∈ p.descriptors :=
  parsedSole (by decide)

theorem bothBoundsWhole : bundled.Checked ∧ ∃ p d, (bundled.parse "between_num:1,5").1 = .ok p ∧ d ∈ p.descriptors ∧ d.Bounded ∧
    withinBounds d.condition (.value (.int 5)) [.value (.int 1),.value (.int 5)] = .ok true := by
  obtain ⟨p,read,inside⟩ := betweenRead
  obtain ⟨_,_,whole,_,shipped,_⟩ := operatorBounds bundledChecked read inside
  have bounded := shipped (.refl _) (.inr rfl)
  exact ⟨bundledChecked,p,_,read,inside,bounded,(whole bounded _ _ rfl).trans rfl⟩

def capRules : Value :=
  .object [("rules",.object [
    ("cap",.object [("kind",.text "conditionalNumber"),("condition",.text "<="),("params",.int 2),("message",.text "TOO_MUCH")])])]

def capCatalog : Catalog := ⟨Catalog.table? capRules >>= (Table.get? · "rules") >>= Catalog.table?,some [],[]⟩

theorem capChecked : capCatalog.Checked :=
  ⟨⟨capRules,capCatalog,Schema.checkedMeets.mp (by decide),rfl,.refl _⟩,freshRemembers rfl⟩

/-- One operator and two bounds: the value is compared as less than the first, not as less or equal. -/
theorem operatorCutUp : capCatalog.Checked ∧ ∃ p d, (capCatalog.parse "cap:5:9").1 = .ok p ∧ d ∈ p.descriptors ∧
    d.kind = .numberBounds ∧ d.condition.operators = ["<="] ∧ d.params = ["5","9"] ∧ ¬ d.Bounded ∧
    (∀ bound ∈ [5,9], compareNamed "<=" (.value (.int 5)) (.value (.int bound)) = true) ∧
    ∃ r, evaluate untranslated false d (.int 5) enabled = .ok r ∧ r.valid = false := by
  have read : (capCatalog.parse "cap:5:9").1.toOption.map Pipeline.descriptors =
      some [⟨"cap",.numberBounds,"TOO_MUCH",none,"",["5","9"],.single "<=",none⟩] := by decide +kernel
  obtain ⟨p,read,inside⟩ := parsedSole read
  have judged : (evaluate untranslated false ⟨"cap",.numberBounds,"TOO_MUCH",none,"",["5","9"],.single "<=",none⟩ (.int 5)
      enabled).toOption.map RuleResult.valid = some false := by decide +kernel
  obtain ⟨r,judged,failed⟩ := Option.map_eq_some_iff.mp judged
  exact ⟨capChecked,p,_,read,inside,rfl,rfl,rfl,by simp [Descriptor.Bounded],by decide,r,answered judged,failed⟩

end Catalog
end FormGuard
