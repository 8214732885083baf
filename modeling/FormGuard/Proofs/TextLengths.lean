import FormGuard.Proofs.CountedTexts
import FormGuard.Proofs.RuleVerdicts
import FormGuard.Proofs.SoundRules

/-! Rules on the length of a text. What the bundled catalog declares of each is checked once; every descriptor read over it then
has the pattern that counts between the numbers its parameters spell. -/
namespace FormGuard
open Pattern (Digits Enough counting counted)

inductive Measure where
  | between
  | least
  | most
  | exact
  deriving DecidableEq, Repr

namespace Measure

def rule : Measure → String
  | between => "between_len"
  | least => "min_len"
  | most => "max_len"
  | exact => "exact_len"

def count : Measure → Nat
  | between => 2
  | _ => 1

def template : Measure → String
  | between => "$1,$2"
  | least => "$1,"
  | most => "0,$1"
  | exact => "$1"

def Allows (m : Measure) (params : List Nat) (n : Nat) : Prop :=
  match m,params with
  | between,[lo,hi] => lo ≤ n ∧ n ≤ hi
  | least,[lo] => lo ≤ n
  | most,[hi] => n ≤ hi
  | exact,[k] => n = k
  | _,_ => False

def top? : Measure → List Nat → Option Nat
  | least,_ => none
  | _,params => params.getLast?

def floor : Measure → List Nat → Nat
  | most,_ => 0
  | _,params => params.headD 0

theorem allowsIff {m : Measure} {params : List Nat} (count : params.length = m.count) {n} :
    m.Allows params n ↔ Enough (m.floor params) (m.top? params) n := by
  cases m <;> simp only [Measure.count,List.length_eq_one_iff,List.length_eq_two] at count
  case between =>
    obtain ⟨lo,hi,rfl⟩ := count
    simp [Allows,Enough,floor,top?]
  case exact =>
    obtain ⟨k,rfl⟩ := count
    simp only [Allows,Enough,floor,top?,List.getLast?_singleton,Option.some.injEq,forall_eq',List.headD_cons]
    omega
  all_goals
    obtain ⟨k,rfl⟩ := count
    simp [Allows,Enough,floor,top?]

theorem patternRead {m : Measure} {ps : List (List Char)} (count : ps.length = m.count)
    (digits : ∀ p ∈ ps, Digits p ∧ p ≠ []) {node}
    (read : Pattern.read .caseless (Pattern.fill (counting m.template.toList) ps) = .ok node) :
    node = counted (m.floor (ps.map Numeral.natOf)) (m.top? (ps.map Numeral.natOf)) ∧
      ∀ k, m.top? (ps.map Numeral.natOf) = some k → m.floor (ps.map Numeral.natOf) ≤ k := by
  have free {a} (digits : Digits a) : '\\' ∉ a := digits.lacks rfl
  cases m <;> simp only [Measure.count,List.length_eq_one_iff,List.length_eq_two] at count
  case between =>
    obtain ⟨a,b,rfl⟩ := count
    obtain ⟨⟨low,some⟩,high,other⟩ : (Digits a ∧ a ≠ []) ∧ Digits b ∧ b ≠ [] := by simpa using digits
    rw [show template between = "$1,$2" from rfl,Pattern.filledBoth low high] at read
    have := Pattern.countingNode (by simp [free low,free high]) (Pattern.braceTwo low some high) read
    simpa [floor,top?,other] using this
  case least =>
    obtain ⟨a,rfl⟩ := count
    obtain ⟨low,some⟩ : Digits a ∧ a ≠ [] := by simpa using digits
    rw [show template least = "$1," from rfl,Pattern.filledLeast low] at read
    have := Pattern.countingNode (by simp [free low]) (Pattern.braceTwo low some (List.forall_mem_nil _)) read
    simpa [floor,top?] using this
  case most =>
    obtain ⟨a,rfl⟩ := count
    obtain ⟨high,some⟩ : Digits a ∧ a ≠ [] := by simpa using digits
    rw [show template most = "0,$1" from rfl,Pattern.filledMost high] at read
    have zero : Digits ['0'] := by
      rintro c ⟨⟩
      · rfl
      · contradiction
    have := Pattern.countingNode (by simp [free high]) (Pattern.braceTwo zero (List.cons_ne_nil _ _) high) read
    simpa [floor,top?,some,show Numeral.natOf ['0'] = 0 from rfl] using this
  case exact =>
    obtain ⟨a,rfl⟩ := count
    obtain ⟨same,some⟩ : Digits a ∧ a ≠ [] := by simpa using digits
    rw [show template exact = "$1" from rfl,Pattern.filledExact same] at read
    have := Pattern.countingNode (free same) (Pattern.braceOne same some) read
    simpa [floor,top?,some] using this

def fits (m : Measure) (d : RuleDefinition) : Bool :=
  d.kind == .pattern && d.paramType == .integer && d.leastParams == m.count && d.mostParams == m.count &&
    d.pattern == some (String.ofList (counting m.template.toList))

end Measure

def Descriptor.numbers (d : Descriptor) : List Nat := d.params.map fun p => Numeral.natOf p.toList

theorem textEvaluates {d : Descriptor} (kind : d.kind = .pattern) {p node} (given : d.pattern = some p)
    (read : Pattern.read .caseless p.toList = .ok node) (t : Translator) (strict : Bool) {ctx : FieldContext}
    (enabled : ctx.isDisabled = false) {s : String} (filled : s ≠ "") :
    ∃ r, evaluate t strict d (.text s) ctx = .ok r ∧ r.valid = node.search s.toList := by
  have typed : d.isKeyEntry (.text s) ctx = false := by simp [Descriptor.isKeyEntry,isEmptyText,filled]
  have spared : ctx.exempts (.text s) = false := by simp [FieldContext.exempts,isEmpty,isEmptyText,filled,enabled]
  have checked : d.check strict (.text s) ctx = .ok (node.search s.toList) := by
    simp [Descriptor.check,kind,Descriptor.checkText,enabled,Descriptor.checkText.search,subjectShown,Value.writable,
      Value.shown,Value.plainText,liftFault,given,searchIn,read,bind,Except.bind]
  exact exposedVerdict typed spared checked

theorem lengthDescribed {d : RuleDefinition} {m : Measure} (fits : m.fits d = true) {t : Token} {e : Descriptor}
    (gives : d.Gives t e) :
    e.kind = .pattern ∧ e.params.length = m.count ∧ (∀ p ∈ e.params, RuleDefinition.isWhole p = true) ∧
    (∃ p, e.pattern = some p ∧ Pattern.read .caseless p.toList = .ok (counted (m.floor e.numbers) (m.top? e.numbers))) ∧
    ∀ k, m.top? e.numbers = some k → m.floor e.numbers ≤ k := by
  simp only [Measure.fits,Bool.and_eq_true,beq_iff_eq] at fits
  obtain ⟨⟨⟨⟨kind,type⟩,least⟩,most⟩,pattern⟩ := fits
  have count : e.params.length = m.count := by
    have := gives.least
    have := gives.most
    omega
  have whole : ∀ p ∈ e.params, RuleDefinition.isWhole p = true := fun p inside => by
    obtain ⟨expected,suits⟩ := paramsSuit gives.suitable p inside
    simp only [RuleDefinition.suits,type,Except.ok.injEq,Prod.mk.injEq] at suits
    exact suits.1
  obtain ⟨p,node,given,read⟩ := gives.patterns (by rw [pattern]; rfl)
  have built := gives.pattern.symm.trans given
  rw [RuleDefinition.buildPattern,pattern] at built
  obtain rfl := Option.some.inj built
  rw [String.toList_ofList,String.toList_ofList] at read
  have digits : ∀ ds ∈ e.params.map String.toList, Digits ds ∧ ds ≠ [] := by
    simp only [List.mem_map,forall_exists_index,and_imp,forall_apply_eq_imp_iff₂]
    intro p inside
    have := whole p inside
    simp only [RuleDefinition.isWhole,Bool.and_eq_true,List.all_eq_true] at this
    refine ⟨this.2,?_⟩
    simpa using this.1
  obtain ⟨rfl,ordered⟩ := Measure.patternRead (by rwa [List.length_map]) digits read
  rw [List.map_map] at read ordered
  exact ⟨gives.kind.trans kind,count,whole,⟨_,given,by simpa [Descriptor.numbers,Function.comp_def] using read⟩,
    by simpa [Descriptor.numbers,Function.comp_def] using ordered⟩

namespace Catalog

theorem lengthsFit {c : Catalog} (same : SameBook bundled c) {name d} (found : c.find name = .ok d) {m : Measure}
    (named : d.name = m.rule) : m.fits d = true := by
  have each := bundledEach (fun d => [Measure.between,.least,.most,.exact].all fun m => d.name != m.rule || m.fits d)
    (by decide) same found
  simp only [List.all_eq_true,Bool.or_eq_true,bne_iff_ne] at each
  exact (each m (by cases m <;> simp)).resolve_left (· named)

/-- A text passes if it has as many characters as the rule allows, and also if a line break ends it that is one character more
than the greatest number; only there does the verdict depart from the number of characters. -/
theorem lengthVerdict {c : Catalog} (same : SameBook bundled c) (remembers : c.Remembers) {rules p}
    (read : (c.parse rules).1 = .ok p) {d} (inside : d ∈ p.descriptors) {m : Measure} (named : d.ruleName = m.rule)
    (t : Translator) (strict : Bool) {ctx : FieldContext} (enabled : ctx.isDisabled = false) {s : String} (filled : s ≠ "") :
    d.params.length = m.count ∧ (∀ p ∈ d.params, RuleDefinition.isWhole p = true) ∧
    ∃ r, evaluate t strict d (.text s) ctx = .ok r ∧
      (r.valid = true ↔ m.Allows d.numbers s.length ∨
        ∃ front, s.toList = front++['\n'] ∧ m.Allows d.numbers front.length) ∧
      ((r.valid = true ↔ m.Allows d.numbers s.length) ↔
        ¬ ∃ front, s.toList = front++['\n'] ∧ m.top? d.numbers = some front.length) := by
  obtain ⟨token,rule,found,described⟩ := parsedEach remembers read d inside
  have name : rule.name = m.rule := (describedRule described).1.symm.trans named
  have gives := describedGives described (by rw [name]; cases m <;> decide)
  obtain ⟨kind,count,whole,⟨pattern,given,read⟩,ordered⟩ := lengthDescribed (lengthsFit same found name) gives
  obtain ⟨r,judged,verdict⟩ := textEvaluates kind given read t strict enabled filled
  have allows n : m.Allows d.numbers n ↔ Enough (m.floor d.numbers) (m.top? d.numbers) n :=
    Measure.allowsIff (by rwa [Descriptor.numbers,List.length_map])
  refine ⟨count,whole,r,judged,?_⟩
  simp only [verdict,allows,← String.length_toList]
  exact ⟨Pattern.countedSearch ordered _,Pattern.countedAmiss ordered _⟩

theorem brokenLineWithin : ∃ p d r, (bundled.parse "between_len:2:3").1 = .ok p ∧ d ∈ p.descriptors ∧
    evaluate untranslated false d (.text "a\nb") enabled = .ok r ∧ r.valid = true := by
  have read : (bundled.parse "between_len:2:3").1.toOption.map (fun p => p.descriptors.map fun d => (d.ruleName,d.numbers)) =
      some [("between_len",[2,3])] := by decide +kernel
  obtain ⟨p,read,each⟩ := Option.map_eq_some_iff.mp read
  obtain ⟨d,single,same⟩ := List.map_eq_singleton_iff.mp each
  obtain ⟨named,numbers⟩ := Prod.mk.inj same
  have inside : d ∈ p.descriptors := by simp [single]
  obtain ⟨_,_,r,judged,verdict,_⟩ := lengthVerdict (.refl _) bundledChecked.remembers (answered read) inside (m := .between)
    named untranslated false (show enabled.isDisabled = false from rfl) (s := "a\nb") (by decide)
  refine ⟨p,d,r,answered read,inside,judged,verdict.mpr (.inl ?_)⟩
  rw [numbers]
  exact ⟨by decide,by decide⟩

theorem lastBreakUncounted : ∃ p d r, (bundled.parse "exact_len:2").1 = .ok p ∧ d ∈ p.descriptors ∧
    d.ruleName = "exact_len" ∧ d.numbers = [2] ∧ evaluate untranslated false d (.text "ab\n") enabled = .ok r ∧
    r.valid = true ∧ "ab\n".length ≠ 2 := by
  have judged : (bundled.parse "exact_len:2").1.toOption.map (fun p => p.descriptors.map fun d =>
      (d.ruleName,d.numbers,(evaluate untranslated false d (.text "ab\n") enabled).toOption.map (·.valid))) =
        some [("exact_len",[2],some true)] := by decide +kernel
  obtain ⟨p,read,each⟩ := Option.map_eq_some_iff.mp judged
  obtain ⟨d,single,same⟩ := List.map_eq_singleton_iff.mp each
  simp only [Prod.mk.injEq,Option.map_eq_some_iff] at same
  obtain ⟨named,numbers,r,judged,valid⟩ := same
  exact ⟨p,d,r,answered read,by simp [single],named,numbers,answered judged,valid,by decide⟩

end Catalog
end FormGuard
