import FormGuard.Proofs.BundledCatalog
import FormGuard.Proofs.CaselessReading
import FormGuard.Proofs.CheckAnswers
import FormGuard.Proofs.PatternRoom
import FormGuard.Proofs.RuleReading
import Mathlib.Algebra.Ring.Int.Defs

/-! Rules whose accepted tokens can be judged. What each rule of a catalog has to bring is checked for the rule alone; then every
descriptor read over the catalog is complete, and a judgement breaks off over the value only. -/
namespace FormGuard
open Text

def dateRoom (i : Nat) : Nat := if i = 2 then 1 else 19

def fitsDates (pattern : String) : Bool :=
  pattern != "" && !occurs (Pattern.placeholder 1) pattern.toList && !occurs (Pattern.placeholder 2) pattern.toList &&
  match Pattern.read .caseless pattern.toList with
  | .ok node => node.opened && node.closed && (node.room? dateRoom).any (· ≤ 19)
  | .error _ => false

namespace RuleDefinition

def bounded (d : RuleDefinition) : Bool :=
  match d.condition with
  | .absent => false
  | .single _ => d.leastParams == 1 && d.mostParams == 1
  | .several ops => d.leastParams == 2 && d.mostParams == 2 && ops.length == 2

def dated (d : RuleDefinition) : Bool :=
  d.pattern.any fitsDates && d.dateFormat.any fun s => s != "" && (Layout.named? s).isSome

def sound (d : RuleDefinition) : Bool :=
  match d.kind with
  | .pattern => d.name == customRule || d.pattern.isSome
  | .dateBounds => d.name != customRule && d.bounded && d.dated
  | .numberBounds => d.name != customRule && d.bounded && d.paramType == .number
  | .confirmation => d.name != customRule && 1 ≤ d.leastParams

end RuleDefinition

theorem fillNone {template : List Char} (first : ¬ Pattern.placeholder 1 <:+: template)
    (second : ¬ Pattern.placeholder 2 <:+: template) {params : List (List Char)} (few : params.length ≤ 2) :
    Pattern.fill template params = template := by
  match params,few with
  | [],_ => rfl
  | [a],_ => simp [Pattern.fill,Pattern.fillFrom,replaceNone first]
  | [a,b],_ => simp [Pattern.fill,Pattern.fillFrom,replaceNone first,replaceNone second]

theorem datesFit {p : String} (fits : fitsDates p = true) {params : List String} (few : params.length ≤ 2) :
    String.ofList (Pattern.fill p.toList (params.map String.toList)) = p ∧ p ≠ "" ∧
    ∃ node, Pattern.read .caseless p.toList = .ok node ∧ ∀ cs, node.search cs = true → cs.length ≤ 20 := by
  unfold fitsDates at fits
  cases read : Pattern.read .caseless p.toList with
  | error defect => simp [read] at fits
  | ok node =>
    simp only [read,Bool.and_eq_true,bne_iff_ne,ne_eq,Bool.not_eq_true',← Bool.not_eq_true,occursIff,Option.any_eq_true,
      decide_eq_true_eq] at fits
    obtain ⟨⟨⟨some,first⟩,second⟩,⟨opened,closed⟩,m,room,short⟩ := fits
    refine ⟨?_,some,node,rfl,fun cs found => ?_⟩
    · rw [fillNone first second (by simpa using few),String.ofList_toList]
    · have := Pattern.searchShort opened closed room found
      omega

structure RuleDefinition.Gives (d : RuleDefinition) (t : Token) (e : Descriptor) : Prop where
  params : e.params = d.arrangeParams t.params
  least : d.leastParams ≤ e.params.length
  most : e.params.length ≤ d.mostParams
  suitable : d.checkParams e.params = .ok ()
  pattern : e.pattern = d.buildPattern e.params
  readable : d.checkPattern e.params e.pattern = .ok ()
  kind : e.kind = d.kind
  condition : e.condition = d.condition
  dateFormat : e.dateFormat = d.dateFormat

theorem describedGives {d : RuleDefinition} {custom t e} (described : d.describe custom t = .ok e) (plain : d.name ≠ customRule) :
    d.Gives t e := by
  unfold RuleDefinition.describe at described
  simp only [plain,if_false,bindOk] at described
  obtain ⟨params,arity,_,suitable,_,readable,last⟩ := described
  unfold RuleDefinition.checkArity at arity
  dsimp only at arity
  split at arity
  · rename_i enough
    cases arity
    cases last
    exact ⟨rfl,enough.1,enough.2,suitable,rfl,readable,rfl,rfl,rfl⟩
  · contradiction

namespace RuleDefinition.Gives
variable {d : RuleDefinition} {t : Token} {e : Descriptor}

theorem bounds (gives : d.Gives t e) (bounded : d.bounded = true) : e.Bounded ∧ e.params.length ≤ 2 := by
  have least := gives.least
  have most := gives.most
  unfold RuleDefinition.bounded at bounded
  unfold Descriptor.Bounded
  rw [gives.condition]
  split at bounded <;> simp_all <;> omega

theorem patterns (gives : d.Gives t e) (given : d.pattern.isSome = true) :
    ∃ p node, e.pattern = some p ∧ Pattern.read .caseless p.toList = .ok node := by
  obtain ⟨template,given⟩ := Option.isSome_iff_exists.mp given
  have readable := gives.readable
  have pattern := gives.pattern
  rw [RuleDefinition.buildPattern,given] at pattern
  rw [pattern] at readable
  obtain ⟨node,read⟩ := (Pattern.readCaseless _).mpr (Clause.readableOk.mp readable)
  exact ⟨_,node,pattern,read⟩

theorem dates (gives : d.Gives t e) (bounded : d.bounded = true) (dated : d.dated = true)
    (free : ∀ p ∈ t.params, ':' ∉ p.toList) : e.Dated := by
  obtain ⟨bounds,few⟩ := gives.bounds bounded
  simp only [RuleDefinition.dated,Bool.and_eq_true,Option.any_eq_true,bne_iff_ne] at dated
  obtain ⟨⟨template,given,fits⟩,s,format,some,known⟩ := dated
  obtain ⟨l,named⟩ := Option.isSome_iff_exists.mp known
  obtain ⟨same,filled,node,read,short⟩ := datesFit fits few
  refine ⟨⟨template,node,?_,filled,read,short⟩,⟨l,fun strict => ?_⟩,bounds,?_⟩
  · rw [gives.pattern,RuleDefinition.buildPattern,given,Option.map_some,same]
  · simp [Descriptor.layoutValue,gives.dateFormat,format,Layout.resolve,Value.truthy,Value.plainText,some,named]
  · rw [gives.params]
    exact d.arrangedParams free

theorem numbers (gives : d.Gives t e) (type : d.paramType = .number) :
    (e.params.mapM fun p => leadingNumber (.text p)) = .ok (e.params.map boundRead) :=
  boundsMapped fun p inside => by
    obtain ⟨expected,suits⟩ := paramsSuit gives.suitable p inside
    exact numberTaken type suits

end RuleDefinition.Gives

theorem describedComplete {d : RuleDefinition} (sound : d.sound = true) {custom t e} (described : d.describe custom t = .ok e)
    (free : ∀ p ∈ t.params, ':' ∉ p.toList)
    (clause : ∀ c, custom = some c → ∃ node, Pattern.read .none c.pattern.toList = .ok node) : e.Complete := by
  unfold RuleDefinition.sound at sound
  unfold Descriptor.Complete
  -- The clause of the custom rule was read when it was taken out; any other pattern was read as filled for this token.
  by_cases named : d.name = customRule
  · cases custom with
    | none => simp [RuleDefinition.describe,named] at described
    | some c =>
      obtain rfl := (customDescribe named).mp described
      cases kind : d.kind <;> simp [kind,named] at sound
      obtain ⟨node,read⟩ := (Pattern.readCaseless _).mpr (clause c rfl)
      exact ⟨_,node,rfl,read⟩
  · have gives := describedGives described named
    rw [gives.kind]
    cases kind : d.kind <;> simp [kind,named] at sound <;> dsimp only
    · exact gives.patterns sound
    · exact gives.dates sound.1 sound.2 free
    · exact ⟨(gives.bounds sound.1).1,_,gives.numbers sound.2,List.length_map ..⟩
    · have least := gives.least
      rintro none
      rw [none] at least
      simp at least
      omega

namespace Catalog

def Sound (c : Catalog) : Prop := ∀ name d, c.find name = .ok d → d.sound = true

theorem bundledSound {c : Catalog} (same : SameBook bundled c) : c.Sound :=
  fun _ _ => bundledEach RuleDefinition.sound (by decide +kernel) same

theorem eachComplete {c : Catalog} (sound : c.Sound) {custom}
    (clause : ∀ k, custom = some k → ∃ node, Pattern.read .none k.pattern.toList = .ok node) {ts ds}
    (each : List.Forall₂ (c.Describes custom) ts ds) : ∀ e ∈ ds, e.Complete := by
  induction each with
  | nil => exact List.forall_mem_nil _
  | cons described _ ih =>
    obtain ⟨token,d,named,found,described⟩ := describesIff.mp described
    exact List.forall_mem_cons.mpr ⟨describedComplete (sound _ d found) described (tokenParams named) clause,ih⟩

theorem parsedComplete {c : Catalog} (sound : c.Sound) (remembers : c.Remembers) {rules p} (read : (c.parse rules).1 = .ok p) :
    ∀ e ∈ p.descriptors, e.Complete := by
  have clause := fun k (given : p.custom = some k) => parsedClause remembers read given
  obtain ⟨source,custom,ds,_,each,rfl⟩ := (parsedIff remembers).mp read
  exact eachComplete sound clause each

/-- What is accepted over the bundled catalog can be judged on every value but those that strain one of its rules, by an
integer beyond the range of floats, by a separator before a number, or by an integer with more digits than a text of it may
have; the first rule that is strained breaks the judgement off. -/
theorem bundledEvaluates {c : Catalog} (same : SameBook bundled c) (remembers : c.Remembers) {rules p}
    (read : (c.parse rules).1 = .ok p) (t : Translator) (strict lastOnly : Bool) (v : Value) (ctx : FieldContext) :
    ((∃ o, evaluateField t strict lastOnly p v ctx = .ok o) ↔ ∀ d ∈ p.descriptors, d.strain? v ctx = none) ∧
    ∀ f, evaluateField t strict lastOnly p v ctx = .error f ↔
      ∃ g, f = .fault g ∧ p.descriptors.findSome? (·.strain? v ctx) = some g := by
  have fails {f} : evaluateField t strict lastOnly p v ctx = .error f ↔
      (p.descriptors.findSome? (·.strain? v ctx)).map Failure.fault = some f :=
    evaluateFieldFails (parsedComplete (bundledSound same) remembers read)
  have broken {f} : evaluateField t strict lastOnly p v ctx = .error f ↔
      ∃ g, f = .fault g ∧ p.descriptors.findSome? (·.strain? v ctx) = some g := by
    rw [fails,Option.map_eq_some_iff]
    exact exists_congr fun g => by rw [and_comm,eq_comm]
  refine ⟨?_,fun f => broken⟩
  rw [← List.findSome?_eq_none_iff]
  constructor
  · rintro ⟨o,judged⟩
    by_contra some
    obtain ⟨g,strained⟩ := Option.ne_none_iff_exists'.mp some
    cases judged.symm.trans (broken.mpr ⟨g,rfl,strained⟩)
  · intro none
    cases judged : evaluateField t strict lastOnly p v ctx with
    | ok o => exact ⟨o,rfl⟩
    | error f =>
      obtain ⟨g,_,strained⟩ := broken.mp judged
      cases none.symm.trans strained

def untranslated : Translator := ⟨[],[],"en"⟩

def enabled : FieldContext := ⟨"f",false,false,"text",some fun _ => .null⟩

def oneOfEach : String := "required|regex:m:=a|b:regex|between_num:1,5|date_iso_min:2020-01-01|match:other"

theorem everyKindJudged : SameBook bundled bundled ∧ bundled.Remembers ∧ ∃ p, (bundled.parse oneOfEach).1 = .ok p ∧
    p.descriptors.length = 5 ∧ ∃ o, evaluateField untranslated true false p (.list [.int 3,.null]) enabled = .ok o := by
  have read : (bundled.parse oneOfEach).1.toOption.map (fun p => (p.descriptors.length,
      p.descriptors.all fun d => d.strain? (.list [.int 3,.null]) enabled == none)) = some (5,true) := by decide +kernel
  obtain ⟨p,read,both⟩ := Option.map_eq_some_iff.mp read
  obtain ⟨five,plain⟩ := Prod.mk.inj both
  have remembers := bundledChecked.remembers
  refine ⟨.refl _,remembers,p,answered read,five,?_⟩
  exact (bundledEvaluates (.refl _) remembers (answered read) _ _ _ _ _).1.mpr (by simpa using plain)

theorem hugeIntegerUnjudged : ∃ p, (bundled.parse "min_num:5").1 = .ok p ∧
    evaluateField untranslated false false p (.int (10^309)) enabled = .error (.fault .overflow) ∧
    ¬ ∃ o, evaluateField untranslated false false p (.int (10^309)) enabled = .ok o := by
  have read : (bundled.parse "min_num:5").1.toOption.map
      (fun p => p.descriptors.findSome? (·.strain? (.int (10^309)) enabled)) = some (some .overflow) := by decide +kernel
  obtain ⟨p,read,strained⟩ := Option.map_eq_some_iff.mp read
  have complete := parsedComplete (bundledSound (.refl _)) bundledChecked.remembers (answered read)
  have breaks : evaluateField untranslated false false p (.int (10^309)) enabled = .error (.fault .overflow) :=
    (evaluateFieldFails complete).mpr (by rw [strained]; rfl)
  exact ⟨p,answered read,breaks,by rw [breaks]; rintro ⟨_,⟨⟩⟩⟩

end Catalog
end FormGuard
