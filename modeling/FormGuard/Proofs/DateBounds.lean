import FormGuard.Proofs.DatePatterns
import FormGuard.Proofs.RuleVerdicts

/-! Rules that compare dates. For each layout there is one with both bounds, one with the least date and one with the latest; what the
bundled catalog declares of all fifteen is checked once. A date as it is typed passes exactly if it is one of the calendar and lies
within the bounds in time. -/
namespace FormGuard
open Text

/-! ## The rules -/

inductive DateRange where
  | between
  | least
  | most
  deriving DecidableEq, Repr

namespace DateRange

def suffix : DateRange → String
  | between => "between"
  | least => "min"
  | most => "max"

def layoutPart : Layout → String
  | .iso => "iso"
  | .euroLong => "euro_long"
  | .euroShort => "euro_short"
  | .usLong => "us_long"
  | .usShort => "us_short"

def rule (r : DateRange) (l : Layout) : String := "date_" ++ layoutPart l ++ "_" ++ r.suffix

def count : DateRange → Nat
  | between => 2
  | _ => 1

def condition : DateRange → Condition
  | between => .several [">=","<="]
  | least => .single ">="
  | most => .single "<="

def Allows (r : DateRange) (bounds : List Instant) (i : Instant) : Prop :=
  match r,bounds with
  | between,[low,high] => low.elapsed ≤ i.elapsed ∧ i.elapsed ≤ high.elapsed
  | least,[low] => low.elapsed ≤ i.elapsed
  | most,[high] => i.elapsed ≤ high.elapsed
  | _,_ => False

theorem atLeast {i low : Instant} : Operator.atLeast.holds (.instant i) (.instant low) = true ↔ low.elapsed ≤ i.elapsed := by
  simp only [Operator.holds,Operand.standing,Instant.orderElapsed,Bool.or_eq_true,beq_iff_eq,Value.Standing.ordered.injEq,
    Nat.compare_eq_gt,Nat.compare_eq_eq]
  omega

theorem atMost {i high : Instant} : Operator.atMost.holds (.instant i) (.instant high) = true ↔ i.elapsed ≤ high.elapsed := by
  simp only [Operator.holds,Operand.standing,Instant.orderElapsed,Bool.or_eq_true,beq_iff_eq,Value.Standing.ordered.injEq,
    Nat.compare_eq_lt,Nat.compare_eq_eq]
  omega

theorem holdsBy {c : Condition} {count place : Nat} {op} (named : c.operator? count place = some op) {x bound : Operand} :
    c.HoldsAt count place x bound ↔ op.holds x bound = true := by
  simp [Condition.HoldsAt,named]

theorem conditionHolds {r : DateRange} {bounds : List Instant} (count : bounds.length = r.count) {i : Instant} :
    r.condition.Holds (.instant i) (bounds.map .instant) ↔ r.Allows bounds i := by
  cases r <;> simp only [DateRange.count,List.length_eq_one_iff,List.length_eq_two] at count
  case between =>
    obtain ⟨low,high,rfl⟩ := count
    exact Condition.holdsTwo.trans (and_congr ((holdsBy rfl).trans atLeast) ((holdsBy rfl).trans atMost))
  case least =>
    obtain ⟨low,rfl⟩ := count
    exact Condition.holdsOne.trans ((holdsBy rfl).trans atLeast)
  case most =>
    obtain ⟨high,rfl⟩ := count
    exact Condition.holdsOne.trans ((holdsBy rfl).trans atMost)

def fits (r : DateRange) (l : Layout) (d : RuleDefinition) : Bool :=
  d.kind == .dateBounds && d.paramType == .date && d.leastParams == r.count && d.mostParams == r.count &&
    d.condition == r.condition && d.dateFormat == some l.name && d.pattern == some (Bundled.datePattern l)

end DateRange

theorem Layout.nameResolved (l : Layout) (strict : Bool) : Layout.resolve strict (.text l.name) = .ok l := by
  cases l <;> rfl

theorem layoutNamed {d : RuleDefinition} {l : Layout} (format : d.dateFormat = some l.name) :
    Layout.resolve false (.text d.layoutName) = .ok l := by
  have named : d.layoutName = l.name := by cases l <;> simp [RuleDefinition.layoutName,format,Layout.name]
  rw [named]
  exact l.nameResolved false

theorem dateSuits {d : RuleDefinition} (type : d.paramType = .date) {l : Layout}
    (named : Layout.resolve false (.text d.layoutName) = .ok l) {p expected} (suits : d.suits p = .ok (true,expected)) :
    ∃ i, l.read p.toList = .ok i := by
  simp only [RuleDefinition.suits,type,bindOk] at suits
  obtain ⟨fine,reads,same⟩ := suits
  simp only [pure,Except.pure,Except.ok.injEq,Prod.mk.injEq] at same
  rw [same.1,RuleDefinition.isDate] at reads
  split at reads
  · rename_i i read
    exact ⟨i,(readDateOk named).mp read⟩
  all_goals cases reads

structure DateRange.Describes (r : DateRange) (l : Layout) (e : Descriptor) (bounds : List Instant) : Prop where
  kind : e.kind = .dateBounds
  condition : e.condition = r.condition
  layout (strict) : Layout.resolve strict e.layoutValue = .ok l
  pattern : e.pattern = some (Bundled.datePattern l)
  limits : List.Forall₂ (fun p b => l.read p.toList = .ok b) e.params bounds
  count : bounds.length = r.count

theorem DateRange.countFew (r : DateRange) : r.count ≤ 2 := by
  cases r <;> decide

theorem rangeDescribed {d : RuleDefinition} {r : DateRange} {l : Layout} (fits : r.fits l d = true) (sound : d.sound = true)
    {t : Token} {e : Descriptor} (gives : d.Gives t e) : ∃ bounds, r.Describes l e bounds := by
  simp only [DateRange.fits,Bool.and_eq_true,beq_iff_eq] at fits
  obtain ⟨⟨⟨⟨⟨⟨kind,type⟩,least⟩,most⟩,condition⟩,format⟩,pattern⟩ := fits
  have count : e.params.length = r.count := by
    have := gives.least
    have := gives.most
    omega
  have suited : ∀ p ∈ e.params, ∃ i, l.read p.toList = .ok i := fun p inside => by
    obtain ⟨expected,suits⟩ := paramsSuit gives.suitable p inside
    exact dateSuits type (layoutNamed format) suits
  obtain ⟨bounds,limits⟩ := everyRead.mpr suited
  refine ⟨bounds,gives.kind.trans kind,gives.condition.trans condition,fun strict => ?_,?_,limits,limits.length_eq.symm.trans count⟩
  · rw [Descriptor.layoutValue,gives.dateFormat,format]
    exact l.nameResolved strict
  -- The pattern has no place for a parameter, and stands as it is declared.
  · have written : fitsDates (Bundled.datePattern l) = true := by
      simp only [RuleDefinition.sound,kind,RuleDefinition.dated,pattern,Option.any_some,Bool.and_eq_true] at sound
      exact sound.2.1
    rw [gives.pattern,RuleDefinition.buildPattern,pattern]
    exact congrArg some (datesFit written (count.trans_le r.countFew)).1

/-! ## Typed dates -/

/-- A date as it is typed: two digits of a day and of a month, those of a year, one separator twice, and behind a long date perhaps
a time of day. It need not be one of the calendar. -/
structure TypedDate (l : Layout) where
  year : Nat
  month : Nat
  day : Nat
  separator : Char
  time : Option (Nat×Nat×Nat)
  shortYear : l.isShort = true → InWindow year
  longYear : l.isShort = false → 1900 ≤ year ∧ year ≤ 2099
  months : month < 100
  days : day < 100
  known : separator ∈ Layout.separators
  timeOk : ∀ h m s, time = some (h,m,s) → l.isShort = false ∧ h < 24 ∧ m < 60 ∧ s < 60

namespace TypedDate
variable {l : Layout}

def timeText (date : TypedDate l) : List Char :=
  match date.time with
  | some (h,m,s) => ' ' :: clockText h m s
  | none => []

def text (date : TypedDate l) : List Char := l.dateText date.separator date.year date.month date.day++date.timeText

def Names (date : TypedDate l) (i : Instant) : Prop :=
  i.year = date.year ∧ i.month = date.month ∧ i.day = date.day ∧ (i.hour,i.minute,i.second) = date.time.getD (0,0,0)

theorem behind (date : TypedDate l) : Pattern.Behind l date.timeText := by
  unfold timeText
  cases time : date.time with
  | none => exact .inl rfl
  | some t =>
    obtain ⟨long,clock⟩ := date.timeOk t.1 t.2.1 t.2.2 time
    exact .inr ⟨long,t.1,t.2.1,t.2.2,clock.1,clock.2.1,clock.2.2,rfl⟩

theorem covered (date : TypedDate l) : l.Covers date.year := by
  unfold Layout.Covers
  cases short : l.isShort with
  | true => exact date.shortYear short
  | false =>
    have := date.longYear short
    simp only [Bool.false_eq_true,if_false]
    omega

theorem timeRead (date : TypedDate l) : ∃ h m s, date.time.getD (0,0,0) = (h,m,s) ∧
    Layout.readTime? (l.timePart date.text) = some ((h : Int),(m : Int),(s : Int)) := by
  unfold text timeText
  cases time : date.time with
  | none => exact ⟨0,0,0,rfl,Layout.midnightRead (.inr rfl)⟩
  | some t =>
    obtain ⟨h,m,s⟩ := t
    obtain ⟨long,hours,minutes,seconds⟩ := date.timeOk h m s time
    refine ⟨h,m,s,rfl,?_⟩
    dsimp only
    rw [Layout.longTime long]
    exact Layout.clockRead (by omega) (by omega) (by omega)

theorem typedRead (date : TypedDate l) {i : Instant} : l.read date.text = .ok i ↔ date.Names i := by
  obtain ⟨h,m,s,clock,time⟩ := date.timeRead
  rw [Layout.readIff,show l.reading? date.text = _ from Layout.dateRead date.known date.covered date.months date.days time,
    Option.some.injEq,Instant.reading,Names,clock]
  simp only [Instant.Reading.mk.injEq,Nat.cast_inj,Prod.mk.injEq,eq_comm]

theorem filled (date : TypedDate l) : date.text ≠ [] := by
  have long : 0 < date.text.length := by
    rw [text,List.length_append,Layout.dateLength,Layout.width]
    split <;> omega
  exact List.ne_nil_of_length_pos long

theorem typedFound (date : TypedDate l) {i : Instant} (names : date.Names i) :
    FoundIn (Bundled.datePattern l) (String.ofList date.text) := by
  obtain ⟨_,month,day,_⟩ := names
  have dateOk := i.dateOk
  have := Instant.monthShort i.year i.month
  refine ⟨_,Pattern.datePatternRead l,?_⟩
  rw [String.toList_ofList]
  exact Pattern.dateFound date.known date.longYear (by omega) (by omega) date.behind

theorem typedPasses (date : TypedDate l) {r : DateRange} {d : Descriptor} {bounds} (describes : r.Describes l d bounds) {strict ctx} :
    d.Passes strict ctx (.text (String.ofList date.text)) ↔ ∃ i, date.Names i ∧ r.Allows bounds i := by
  constructor
  · intro passes
    cases passes with
    | dated _ _ layout read limits within =>
      cases (describes.layout strict).symm.trans layout
      cases (eachRead.mpr describes.limits).symm.trans (eachRead.mpr limits)
      rw [describes.condition,DateRange.conditionHolds describes.count] at within
      exact ⟨_,date.typedRead.mp (by simpa [Value.shown,Value.plainText] using read),within⟩
    | _ other => simp [describes.kind] at other
  · rintro ⟨i,names,allowed⟩
    have fits : d.Fits (.text (String.ofList date.text)) := fun p given => by
      cases describes.pattern.symm.trans given
      exact date.typedFound names
    have day : l.read (Value.text (String.ofList date.text)).shown.toList = .ok i := by
      simpa [Value.shown,Value.plainText] using date.typedRead.mpr names
    refine .dated describes.kind fits (describes.layout strict) day describes.limits ?_
    rwa [describes.condition,DateRange.conditionHolds describes.count]

end TypedDate

namespace Catalog

theorem rangesFit {c : Catalog} (same : SameBook bundled c) {name d} (found : c.find name = .ok d) {r : DateRange} {l : Layout}
    (named : d.name = r.rule l) : r.fits l d = true := by
  have each := bundledEach (fun d => [DateRange.between,.least,.most].all fun r =>
    [Layout.iso,.euroLong,.euroShort,.usLong,.usShort].all fun l => d.name != r.rule l || r.fits l d) (by decide +kernel) same found
  simp only [List.all_eq_true,Bool.or_eq_true,bne_iff_ne] at each
  exact (each r (by cases r <;> simp) l (by cases l <;> simp)).resolve_left (· named)

/-- A typed date passes exactly if it is one of the calendar and lies, in time, between the dates that the parameters read as, or on the
right side of the only one; these always read as dates, and the judgement always comes to an answer. -/
theorem dateRangeVerdict {c : Catalog} (same : SameBook bundled c) (remembers : c.Remembers) {rules p}
    (read : (c.parse rules).1 = .ok p) {d} (inside : d ∈ p.descriptors) {r : DateRange} {l : Layout} (named : d.ruleName = r.rule l)
    (t : Translator) (strict : Bool) {ctx : FieldContext} (enabled : ctx.isDisabled = false) (date : TypedDate l) :
    ∃ bounds, List.Forall₂ (fun p b => l.read p.toList = .ok b) d.params bounds ∧ bounds.length = r.count ∧
    ∃ verdict, evaluate t strict d (.text (String.ofList date.text)) ctx = .ok verdict ∧
      (verdict.valid = true ↔ ∃ i, date.Names i ∧ r.Allows bounds i) := by
  obtain ⟨token,rule,found,described⟩ := parsedEach remembers read d inside
  have name : rule.name = r.rule l := (describedRule described).1.symm.trans named
  have gives := describedGives described (by rw [name]; cases r <;> cases l <;> decide)
  obtain ⟨bounds,describes⟩ := rangeDescribed (rangesFit same found name) (bundledSound same _ rule found) gives
  have few : d.params.length ≤ 2 := (describes.limits.length_eq.trans describes.count).trans_le r.countFew
  have complete := parsedComplete (bundledSound same) remembers read d inside
  refine ⟨bounds,describes.limits,describes.count,?_⟩
  cases judged : evaluate t strict d (.text (String.ofList date.text)) ctx with
  | error f =>
    have strained := (evaluateFails complete).mp judged
    simp [Descriptor.strain?,describes.kind,Value.writable] at strained
  | ok verdict =>
    have spared : ctx.exempts (.text (String.ofList date.text)) = false := by
      simp [FieldContext.exempts,isEmpty,isEmptyText,enabled,date.filled]
    refine ⟨verdict,rfl,(evaluatedVerdict few judged).2.trans ?_⟩
    rw [spared,date.typedPasses describes]
    simp

def leapEvening : TypedDate .usLong where
  year := 2024
  month := 2
  day := 29
  separator := '.'
  time := some (23,58,0)
  shortYear := nofun
  longYear _ := by decide
  months := by decide
  days := by decide
  known := by decide
  timeOk := by
    rintro _ _ _ ⟨⟩
    decide

def leapInstant : Instant := ⟨2024,2,29,23,58,0,by decide,by decide,by decide⟩

theorem leapEveningPasses : SameBook bundled bundled ∧ bundled.Remembers ∧ ∃ p d verdict,
    (bundled.parse "date_us_long_between:02/29/2024,3-1-2024").1 = .ok p ∧ d ∈ p.descriptors ∧
    d.ruleName = DateRange.between.rule .usLong ∧ enabled.isDisabled = false ∧
    evaluate untranslated true d (.text "02.29.2024 23:58:00") enabled = .ok verdict ∧ verdict.valid = true := by
  have read : (bundled.parse "date_us_long_between:02/29/2024,3-1-2024").1.toOption.map (fun p => p.descriptors.map fun d =>
      (d.ruleName,d.params)) = some [(DateRange.between.rule .usLong,["02/29/2024","3-1-2024"])] := by decide +kernel
  obtain ⟨p,read,each⟩ := Option.map_eq_some_iff.mp read
  obtain ⟨d,single,same⟩ := List.map_eq_singleton_iff.mp each
  obtain ⟨named,params⟩ := Prod.mk.inj same
  have inside : d ∈ p.descriptors := by simp [single]
  obtain ⟨bounds,limits,_,verdict,judged,valid⟩ := dateRangeVerdict (.refl _) bundledChecked.remembers (answered read) inside
    named untranslated true (show enabled.isDisabled = false from rfl) leapEvening
  have days : ["02/29/2024","3-1-2024"].mapM (fun p => Layout.usLong.read p.toList) =
      .ok [⟨2024,2,29,0,0,0,by decide,by decide,by decide⟩,⟨2024,3,1,0,0,0,by decide,by decide,by decide⟩] := by decide +kernel
  rw [params] at limits
  cases (eachRead.mpr limits).symm.trans days
  refine ⟨.refl _,bundledChecked.remembers,p,d,verdict,answered read,inside,named,rfl,judged,valid.mpr ⟨leapInstant,?_,?_⟩⟩
  · exact ⟨rfl,rfl,rfl,rfl⟩
  · exact ⟨DateRange.atLeast.mp (by decide),DateRange.atMost.mp (by decide)⟩

end Catalog
end FormGuard
