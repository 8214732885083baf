import FormGuard.Proofs.DeclaredRules
import FormGuard.Proofs.FieldVerdict

/-! When a field is valid. Each kind of rule demands something of its own: a pattern that occurs in the text, bounds that hold for
a date or a number, or the value of another field. A field meets its rules if it meets every one, or is spared them all. -/
namespace FormGuard
open Text

def Value.shown : Value → String
  | .null => ""
  | v => v.plainText

theorem subjectShown (v : Value) : subjectOf v = if v.writable then .ok v.shown else .error .badValue := by
  cases v <;> rfl

theorem emptyText {v : Value} : isEmptyText v = true ↔ v = .text "" := by
  cases v <;> simp [isEmptyText]

theorem emptyIff {v : Value} : isEmpty v = true ↔ v = .null ∨ v = .text "" := by
  cases v <;> simp [isEmpty,isEmptyText]

def FoundIn (pattern text : String) : Prop :=
  ∃ node, Pattern.read .caseless pattern.toList = .ok node ∧ node.search text.toList = true

theorem searchFound {p s b} (ok : searchIn p s = .ok b) : b = true ↔ FoundIn p s := by
  unfold searchIn at ok
  unfold FoundIn
  cases read : Pattern.read .caseless p.toList with
  | error defect => simp [read] at ok
  | ok node =>
    simp only [read,Except.ok.injEq] at ok
    simp [ok]

theorem foundEmpty (s : String) : FoundIn "" s := by
  refine ⟨.empty,rfl,?_⟩
  unfold Pattern.Node.search
  cases s.toList <;> simp [Pattern.searchFrom,Pattern.run]

theorem nothingVisible : ¬ FoundIn nonEmptyPattern "" := by
  rintro ⟨node,read,found⟩
  have absent : (Pattern.read .caseless nonEmptyPattern.toList).toOption.all (!·.search []) = true := by decide +kernel
  rw [read] at absent
  simp [Except.toOption] at absent
  simp [absent] at found

namespace Condition

/-- The operator for one of so many bounds. A single one serves a single bound whole, and two bounds by its characters. -/
def operator? (c : Condition) (count place : Nat) : Option Operator :=
  match c with
  | .absent => none
  | .single s => if count = 1 then Operator.named? s else s.toList[place]?.bind fun ch => Operator.named? (String.singleton ch)
  | .several ops => if count = 1 then none else ops[place]?.bind Operator.named?

def HoldsAt (c : Condition) (count place : Nat) (x bound : Operand) : Prop :=
  ∃ op, c.operator? count place = some op ∧ op.holds x bound = true

def Holds (c : Condition) (x : Operand) (bounds : List Operand) : Prop :=
  ∀ i bound, bounds[i]? = some bound → c.HoldsAt bounds.length i x bound

theorem holdsOne {c : Condition} {x bound : Operand} : c.Holds x [bound] ↔ c.HoldsAt 1 0 x bound := by
  refine ⟨fun all => all 0 bound rfl,fun first i b place => ?_⟩
  match i,place with
  | 0,place =>
    cases place
    exact first

theorem holdsTwo {c : Condition} {x low high : Operand} :
    c.Holds x [low,high] ↔ c.HoldsAt 2 0 x low ∧ c.HoldsAt 2 1 x high := by
  refine ⟨fun all => ⟨all 0 low rfl,all 1 high rfl⟩,fun ⟨first,second⟩ i b place => ?_⟩
  match i,place with
  | 0,place =>
    cases place
    exact first
  | 1,place =>
    cases place
    exact second

theorem sideOperator {c : Condition} {i name} (side : c.side i = .ok name) : c.operator? 2 i = Operator.named? name := by
  unfold Condition.side at side
  unfold Condition.operator?
  cases c with
  | absent => contradiction
  | single s =>
    dsimp only at side ⊢
    cases found : s.toList[i]? with
    | none => simp [found] at side
    | some ch =>
      simp only [found,Except.ok.injEq] at side
      simp [side]
  | several ops =>
    dsimp only at side ⊢
    cases found : ops[i]? with
    | none => simp [found] at side
    | some op =>
      simp only [found,Except.ok.injEq] at side
      simp [side]

end Condition

theorem comparedNamed {name a b} : compareNamed name a b = true ↔ ∃ op, Operator.named? name = some op ∧ op.holds a b = true := by
  unfold compareNamed
  cases Operator.named? name <;> simp

theorem comparedSide {c : Condition} {i name x bound} (side : c.side i = .ok name) :
    compareNamed name x bound = true ↔ c.HoldsAt 2 i x bound := by
  rw [comparedNamed,← Condition.sideOperator side]
  rfl

theorem withinHolds {c : Condition} {x : Operand} {bounds : List Operand} (few : bounds.length ≤ 2) {b}
    (ok : withinBounds c x bounds = .ok b) : b = true ↔ c.Holds x bounds := by
  match bounds,few with
  | [],_ => contradiction
  | [bound],_ =>
    rw [Condition.holdsOne]
    cases c with
    | single s =>
      cases ok
      exact comparedNamed
    | _ =>
      cases ok
      simp [Condition.HoldsAt,Condition.operator?]
  | [low,high],_ =>
    rw [Condition.holdsTwo]
    obtain ⟨first,side,ok⟩ := bindOk.mp ok
    rw [← comparedSide side]
    split at ok
    · rename_i held
      obtain ⟨second,side,ok⟩ := bindOk.mp ok
      cases ok
      rw [comparedSide side,and_iff_right held]
    · rename_i failed
      cases ok
      simp [failed]

theorem liftOk {α} {x : Except Fault α} {a : α} : liftFault x = .ok a ↔ x = .ok a := by
  cases x <;> simp [liftFault]

theorem eachRead {ε α β} {f : α → Except ε β} {as : List α} {bs} :
    as.mapM f = .ok bs ↔ List.Forall₂ (fun a b => f a = .ok b) as bs := by
  induction as generalizing bs with
  | nil => simp [pure,Except.pure,eq_comm]
  | cons a as ih =>
    simp only [List.mapM_cons,bindOk,ih,List.forall₂_cons_left_iff]
    constructor
    · rintro ⟨b,first,rest,others,⟨⟩⟩
      exact ⟨b,rest,first,others,rfl⟩
    · rintro ⟨b,rest,first,others,rfl⟩
      exact ⟨b,first,rest,others,rfl⟩

def FieldContext.other (ctx : FieldContext) (d : Descriptor) : Value :=
  match ctx.lookup,d.params with
  | some lookup,name :: _ => lookup name
  | _,_ => .null

namespace Descriptor

def Fits (d : Descriptor) (v : Value) : Prop := ∀ p, d.pattern = some p → FoundIn p v.shown

/-- What a rule demands of a value, by its kind. -/
inductive Passes (strict : Bool) (ctx : FieldContext) (v : Value) (d : Descriptor) : Prop
  | found {p} (kind : d.kind = .pattern) (given : d.pattern = some p) (found : FoundIn p v.shown)
      (there : v = .null → ctx.isRequired = false ∧ p ≠ nonEmptyPattern)
      (typed : v = .text "" → ctx.isNumberInput = false)
  | dated {l i bounds} (kind : d.kind = .dateBounds) (fits : d.Fits v) (layout : Layout.resolve strict d.layoutValue = .ok l)
      (date : l.read v.shown.toList = .ok i) (limits : List.Forall₂ (fun p b => l.read p.toList = .ok b) d.params bounds)
      (within : d.condition.Holds (.instant i) (bounds.map .instant))
  | numbered {x bounds} (kind : d.kind = .numberBounds) (number : leadingNumber v = .ok x)
      (limits : List.Forall₂ (fun p b => leadingNumber (.text p) = .ok b) d.params bounds)
      (within : d.condition.Holds (.number x) (bounds.map .number))
  | confirmed (kind : d.kind = .confirmation) (same : (ctx.other d).equals v = true)

variable {d : Descriptor} {strict : Bool} {v : Value} {ctx : FieldContext} {b : Bool}

theorem textPasses (kind : d.kind = .pattern) (enabled : ctx.isDisabled = false)
    (typed : v = .text "" → ctx.isNumberInput = false) (ok : d.checkText v ctx = .ok b) : b = true ↔ d.Passes strict ctx v := by
  have demands : d.Passes strict ctx v ↔ ∃ p, d.pattern = some p ∧ FoundIn p v.shown ∧
      (v = .null → ctx.isRequired = false ∧ p ≠ nonEmptyPattern) := by
    constructor
    · intro passes
      cases passes with
      | found _ given found there => exact ⟨_,given,found,there⟩
      | _ other => simp [kind] at other
    · rintro ⟨p,given,found,there⟩
      exact .found kind given found there typed
  have search (there : v = .null → ctx.isRequired = false ∧ d.pattern ≠ some nonEmptyPattern)
      (ok : checkText.search d v = .ok b) : b = true ↔ d.Passes strict ctx v := by
    rw [demands]
    unfold checkText.search at ok
    rw [subjectShown] at ok
    split at ok
    · cases given : d.pattern with
      | none => simp [given,liftFault,bind,Except.bind] at ok
      | some p =>
        simp only [given,liftFault,bind,Except.bind] at ok
        rw [given] at there
        simpa [searchFound ok] using fun _ => there
    · simp [liftFault,bind,Except.bind] at ok
  unfold checkText at ok
  rw [if_neg (by simp [enabled])] at ok
  split at ok
  · split at ok
    · rename_i absent
      cases ok
      rw [demands]
      refine iff_of_false (by decide) ?_
      rintro ⟨p,given,_,there⟩
      obtain ⟨optional,other⟩ := there rfl
      rcases absent with same | required
      · exact other (Option.some.inj (given.symm.trans same))
      · simp [optional] at required
    · rename_i present
      exact search (fun _ => by simpa [and_comm] using present) ok
  · rename_i some
    exact search (fun none => absurd none some) ok

def precheck (d : Descriptor) (s : String) : Except Failure Bool :=
  match d.pattern with
  | none => .ok true
  | some p => if p = "" then .ok true else searchIn p s

theorem compareEq : checkDate.compare strict d v = liftFault (subjectOf v) >>= fun s => d.precheck s >>= fun fits =>
    if fits then
      match Layout.resolve strict d.layoutValue with
      | .error p => .error (.problem p)
      | .ok l => d.compareDates l s
    else .ok false := by
  unfold checkDate.compare precheck
  refine congrArg (liftFault (subjectOf v) >>= ·) (funext fun s => ?_)
  cases d.pattern with
  | none => rfl
  | some p =>
    dsimp only
    split <;> rfl

theorem precheckFits {fits} (ok : d.precheck v.shown = .ok fits) : fits = true ↔ d.Fits v := by
  unfold precheck at ok
  unfold Fits
  cases given : d.pattern with
  | none =>
    simp only [given] at ok
    cases ok
    simp
  | some p =>
    simp only [given] at ok
    split at ok
    · rename_i empty
      cases ok
      simp [empty,foundEmpty]
    · simp [searchFound ok]

theorem instantsRead {l s i bounds} : compareDates.instants d l s = .ok (i,bounds) ↔
    l.read s.toList = .ok i ∧ List.Forall₂ (fun p b => l.read p.toList = .ok b) d.params bounds := by
  unfold compareDates.instants
  simp only [bindOk,pure,Except.pure,Except.ok.injEq,Prod.mk.injEq,eachRead]
  constructor
  · rintro ⟨_,date,_,limits,rfl,rfl⟩
    exact ⟨date,limits⟩
  · rintro ⟨date,limits⟩
    exact ⟨i,date,bounds,limits,rfl,rfl⟩

theorem compareHolds (few : d.params.length ≤ 2) {l s} (ok : d.compareDates l s = .ok b) :
    b = true ↔ ∃ i bounds, l.read s.toList = .ok i ∧ List.Forall₂ (fun p b => l.read p.toList = .ok b) d.params bounds ∧
      d.condition.Holds (.instant i) (bounds.map .instant) := by
  unfold compareDates at ok
  cases instants : compareDates.instants d l s with
  | ok pair =>
    obtain ⟨i,bounds⟩ := pair
    obtain ⟨date,limits⟩ := instantsRead.mp instants
    simp only [instants,liftOk] at ok
    have holds := withinHolds (by simpa [← limits.length_eq] using few) ok
    rw [holds]
    refine ⟨fun within => ⟨i,bounds,date,limits,within⟩,fun ⟨j,others,date',limits',within⟩ => ?_⟩
    cases instants.symm.trans (instantsRead.mpr ⟨date',limits'⟩)
    exact within
  | error f =>
    have wrong : b = false := by
      rw [instants] at ok
      cases f <;> cases ok
      rfl
    refine iff_of_false (by simp [wrong]) fun ⟨i,bounds,date,limits,_⟩ => ?_
    cases instants.symm.trans (instantsRead.mpr ⟨date,limits⟩)

theorem datePasses (few : d.params.length ≤ 2) (kind : d.kind = .dateBounds) (ok : d.checkDate strict v = .ok b) :
    b = true ↔ d.Passes strict ctx v := by
  have demands : d.Passes strict ctx v ↔ d.Fits v ∧ ∃ l, Layout.resolve strict d.layoutValue = .ok l ∧
      ∃ i bounds, l.read v.shown.toList = .ok i ∧ List.Forall₂ (fun p b => l.read p.toList = .ok b) d.params bounds ∧
        d.condition.Holds (.instant i) (bounds.map .instant) := by
    constructor
    · intro passes
      cases passes with
      | dated _ fits layout date limits within => exact ⟨fits,_,layout,_,_,date,limits,within⟩
      | _ other => simp [kind] at other
    · rintro ⟨fits,_,layout,_,_,date,limits,within⟩
      exact .dated kind fits layout date limits within
  rw [demands]
  have compare (ok : checkDate.compare strict d v = .ok b) : b = true ↔ d.Fits v ∧ ∃ l,
      Layout.resolve strict d.layoutValue = .ok l ∧ ∃ i bounds, l.read v.shown.toList = .ok i ∧
        List.Forall₂ (fun p b => l.read p.toList = .ok b) d.params bounds ∧ d.condition.Holds (.instant i) (bounds.map .instant) := by
    rw [compareEq] at ok
    obtain ⟨s,subject,ok⟩ := bindOk.mp ok
    rw [liftOk,subjectShown] at subject
    split at subject
    · cases subject
      obtain ⟨fits,pre,ok⟩ := bindOk.mp ok
      rw [← precheckFits pre]
      cases fits with
      | false =>
        cases ok
        simp
      | true =>
        simp only [if_true] at ok
        split at ok
        · contradiction
        · rename_i l layout
          simp [compareHolds few ok,layout]
    · contradiction
  unfold checkDate at ok
  split at ok
  · split at ok
    · rename_i visible
      cases ok
      exact iff_of_false (by decide) fun ⟨fits,_⟩ => nothingVisible (fits _ visible)
    · exact compare ok
  · exact compare ok

theorem numberPasses (few : d.params.length ≤ 2) (kind : d.kind = .numberBounds) (ok : d.checkNumber v = .ok b) :
    b = true ↔ d.Passes strict ctx v := by
  simp only [checkNumber,liftOk,bindOk,eachRead] at ok
  obtain ⟨bounds,limits,x,number,within⟩ := ok
  rw [withinHolds (by simpa [← limits.length_eq] using few) within]
  refine ⟨fun holds => .numbered kind number limits holds,fun passes => ?_⟩
  cases passes with
  | numbered _ number' limits' holds =>
    cases number.symm.trans number'
    cases (eachRead.mpr limits).symm.trans (eachRead.mpr limits')
    exact holds
  | _ other => simp [kind] at other

theorem confirmationPasses (kind : d.kind = .confirmation) (ok : d.checkConfirmation v ctx = .ok b) :
    b = true ↔ d.Passes strict ctx v := by
  have same : b = (ctx.other d).equals v := by
    unfold checkConfirmation at ok
    unfold FieldContext.other
    split at ok
    · rename_i unseen
      cases ok
      rw [unseen]
    · rename_i seen
      split at ok
      · contradiction
      · rename_i named
        cases ok
        rw [seen,named]
  rw [same]
  refine ⟨fun equal => .confirmed kind equal,fun passes => ?_⟩
  cases passes with
  | confirmed _ equal => exact equal
  | _ other => simp [kind] at other

theorem checkPasses (few : d.params.length ≤ 2) (enabled : ctx.isDisabled = false) (plain : d.isKeyEntry v ctx = false)
    (ok : d.check strict v ctx = .ok b) : b = true ↔ d.Passes strict ctx v := by
  unfold check at ok
  split at ok
  · rename_i kind
    refine textPasses kind enabled ?_ ok
    rintro rfl
    simpa [isKeyEntry,kind,enabled,isEmptyText] using plain
  · rename_i kind
    exact datePasses few kind ok
  · rename_i kind
    exact numberPasses few kind ok
  · rename_i kind
    exact confirmationPasses kind ok

theorem entryFails (entry : d.isKeyEntry v ctx = true) : ¬ d.Passes strict ctx v := by
  simp only [isKeyEntry,Bool.and_eq_true,beq_iff_eq] at entry
  obtain ⟨⟨⟨kind,_⟩,empty⟩,number⟩ := entry
  obtain rfl := emptyText.mp empty
  intro passes
  cases passes with
  | found _ _ _ _ typed => simp [typed rfl] at number
  | _ other => simp [kind] at other

end Descriptor

theorem evaluatedVerdict {t strict v ctx r} {d : Descriptor} (few : d.params.length ≤ 2)
    (ok : evaluate t strict d v ctx = .ok r) :
    r.descriptor = d ∧ (r.valid = true ↔ ctx.exempts v = true ∨ d.Passes strict ctx v) := by
  unfold evaluate at ok
  dsimp only at ok
  split at ok
  · contradiction
  · rename_i passed checked
    have verdict : passed = true ∨ ctx.exempts v = true ↔ ctx.exempts v = true ∨ d.Passes strict ctx v := by
      rw [or_comm]
      -- The demand is what the check tests only while the field is enabled: of a disabled field no pattern is sought.
      by_cases exempt : ctx.exempts v = true
      · simp [exempt]
      · have enabled : ctx.isDisabled = false := by
          cases off : ctx.isDisabled
          · rfl
          · simp [FieldContext.exempts,off] at exempt
        refine or_congr_right ?_
        split at checked
        · rename_i entry
          cases checked
          exact iff_of_false (by decide) (Descriptor.entryFails entry)
        · rename_i plain
          exact Descriptor.checkPasses few enabled (by simpa using plain) checked
    rw [← verdict]
    split at ok
    · rename_i valid
      cases ok
      exact ⟨rfl,by simpa using valid⟩
    · rename_i invalid
      cases ok
      exact ⟨rfl,by simpa using invalid⟩

theorem eachValid {spared : Prop} {meets : Descriptor → Prop} {ds rs}
    (each : List.Forall₂ (fun d (r : RuleResult) => r.descriptor = d ∧ (r.valid = true ↔ spared ∨ meets d)) ds rs) :
    rs.all (·.valid) = true ↔ spared ∨ ∀ d ∈ ds, meets d := by
  induction each with
  | nil => simp
  | cons first _ ih =>
    rw [List.all_cons,Bool.and_eq_true,first.2,ih,← or_and_left,List.forall_mem_cons]

def Pipeline.Spares (p : Pipeline) (ctx : FieldContext) (v : Value) : Prop :=
  ctx.isDisabled = true ∨ (∀ d ∈ p.descriptors, d.ruleName ≠ requiredRule) ∧ (v = .null ∨ v = .text "")

namespace Catalog

theorem parsedRequired {c : Catalog} (remembers : c.Remembers) {rules p} (read : (c.parse rules).1 = .ok p) :
    p.isRequired = true ↔ ∃ d ∈ p.descriptors, d.ruleName = requiredRule := by
  obtain ⟨source,custom,ds,_,_,rfl⟩ := (parsedIff remembers).mp read
  simp

theorem parsedExempts {c : Catalog} (remembers : c.Remembers) {rules p} (read : (c.parse rules).1 = .ok p) (ctx : FieldContext)
    (v : Value) : { ctx with isRequired := p.isRequired }.exempts v = true ↔ p.Spares ctx v := by
  have optional : p.isRequired = false ↔ ∀ d ∈ p.descriptors, d.ruleName ≠ requiredRule := by
    rw [← Bool.not_eq_true,parsedRequired remembers read]
    simp
  simp only [FieldContext.exempts,Bool.or_eq_true,Bool.and_eq_true,Bool.not_eq_true',optional,emptyIff,Pipeline.Spares]
  rw [or_comm]

theorem checkedKeyed {c : Catalog} (checked : c.Checked) : c.Keyed := by
  obtain ⟨_,_,shape,read,same⟩ := checked.document
  exact (documentKeyed shape read).sameBook same

/-- A field whose rules were all judged is valid if it is spared them or meets them all. Each rule has a result of its own,
in the order in which the rules stand, and a field that is not valid says so with a message that is not empty. -/
theorem fieldVerdict {c : Catalog} (checked : c.Checked) {rules p} (read : (c.parse rules).1 = .ok p)
    {t strict lastOnly v ctx o} (judged : evaluateField t strict lastOnly p v ctx = .ok o) :
    (o.valid = true ↔ p.Spares ctx v ∨ ∀ d ∈ p.descriptors, d.Passes strict { ctx with isRequired := p.isRequired } v) ∧
    List.Forall₂ (fun d r => r.descriptor = d ∧ (r.valid = true ↔ p.Spares ctx v ∨
      d.Passes strict { ctx with isRequired := p.isRequired } v)) p.descriptors o.results ∧
    (o.valid = false → o.message ≠ "") := by
  obtain ⟨made,each⟩ := outcomeEach judged
  have declared := parsedDeclared checked read
  have spares := parsedExempts checked.remembers read ctx v
  have results : List.Forall₂ (fun d r => r.descriptor = d ∧ (r.valid = true ↔ p.Spares ctx v ∨
      d.Passes strict { ctx with isRequired := p.isRequired } v)) p.descriptors o.results := by
    refine ((List.forall₂_and_left _ _).mpr ⟨declared,each⟩).imp ?_
    rintro d r ⟨declared,evaluated⟩
    rw [← spares]
    exact evaluatedVerdict declared.few evaluated
  refine ⟨?_,results,invalidMessageFilled judged (parsedKeyed checked.remembers (checkedKeyed checked) read)⟩
  rw [made]
  exact eachValid results

theorem lettersFail : bundled.Checked ∧ ∃ p o, (bundled.parse oneOfEach).1 = .ok p ∧
    evaluateField untranslated true false p (.text "a 3") enabled = .ok o ∧ o.valid = false ∧
    (¬ p.Spares enabled (.text "a 3") ∧
      ¬ ∀ d ∈ p.descriptors, d.Passes true { enabled with isRequired := p.isRequired } (.text "a 3")) ∧
    o.results.map (·.valid) = [true,true,false,false,false] ∧ o.message ≠ "" := by
  have judged : ((bundled.parse oneOfEach).1.toOption.map fun p =>
      (evaluateField untranslated true false p (.text "a 3") enabled).toOption.any fun o =>
        !o.valid && o.results.map (·.valid) == [true,true,false,false,false]) = some true := by decide +kernel
  obtain ⟨p,read,judged⟩ := Option.map_eq_some_iff.mp judged
  obtain ⟨o,judged,verdicts⟩ := (Option.any_eq_true _ _).mp judged
  simp only [Bool.and_eq_true,Bool.not_eq_true',beq_iff_eq] at verdicts
  obtain ⟨wrong,verdicts⟩ := verdicts
  obtain ⟨valid,_,message⟩ := fieldVerdict bundledChecked (answered read) (answered judged)
  exact ⟨bundledChecked,p,o,answered read,answered judged,wrong,not_or.mp fun meets => by simp [valid.mpr meets] at wrong,
    verdicts,message wrong⟩

end Catalog
end FormGuard
