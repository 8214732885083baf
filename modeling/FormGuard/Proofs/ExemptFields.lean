import FormGuard.Proofs.CheckAnswers
import FormGuard.Proofs.RuleVerdicts

/-! What breaks the check of a rule off. The check runs before anyone asks whether the field is spared, so that an exempt field
passes if its rules come to an answer, and fails with them if they do not. -/
namespace FormGuard
open Text

theorem eachFails {ε α β} {f : α → Except ε β} {as : List α} {e} : as.mapM f = .error e ↔
    ∃ before a behind, as = before++a::behind ∧ (∀ b ∈ before, ∃ y, f b = .ok y) ∧ f a = .error e := by
  induction as with
  | nil => simp [pure,Except.pure]
  | cons a as ih =>
    simp only [List.mapM_cons,bindError,ih,pure,Except.pure]
    constructor
    · rintro (failed | ⟨y,read,⟨before,b,behind,rfl,earlier,failed⟩ | ⟨_,_,⟨⟩⟩⟩)
      · exact ⟨[],a,as,rfl,by simp,failed⟩
      · exact ⟨a::before,b,behind,rfl,List.forall_mem_cons.mpr ⟨⟨y,read⟩,earlier⟩,failed⟩
    · rintro ⟨before,b,behind,whole,earlier,failed⟩
      cases before with
      | nil =>
        cases whole
        exact .inl failed
      | cons _ before =>
        cases whole
        obtain ⟨⟨y,read⟩,earlier⟩ := List.forall_mem_cons.mp earlier
        exact .inr ⟨y,read,.inl ⟨before,b,behind,rfl,earlier,failed⟩⟩

theorem everyRead {ε α β} {f : α → Except ε β} {as : List α} :
    (∃ bs, List.Forall₂ (fun a b => f a = .ok b) as bs) ↔ ∀ a ∈ as, ∃ b, f a = .ok b := by
  induction as with
  | nil => simp
  | cons a as ih =>
    rw [List.forall_mem_cons,← ih]
    simp only [List.forall₂_cons_left_iff]
    constructor
    · rintro ⟨_,b,bs,first,rest,rfl⟩
      exact ⟨⟨b,first⟩,bs,rest⟩
    · rintro ⟨⟨b,first⟩,bs,rest⟩
      exact ⟨_,b,bs,first,rest,rfl⟩

theorem Layout.readFaults {l : Layout} {cs f} (failed : l.read cs = .error f) : f = .badValue ∨ f = .overflow := by
  unfold Layout.read Instant.Reading.instant at failed
  repeat' split at failed
  all_goals cases failed
  all_goals simp

theorem Descriptor.layoutSpelled (d : Descriptor) :
    (if d.layoutValue.truthy then d.layoutValue.plainText else "") = d.dateFormat.getD "" := by
  unfold Descriptor.layoutValue
  cases d.dateFormat with
  | none => rfl
  | some s => by_cases empty : s = "" <;> simp [Value.truthy,Value.plainText,empty]

theorem Descriptor.unresolved {d : Descriptor} {strict p} : Layout.resolve strict d.layoutValue = .error p ↔
    strict = true ∧ Layout.named? (d.dateFormat.getD "") = none ∧ p = .unknownLayout d.layoutValue := by
  unfold Layout.resolve
  rw [d.layoutSpelled]
  cases Layout.named? (d.dateFormat.getD "") with
  | some l => simp
  | none => cases strict <;> simp [eq_comm]

inductive Condition.Lacks (c : Condition) (x : Operand) : List Operand → Fault → Prop
  | unbounded : Lacks c x [] .badPosition
  | absent {low high} (none : c = .absent) : Lacks c x [low,high] .badKind
  | lone {s ch op low high} (single : c = .single s) (short : s.toList = [ch]) (named : Operator.named? s = some op)
      (holds : op.holds x low = true) : Lacks c x [low,high] .badPosition

theorem liftError {α} {x : Except Fault α} {f} : liftFault x = .error f ↔ ∃ g, x = .error g ∧ f = .fault g := by
  cases x <;> simp [liftFault,eq_comm]

theorem soleCharacter {s : String} {ch : Char} (short : s.toList = [ch]) : String.singleton ch = s := by
  rw [← String.toList_inj,short,String.toList_singleton]

theorem withinBreaks {c : Condition} (declared : c.Declared) {x : Operand} {bounds : List Operand} (few : bounds.length ≤ 2) {f} :
    withinBounds c x bounds = .error f ↔ c.Lacks x bounds f := by
  match bounds,few with
  | [],_ =>
    constructor
    · rintro ⟨⟩
      exact .unbounded
    · rintro ⟨⟩
      rfl
  | [bound],_ =>
    obtain ⟨b,answer⟩ : ∃ b, withinBounds c x [bound] = .ok b := by cases c <;> exact ⟨_,rfl⟩
    rw [answer]
    exact iff_of_false (by simp) nofun
  | [low,high],_ =>
    cases declared with
    | absent =>
      constructor
      · rintro ⟨⟩
        exact .absent rfl
      · rintro (_ | _ | ⟨⟨⟩⟩)
        rfl
    | @pair s t =>
      obtain ⟨b,answer⟩ := pairAnswers (c := .several [s,t]) rfl rfl x low high
      rw [answer]
      exact iff_of_false (by simp) (by rintro (_ | ⟨⟨⟩⟩ | ⟨⟨⟩⟩))
    | @single s op named =>
      -- Two bounds take the operator apart, and its second half is missed only if its first half holds and is the whole.
      rcases chars : s.toList with _ | ⟨ch,_ | ⟨b,rest⟩⟩
      · rw [String.toList_eq_nil_iff.mp chars] at named
        contradiction
      · have first : compareNamed (String.singleton ch) x low = op.holds x low := by
          rw [soleCharacter chars,compareNamed,named]
        simp only [withinBounds,Condition.side,chars,List.getElem?_cons_zero,List.getElem?_cons_succ,List.getElem?_nil,bind,
          Except.bind,first]
        constructor
        · intro broken
          split at broken
          · rename_i holds
            cases broken
            exact .lone rfl chars named holds
          · contradiction
        · rintro (_ | ⟨⟨⟩⟩ | ⟨⟨⟩,_,named',holds⟩)
          cases named.symm.trans named'
          rw [if_pos holds]
      · have one : (Condition.single s).side 0 = .ok (String.singleton ch) := by simp [Condition.side,chars]
        have two : (Condition.single s).side 1 = .ok (String.singleton b) := by simp [Condition.side,chars]
        obtain ⟨b,answer⟩ := pairAnswers one two x low high
        rw [answer]
        refine iff_of_false (by simp) ?_
        rintro (_ | ⟨⟨⟩⟩ | ⟨⟨⟩,short,_⟩)
        simp [chars] at short

namespace Descriptor

inductive DatesBreak (d : Descriptor) (l : Layout) (s : String) : Fault → Prop
  | beyond (date : l.read s.toList = .error .overflow) : DatesBreak d l s .overflow
  | limitBeyond {i before p behind} (date : l.read s.toList = .ok i) (limits : d.params = before++p::behind)
      (earlier : ∀ q ∈ before, ∃ b, l.read q.toList = .ok b) (beyond : l.read p.toList = .error .overflow) :
      DatesBreak d l s .overflow
  | lack {i bounds f} (date : l.read s.toList = .ok i)
      (limits : List.Forall₂ (fun p b => l.read p.toList = .ok b) d.params bounds)
      (lacks : d.condition.Lacks (.instant i) (bounds.map .instant) f) : DatesBreak d l s f

/-- What breaks the check of a rule off. Of a disabled field no pattern is sought; everything else is asked of it as of any other. -/
inductive Breaks (strict : Bool) (ctx : FieldContext) (v : Value) (d : Descriptor) : Failure → Prop
  | unwritten (kind : d.kind = .pattern ∧ ctx.isDisabled = false ∨ d.kind = .dateBounds) (long : v.writable = false) :
      Breaks strict ctx v d (.fault .badValue)
  | patternless (kind : d.kind = .pattern) (enabled : ctx.isDisabled = false) (short : v.writable = true)
      (none : d.pattern = none) (there : v = .null → ctx.isRequired = false) (typed : v = .text "" → ctx.isNumberInput = false) :
      Breaks strict ctx v d (.fault .badKind)
  | layoutUnknown (kind : d.kind = .dateBounds) (short : v.writable = true) (fits : d.Fits v) (strictly : strict = true)
      (unknown : Layout.named? (d.dateFormat.getD "") = none) : Breaks strict ctx v d (.problem (.unknownLayout d.layoutValue))
  | datesBreak {l f} (kind : d.kind = .dateBounds) (short : v.writable = true) (fits : d.Fits v)
      (layout : Layout.resolve strict d.layoutValue = .ok l) (breaks : d.DatesBreak l v.shown f) : Breaks strict ctx v d (.fault f)
  | limitUnread {before p behind f} (kind : d.kind = .numberBounds) (limits : d.params = before++p::behind)
      (earlier : ∀ q ∈ before, (Value.text q).unread? = none) (unread : (Value.text p).unread? = some f) :
      Breaks strict ctx v d (.fault f)
  | unread {f} (kind : d.kind = .numberBounds) (limits : ∀ p ∈ d.params, (Value.text p).unread? = none)
      (unread : v.unread? = some f) : Breaks strict ctx v d (.fault f)
  | numbersLack {x bounds f} (kind : d.kind = .numberBounds) (number : leadingNumber v = .ok x)
      (limits : List.Forall₂ (fun p b => leadingNumber (.text p) = .ok b) d.params bounds)
      (lacks : d.condition.Lacks (.number x) (bounds.map .number) f) : Breaks strict ctx v d (.fault f)
  | otherless (kind : d.kind = .confirmation) (seen : ctx.lookup.isSome = true) (none : d.params = []) :
      Breaks strict ctx v d (.fault .badPosition)

variable {d : Descriptor} {strict : Bool} {v : Value} {ctx : FieldContext} {f : Failure}

theorem searchReads {p s} (declared : d.Declared) (given : d.pattern = some p) : ∃ b, searchIn p s = .ok b := by
  obtain ⟨node,read⟩ := declared.readable p given
  exact ⟨_,searchAnswers read s⟩

theorem textBreaks (declared : d.Declared) (kind : d.kind = .pattern) (plain : d.isKeyEntry v ctx = false) :
    d.checkText v ctx = .error f ↔ d.Breaks strict ctx v f := by
  have typed (enabled : ctx.isDisabled = false) : v = .text "" → ctx.isNumberInput = false := by
    rintro rfl
    simpa [isKeyEntry,kind,enabled,isEmptyText] using plain
  have search : checkText.search d v = .error f ↔
      v.writable = false ∧ f = .fault .badValue ∨ v.writable = true ∧ d.pattern = none ∧ f = .fault .badKind := by
    unfold checkText.search
    rw [subjectShown]
    cases v.writable with
    | false => simp [liftFault,bind,Except.bind,eq_comm]
    | true =>
      cases given : d.pattern with
      | none => simp [liftFault,bind,Except.bind,eq_comm]
      | some p =>
        obtain ⟨b,answer⟩ := searchReads (s := v.shown) declared given
        simp [liftFault,bind,Except.bind,answer]
  have demands : d.Breaks strict ctx v f ↔ ctx.isDisabled = false ∧ (v = .null → ctx.isRequired = false) ∧
      checkText.search d v = .error f := by
    rw [search]
    constructor
    · intro breaks
      cases breaks with
      | unwritten kind' long =>
        refine ⟨by simpa [kind] using kind',?_,.inl ⟨long,rfl⟩⟩
        rintro rfl
        contradiction
      | patternless _ enabled short none there _ => exact ⟨enabled,there,.inr ⟨short,none,rfl⟩⟩
      | _ other => simp [kind] at other
    · rintro ⟨enabled,there,⟨long,rfl⟩ | ⟨short,none,rfl⟩⟩
      · exact .unwritten (.inl ⟨kind,enabled⟩) long
      · exact .patternless kind enabled short none there (typed enabled)
  rw [demands]
  unfold checkText
  split
  · rename_i disabled
    simp [disabled]
  · rename_i enabled
    simp only [Bool.not_eq_true] at enabled
    rw [and_iff_right enabled]
    split
    · split
      · rename_i absent
        refine iff_of_false (by simp) ?_
        rintro ⟨there,broken⟩
        rcases absent with same | required
        · simp [search,same,Value.writable] at broken
        · simp [there rfl] at required
      · rename_i present
        simp only [not_or,Bool.not_eq_true] at present
        rw [and_iff_right fun _ => present.2]
    · rename_i there
      rw [and_iff_right fun none => absurd none there]

theorem instantsFail {l s g} : compareDates.instants d l s = .error g ↔ l.read s.toList = .error g ∨
    ∃ i, l.read s.toList = .ok i ∧ ∃ before p behind, d.params = before++p::behind ∧
      (∀ q ∈ before, ∃ b, l.read q.toList = .ok b) ∧ l.read p.toList = .error g := by
  unfold compareDates.instants
  simp [bindError,pure,Except.pure,eachFails]

theorem datesBreak {l s g} : d.DatesBreak l s g ↔ compareDates.instants d l s = .error .overflow ∧ g = .overflow ∨
    ∃ i bounds, compareDates.instants d l s = .ok (i,bounds) ∧ d.condition.Lacks (.instant i) (bounds.map .instant) g := by
  simp only [instantsFail,instantsRead]
  constructor
  · intro breaks
    cases breaks with
    | beyond date => exact .inl ⟨.inl date,rfl⟩
    | limitBeyond date limits earlier beyond => exact .inl ⟨.inr ⟨_,date,_,_,_,limits,earlier,beyond⟩,rfl⟩
    | lack date limits lacks => exact .inr ⟨_,_,⟨date,limits⟩,lacks⟩
  · rintro (⟨date | ⟨i,date,before,p,behind,limits,earlier,beyond⟩,rfl⟩ | ⟨i,bounds,⟨date,limits⟩,lacks⟩)
    · exact .beyond date
    · exact .limitBeyond date limits earlier beyond
    · exact .lack date limits lacks

theorem compareBreaks (declared : d.Declared) {l s} :
    d.compareDates l s = .error f ↔ ∃ g, d.DatesBreak l s g ∧ f = .fault g := by
  simp only [datesBreak]
  unfold compareDates
  cases instants : compareDates.instants d l s with
  | ok pair =>
    obtain ⟨i,bounds⟩ := pair
    obtain ⟨_,limits⟩ := instantsRead.mp instants
    have few : (bounds.map Operand.instant).length ≤ 2 := by simpa [← limits.length_eq] using declared.few
    simp [liftError,withinBreaks declared.condition few]
  | error g =>
    have faults : g = .badValue ∨ g = .overflow := by
      rcases instantsFail.mp instants with failed | ⟨_,_,_,_,_,_,_,failed⟩ <;> exact Layout.readFaults failed
    rcases faults with rfl | rfl <;> simp [eq_comm]

theorem precheckAnswers (declared : d.Declared) : ∃ fits, d.precheck v.shown = .ok fits := by
  unfold precheck
  cases given : d.pattern with
  | none => exact ⟨true,rfl⟩
  | some p =>
    dsimp only
    split
    · exact ⟨true,rfl⟩
    · exact searchReads declared given

theorem dateBreaks (declared : d.Declared) (kind : d.kind = .dateBounds) :
    d.checkDate strict v = .error f ↔ d.Breaks strict ctx v f := by
  have demands : d.Breaks strict ctx v f ↔ v.writable = false ∧ f = .fault .badValue ∨ v.writable = true ∧ d.Fits v ∧
      ((∃ p, Layout.resolve strict d.layoutValue = .error p ∧ f = .problem p) ∨
        ∃ l, Layout.resolve strict d.layoutValue = .ok l ∧ d.compareDates l v.shown = .error f) := by
    simp only [unresolved,compareBreaks declared]
    constructor
    · intro breaks
      cases breaks with
      | unwritten _ long => exact .inl ⟨long,rfl⟩
      | layoutUnknown _ short fits strictly unknown => exact .inr ⟨short,fits,.inl ⟨_,⟨strictly,unknown,rfl⟩,rfl⟩⟩
      | datesBreak _ short fits layout breaks => exact .inr ⟨short,fits,.inr ⟨_,layout,_,breaks,rfl⟩⟩
      | _ other => simp [kind] at other
    · rintro (⟨long,rfl⟩ | ⟨short,fits,⟨_,⟨strictly,unknown,rfl⟩,rfl⟩ | ⟨l,layout,g,breaks,rfl⟩⟩)
      · exact .unwritten (.inr kind) long
      · exact .layoutUnknown kind short fits strictly unknown
      · exact .datesBreak kind short fits layout breaks
  have compare : checkDate.compare strict d v = .error f ↔ d.Breaks strict ctx v f := by
    rw [demands,compareEq,subjectShown]
    cases short : v.writable with
    | false => simp [liftFault,bind,Except.bind,eq_comm]
    | true =>
      obtain ⟨fits,pre⟩ := precheckAnswers (v := v) declared
      rw [← precheckFits pre]
      simp only [if_true,liftFault,bind,Except.bind,pre]
      cases fits with
      | false => simp
      | true => cases Layout.resolve strict d.layoutValue <;> simp [eq_comm]
  unfold checkDate
  split
  · split
    · rename_i visible
      refine iff_of_false (by simp) fun breaks => ?_
      rcases demands.mp breaks with ⟨long,_⟩ | ⟨_,fits,_⟩
      · contradiction
      · exact nothingVisible (fits _ visible)
    · exact compare
  · exact compare

theorem numberBreaks (declared : d.Declared) (kind : d.kind = .numberBounds) :
    d.checkNumber v = .error f ↔ d.Breaks strict ctx v f := by
  have read (p : String) : (∃ b, leadingNumber (.text p) = .ok b) ↔ (Value.text p).unread? = none := by
    rw [← not_iff_not,← ne_eq,Option.ne_none_iff_exists']
    simp only [← leadingFails]
    cases leadingNumber (.text p) <;> simp
  unfold checkNumber
  simp only [liftError,bindError,eachFails,eachRead,leadingFails,read]
  constructor
  · rintro ⟨g,⟨before,p,behind,limits,earlier,unread⟩ | ⟨bounds,limits,unread | ⟨x,number,lacks⟩⟩,rfl⟩
    · exact .limitUnread kind limits earlier unread
    · exact .unread kind (fun p inside => (read p).mp (everyRead.mp ⟨bounds,limits⟩ p inside)) unread
    · have few : (bounds.map Operand.number).length ≤ 2 := by simpa [← limits.length_eq] using declared.few
      exact .numbersLack kind number limits ((withinBreaks declared.condition few).mp lacks)
  · intro breaks
    cases breaks with
    | limitUnread _ limits earlier unread => exact ⟨_,.inl ⟨_,_,_,limits,earlier,unread⟩,rfl⟩
    | unread _ limits unread =>
      obtain ⟨bounds,limits⟩ := everyRead.mpr fun p inside => (read p).mpr (limits p inside)
      exact ⟨_,.inr ⟨bounds,limits,.inl unread⟩,rfl⟩
    | @numbersLack x bounds g _ number limits lacks =>
      have few : (bounds.map Operand.number).length ≤ 2 := by simpa [← limits.length_eq] using declared.few
      exact ⟨_,.inr ⟨_,limits,.inr ⟨_,number,(withinBreaks declared.condition few).mpr lacks⟩⟩,rfl⟩
    | _ other => simp [kind] at other

theorem confirmationBreaks (kind : d.kind = .confirmation) : d.checkConfirmation v ctx = .error f ↔ d.Breaks strict ctx v f := by
  unfold checkConfirmation
  constructor
  · intro broken
    split at broken
    · contradiction
    · rename_i lookup seen
      split at broken
      · rename_i none
        cases broken
        exact .otherless kind (by rw [seen]; rfl) none
      · contradiction
  · intro breaks
    cases breaks with
    | otherless _ seen none =>
      obtain ⟨lookup,seen⟩ := Option.isSome_iff_exists.mp seen
      rw [seen,none]
    | _ other => simp [kind] at other

theorem checkBreaks (declared : d.Declared) (plain : d.isKeyEntry v ctx = false) :
    d.check strict v ctx = .error f ↔ d.Breaks strict ctx v f := by
  unfold check
  split
  · rename_i kind
    exact textBreaks declared kind plain
  · rename_i kind
    exact dateBreaks declared kind
  · rename_i kind
    exact numberBreaks declared kind
  · rename_i kind
    exact confirmationBreaks kind

theorem entryHolds (entry : d.isKeyEntry v ctx = true) : ¬ d.Breaks strict ctx v f := by
  simp only [isKeyEntry,Bool.and_eq_true,beq_iff_eq] at entry
  obtain ⟨⟨⟨kind,_⟩,empty⟩,number⟩ := entry
  obtain rfl := emptyText.mp empty
  intro breaks
  cases breaks with
  | unwritten _ long => contradiction
  | patternless _ _ _ _ _ typed => simp [typed rfl] at number
  | _ other => simp [kind] at other

end Descriptor

theorem evaluateBreaks {t strict v ctx f} {d : Descriptor} (declared : d.Declared) :
    evaluate t strict d v ctx = .error f ↔ d.Breaks strict ctx v f := by
  unfold evaluate
  dsimp only
  cases entry : d.isKeyEntry v ctx with
  | true =>
    refine iff_of_false ?_ (Descriptor.entryHolds entry)
    simp only [if_true]
    split <;> simp
  | false =>
    rw [← Descriptor.checkBreaks declared entry]
    simp only [Bool.false_eq_true,if_false]
    cases d.check strict v ctx with
    | error g => simp
    | ok passed =>
      dsimp only
      split <;> simp

namespace Catalog

/-- The rule of an exempt field passes exactly if nothing breaks its check off; otherwise what breaks it off escapes. -/
theorem exemptFields {c : Catalog} (checked : c.Checked) {rules p} (read : (c.parse rules).1 = .ok p) {d}
    (inside : d ∈ p.descriptors) (t : Translator) (strict : Bool) (v : Value) (ctx : FieldContext)
    (exempt : ctx.isDisabled = true ∨ ctx.isRequired = false ∧ (v = .null ∨ v = .text "")) :
    ((∃ r, evaluate t strict d v ctx = .ok r ∧ r.valid = true) ↔ ∀ f, ¬ d.Breaks strict ctx v f) ∧
    ∀ f, evaluate t strict d v ctx = .error f ↔ d.Breaks strict ctx v f := by
  have breaks {f} : evaluate t strict d v ctx = .error f ↔ d.Breaks strict ctx v f :=
    evaluateBreaks (parsedDeclared checked read d inside)
  refine ⟨?_,fun f => breaks⟩
  simp only [← breaks]
  cases evaluated : evaluate t strict d v ctx with
  | error f => simp
  | ok r =>
    have spared : ctx.exempts v = true := by simpa [FieldContext.exempts,emptyIff,or_comm] using exempt
    simp [exemptPasses evaluated spared]

def julianRules : Value :=
  .object [("rules",.object [
    ("since",.object [("kind",.text "conditionalDate"),("condition",.text ">="),("date_format",.text "JULIAN"),
      ("params",.int 1),("message",.text "TOO_EARLY")])])]

def julianCatalog : Catalog := ⟨Catalog.table? julianRules >>= (Table.get? · "rules") >>= Catalog.table?,some [],[]⟩

theorem julianChecked : julianCatalog.Checked :=
  ⟨⟨julianRules,julianCatalog,Schema.checkedMeets.mp (by decide),rfl,.refl _⟩,freshRemembers rfl⟩

def disabled : FieldContext := ⟨"f",false,true,"text",some fun _ => .null⟩

theorem unknownLayoutBreaks : julianCatalog.Checked ∧ disabled.isDisabled = true ∧
    ∃ p d, (julianCatalog.parse "since:2020-01-01").1 = .ok p ∧ d ∈ p.descriptors ∧
      evaluate untranslated true d (.text "soon") disabled = .error (.problem (.unknownLayout (.text "JULIAN"))) ∧
      ∃ r, evaluate untranslated false d (.text "soon") disabled = .ok r ∧ r.valid = true := by
  have read : (julianCatalog.parse "since:2020-01-01").1.toOption.map Pipeline.descriptors =
      some [⟨"since",.dateBounds,"TOO_EARLY",none,"",["2020-01-01"],.single ">=",some "JULIAN"⟩] := by decide +kernel
  obtain ⟨p,read,descriptors⟩ := Option.map_eq_some_iff.mp read
  have inside : ⟨"since",.dateBounds,"TOO_EARLY",none,"",["2020-01-01"],.single ">=",some "JULIAN"⟩ ∈ p.descriptors := by
    rw [descriptors]
    exact List.mem_singleton_self _
  have breaks := (exemptFields julianChecked (answered read) inside untranslated true (.text "soon") disabled (.inl rfl)).2
  exact ⟨julianChecked,rfl,p,_,answered read,inside,(breaks _).mpr (.layoutUnknown rfl rfl nofun rfl (by decide)),_,rfl,rfl⟩

theorem disabledOverflow : bundled.Checked ∧ disabled.isDisabled = true ∧
    ∃ p d, (bundled.parse "min_num:5").1 = .ok p ∧ d ∈ p.descriptors ∧
      evaluate untranslated false d (.int (10^309)) disabled = .error (.fault .overflow) ∧
      ¬ ∃ r, evaluate untranslated false d (.int (10^309)) disabled = .ok r ∧ r.valid = true := by
  have read : (bundled.parse "min_num:5").1.toOption.map Pipeline.descriptors =
      some [⟨"min_num",.numberBounds,"INVALID_MIN_NUM",none,"",["5"],.single ">=",none⟩] := by decide +kernel
  obtain ⟨p,read,descriptors⟩ := Option.map_eq_some_iff.mp read
  have inside : ⟨"min_num",.numberBounds,"INVALID_MIN_NUM",none,"",["5"],.single ">=",none⟩ ∈ p.descriptors := by
    rw [descriptors]
    exact List.mem_singleton_self _
  have breaks : evaluate untranslated false _ (.int (10^309)) disabled = .error (.fault .overflow) :=
    (evaluateBreaks (parsedDeclared bundledChecked (answered read) _ inside)).mpr
      (.unread rfl (by decide) (by decide +kernel))
  refine ⟨bundledChecked,rfl,p,_,answered read,inside,breaks,?_⟩
  rw [breaks]
  rintro ⟨_,⟨⟩,_⟩

end Catalog
end FormGuard
