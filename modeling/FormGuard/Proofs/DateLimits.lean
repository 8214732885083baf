import FormGuard.Proofs.DateBounds

/-! The limits of a date, read twice: when a rule string is taken in, where ISO stands in for a date format that is not given, and when a
value is judged, where it stands in for one that names no layout, unless names are taken strictly. -/
namespace FormGuard

namespace Descriptor

def Named (d : Descriptor) : Prop := (Layout.named? (d.dateFormat.getD "")).isSome = true

def layout (d : Descriptor) : Layout := (Layout.named? (d.dateFormat.getD "")).getD .iso

def against (d : Descriptor) (bounds : List Instant) (s : String) : Except Failure Bool :=
  match d.layout.read s.toList with
  | .ok i => liftFault (withinBounds d.condition (.instant i) (bounds.map .instant))
  | .error .badValue => .ok false
  | .error f => .error (.fault f)

def checkShown (d : Descriptor) (v : Value) (judge : String → Except Failure Bool) : Except Failure Bool :=
  let asked := liftFault (subjectOf v) >>= fun s => d.precheck s >>= fun fits => if fits then judge s else .ok false
  match v with
  | .null => if d.pattern = some nonEmptyPattern then .ok false else asked
  | _ => asked

theorem layoutResolved (d : Descriptor) {strict : Bool} (known : strict = false ∨ d.Named) :
    Layout.resolve strict d.layoutValue = .ok d.layout := by
  unfold Layout.resolve layout
  unfold Named at known
  rw [d.layoutSpelled]
  cases found : Layout.named? (d.dateFormat.getD "") with
  | some l => rfl
  | none =>
    rw [found] at known
    rw [known.resolve_right (by simp)]
    rfl

theorem layoutRefused (d : Descriptor) (unknown : ¬ d.Named) : Layout.resolve true d.layoutValue = .error (.unknownLayout d.layoutValue) :=
  unresolved.mpr ⟨rfl,by simpa [Named] using unknown,rfl⟩

theorem limitsCompared {d : Descriptor} {bounds} (limits : List.Forall₂ (fun q i => d.layout.read q.toList = .ok i) d.params bounds)
    (s : String) : d.compareDates d.layout s = d.against bounds s := by
  unfold compareDates compareDates.instants against
  rw [eachRead.mpr limits]
  cases d.layout.read s.toList with
  | ok i => rfl
  | error f => cases f <;> rfl

theorem datesChecked {d : Descriptor} (kind : d.kind = .dateBounds) {strict : Bool} {judge : String → Except Failure Bool}
    (judged : ∀ s, (match Layout.resolve strict d.layoutValue with
      | .error p => .error (.problem p)
      | .ok l => d.compareDates l s) = judge s) (v : Value) (ctx : FieldContext) : d.check strict v ctx = d.checkShown v judge := by
  have asked : checkDate.compare strict d v = liftFault (subjectOf v) >>= fun s => d.precheck s >>= fun fits =>
      if fits then judge s else .ok false := by
    rw [compareEq]
    refine congrArg (liftFault (subjectOf v) >>= ·) (funext fun s => ?_)
    exact congrArg (fun out => d.precheck s >>= fun fits => if fits then out else .ok false) (judged s)
  unfold check checkShown
  rw [kind,← asked]
  rfl

end Descriptor

theorem layoutTaken {rule : RuleDefinition} {d : Descriptor} (same : d.dateFormat = rule.dateFormat) :
    Layout.resolve false (.text rule.layoutName) = .ok d.layout := by
  unfold Descriptor.layout RuleDefinition.layoutName
  rw [same]
  cases rule.dateFormat with
  | none => rfl
  | some s =>
    by_cases empty : s = ""
    · subst empty
      rfl
    · dsimp only
      rw [if_neg empty,Layout.resolve,if_pos (by simpa [Value.truthy] using empty),Value.plainText,Option.getD_some]
      cases Layout.named? s <;> rfl

theorem limitsTaken {rule : RuleDefinition} (type : rule.paramType = .date) {token : Token} {d : Descriptor} (gives : rule.Gives token d) :
    ∃ bounds, List.Forall₂ (fun q i => d.layout.read q.toList = .ok i) d.params bounds := by
  refine everyRead.mpr fun q inside => ?_
  obtain ⟨expected,suits⟩ := paramsSuit gives.suitable q inside
  exact dateSuits type (layoutTaken gives.dateFormat) suits

namespace Catalog

/-- Taken in and judged, the limits of a date are the same instants, read under the same layout; only where names are taken strictly and the
date format names no layout does every judgement break off that comes to look at it. -/
theorem dateLimits {c : Catalog} (remembers : c.Remembers) {rules p} (read : (c.parse rules).1 = .ok p) {d : Descriptor}
    (inside : d ∈ p.descriptors) (kind : d.kind = .dateBounds) :
    ∃ token rule, c.find token.name = .ok rule ∧ rule.describe p.custom token = .ok d ∧
      (rule.name ≠ customRule → rule.paramType = .date → ∃ bounds,
        List.Forall₂ (fun q i => readDate false (.text rule.layoutName) (.text q) = .ok i) d.params bounds ∧
        Layout.resolve false (.text rule.layoutName) = .ok d.layout ∧
        ∀ strict,
          (strict = false ∨ d.Named → Layout.resolve strict d.layoutValue = .ok d.layout ∧
            List.Forall₂ (fun q i => readDate strict d.layoutValue (.text q) = .ok i) d.params bounds ∧
            ∀ v ctx, d.check strict v ctx = d.checkShown v (d.against bounds)) ∧
          (strict = true → ¬ d.Named → ∀ v ctx,
            d.check strict v ctx = d.checkShown v fun _ => .error (.problem (.unknownLayout d.layoutValue)))) := by
  obtain ⟨token,rule,found,described⟩ := parsedEach remembers read d inside
  refine ⟨token,rule,found,described,fun plain type => ?_⟩
  have gives := describedGives described plain
  have taken := layoutTaken gives.dateFormat
  obtain ⟨bounds,limits⟩ := limitsTaken type gives
  refine ⟨bounds,limits.imp fun _ _ => (readDateOk taken).mpr,taken,fun strict => ⟨fun known => ?_,?_⟩⟩
  · have resolved := d.layoutResolved known
    refine ⟨resolved,limits.imp fun _ _ => (readDateOk resolved).mpr,Descriptor.datesChecked kind fun s => ?_⟩
    rw [resolved]
    exact Descriptor.limitsCompared limits s
  · rintro rfl unknown
    refine Descriptor.datesChecked kind fun s => ?_
    rw [d.layoutRefused unknown]

def periodEntries : Table Value := [
  ("since",.object [("kind",.text "conditionalDate"),("condition",.text ">="),("params",.int 1),("message",.text "TOO_EARLY")]),
  ("until",.object [("kind",.text "conditionalDate"),("condition",.text "<="),("params",.int 1),("date_format",.text "uk"),
    ("message",.text "TOO_LATE")])]

def periodCatalog : Catalog := ⟨some periodEntries,some [],[]⟩

theorem periodChecked : periodCatalog.Checked :=
  ⟨⟨.object [("rules",.object periodEntries)],periodCatalog,Schema.checkedMeets.mp (by decide),rfl,.refl _⟩,freshRemembers rfl⟩

theorem periodDated {name rule} (found : periodCatalog.find name = .ok rule) : rule.name ≠ customRule ∧ rule.paramType = .date := by
  have each : ∀ e ∈ periodEntries, (RuleDefinition.ofEntry e.1 e.2).toOption.all
      (fun rule => rule.name != customRule && rule.paramType == .date) = true := by decide
  obtain ⟨_,key,entry,⟨⟩,there,defined⟩ := findEntry found
  simpa [defined,Except.toOption] using each _ (memOfGet there)

theorem spelledLimit : periodCatalog.Remembers ∧ ∃ p d bounds, (periodCatalog.parse "until:31/12/24").1 = .ok p ∧ d ∈ p.descriptors ∧
    Layout.resolve true d.layoutValue = .ok .euroShort ∧
    List.Forall₂ (fun q i => readDate true d.layoutValue (.text q) = .ok i) d.params bounds ∧
    ∀ v ctx, d.check true v ctx = d.checkShown v (d.against bounds) := by
  have read : (periodCatalog.parse "until:31/12/24").1.toOption.map Pipeline.descriptors =
      some [⟨"until",.dateBounds,"TOO_LATE",none,"",["31/12/24"],.single "<=",some "uk"⟩] := by decide +kernel
  obtain ⟨p,read,inside⟩ := parsedSole read
  obtain ⟨token,rule,found,_,agree⟩ := dateLimits periodChecked.remembers read inside rfl
  obtain ⟨plain,type⟩ := periodDated found
  obtain ⟨bounds,_,_,judged⟩ := agree plain type
  obtain ⟨resolved,limits,compared⟩ := (judged true).1 (.inr rfl)
  exact ⟨periodChecked.remembers,p,_,bounds,read,inside,resolved,limits,compared⟩

/-- Without a date format, the limit is taken in as an ISO date, and no value can be judged strictly. -/
theorem limitUnformatted : periodCatalog.Checked ∧ ∃ p d rule i, (periodCatalog.parse "since:2020-01-01").1 = .ok p ∧ d ∈ p.descriptors ∧
    periodCatalog.find d.ruleName = .ok rule ∧ rule.paramType = .date ∧ d.kind = .dateBounds ∧ d.dateFormat = none ∧
    d.params = ["2020-01-01"] ∧ readDate false (.text rule.layoutName) (.text "2020-01-01") = .ok i ∧
    evaluate untranslated true d (.text "2024-05-05") enabled = .error (.problem (.unknownLayout .null)) := by
  have read : (periodCatalog.parse "since:2020-01-01").1.toOption.map Pipeline.descriptors =
      some [⟨"since",.dateBounds,"TOO_EARLY",none,"",["2020-01-01"],.single ">=",none⟩] := by decide +kernel
  obtain ⟨p,read,inside⟩ := parsedSole read
  have named : (periodCatalog.find "since").toOption.map RuleDefinition.layoutName = some "ISO" := by decide
  obtain ⟨rule,found,iso⟩ := Option.map_eq_some_iff.mp named
  obtain ⟨i,taken⟩ : ∃ i, readDate false (.text "ISO") (.text "2020-01-01") = .ok i := succeeds (by decide)
  have breaks : evaluate untranslated true ⟨"since",.dateBounds,"TOO_EARLY",none,"",["2020-01-01"],.single ">=",none⟩
      (.text "2024-05-05") enabled = .error (.problem (.unknownLayout .null)) := rfl
  exact ⟨periodChecked,p,_,rule,i,read,inside,answered found,(periodDated (answered found)).2,rfl,rfl,rfl,iso ▸ taken,breaks⟩

end Catalog
end FormGuard
