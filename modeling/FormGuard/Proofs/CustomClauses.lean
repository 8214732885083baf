import FormGuard.Proofs.BundledCatalog
import FormGuard.Proofs.RuleReading

/-! The custom clause among tokens. Written between others it gives its own descriptor and leaves theirs alone. How often
it is used is a matter of the tokens around it: it is once exactly when one token names the custom rule. -/
namespace FormGuard
open Text

def CustomClause.text (clause : CustomClause) : String := String.ofList clause.spell

def RuleDefinition.withClause (d : RuleDefinition) (clause : CustomClause) : Descriptor :=
  ⟨customRule,d.kind,d.messageKey,some clause.pattern,"",[clause.message],.absent,none⟩

namespace Catalog

inductive Reads (c : Catalog) : List String → List Descriptor → Bool → Prop
  | nothing : Reads c [] [] false
  | alone {tokens p} (filled : tokens ≠ []) (free : ¬ Clause.opening <:+: (barred tokens).toList)
      (read : (c.parse (barred tokens)).1 = .ok p) : Reads c tokens p.descriptors p.isRequired

structure DeclaresClause (c : Catalog) : Prop where
  rule : ∃ rules entry, c.rules = some rules ∧ Table.get? rules customRule = some entry
  unaliased : ∀ aliases, c.aliases = some aliases → Table.get? aliases customRule = none

theorem clauseRule {c : Catalog} (checked : c.Checked) (declared : c.DeclaresClause) :
    ∃ d, c.find customRule = .ok d ∧ d.name = customRule := by
  obtain ⟨rules,aliases,hr,ha,entries,_⟩ := checkedTables checked
  obtain ⟨rules',entry,hr',entered⟩ := declared.rule
  cases hr.symm.trans hr'
  obtain ⟨fields,rfl,entry⟩ := ruleEntry (entries _ (memOfGet entered))
  obtain ⟨d,defined⟩ := entry.defined customRule
  have canonical : c.canonical customRule = .ok (.text customRule) := by simp [canonical,ha,declared.unaliased aliases ha]
  refine ⟨d,?_,definedName defined⟩
  unfold Catalog.find
  rw [canonical,hr]
  dsimp only
  rw [entered]
  dsimp only
  rw [defined]

theorem clauseToken {c : Catalog} {d} (found : c.find customRule = .ok d) (named : d.name = customRule) (clause) :
    c.Describes (some clause) Clause.opening (d.withClause clause) := by
  have token : Token.ofChars? Clause.opening = some ⟨customRule,[""],""⟩ := by decide
  exact describesIff.mpr ⟨_,d,token,found,(customDescribe named).mpr (by rw [RuleDefinition.withClause,named])⟩

theorem Reads.pieces {c : Catalog} (h : c.Remembers) {tokens ds r} (reads : c.Reads tokens ds r) :
    (∀ t ∈ tokens.map String.toList, ¬ Clause.opening <:+: t) ∧ r = ds.any (·.ruleName == requiredRule) ∧
      List.Forall₂ (c.Describes none) ((tokens.map String.toList).flatMap (splitOn '|')) ds := by
  cases reads with
  | nothing => simp
  | @alone tokens p filled free read =>
    obtain ⟨source,custom,ds,taken,described,rfl⟩ := (parsedIff h).mp read
    rw [Clause.extractFree free] at taken
    cases taken
    rw [barred,String.toList_ofList] at free described
    rw [splitJoin (by simpa using filled)] at described
    refine ⟨fun t inside occurs => free ?_,rfl,described⟩
    exact (infixJoin (by decide) (by decide)).mpr ⟨t,inside,occurs⟩

/-- A clause between tokens that read by themselves is read as their descriptors with that of the clause between. -/
theorem clauseSurvives {c : Catalog} (checked : c.Checked) (declared : c.DeclaresClause) {clause : CustomClause}
    (message : ¬ Clause.separator <:+: clause.message.toList) (within : ¬ Clause.closing <:+: clause.body)
    (pattern : ∃ node, Pattern.read .none clause.pattern.toList = .ok node) {before behind : List String} {ds es r s}
    (front : c.Reads before ds r) (back : c.Reads behind es s) :
    ∃ rule p, c.find customRule = .ok rule ∧ (c.parse (barred (before++clause.text::behind))).1 = .ok p ∧
      p.descriptors = ds++rule.withClause clause::es ∧ p.isRequired = (r || s) ∧ p.custom = some clause := by
  obtain ⟨rule,found,named⟩ := clauseRule checked declared
  obtain ⟨frontFree,rfl,fronts⟩ := front.pieces checked.remembers
  obtain ⟨backFree,rfl,backs⟩ := back.pieces checked.remembers
  have bar : '|' ∉ Clause.opening := by decide
  obtain ⟨lead,leadFree,leads⟩ := joinLead bar (by decide) frontFree
  obtain ⟨trail,trailFree,trails⟩ := joinTrail bar (by decide) backFree
  have around (x : List Char) : join ['|'] (before.map String.toList++x::behind.map String.toList) = lead++(x++trail) := by
    rw [leads,trails]
  -- Bars on both sides keep what is left of the clause a token of its own.
  have whole : (barred (before++clause.text::behind)).toList = lead++(clause.spell++trail) := by
    rw [← around]
    simp [barred,CustomClause.text]
  have taken := Clause.extractClause ⟨leadFree,message,within,Clause.nextNone trailFree,pattern⟩ whole
  have each : List.Forall₂ (c.Describes (some clause)) (splitOn '|' (lead++Clause.opening++trail))
      (ds++rule.withClause clause::es) := by
    rw [List.append_assoc,← around,splitJoin (by simp),List.flatMap_append,List.flatMap_cons,splitFree bar]
    have kept {t d} (plain : c.Describes none t d) : c.Describes (some clause) t d := (describedPlain plain).2 _
    exact List.rel_append (fronts.imp fun _ _ => kept) (.cons (clauseToken found named clause) (backs.imp fun _ _ => kept))
  refine ⟨rule,_,found,(parsedIff checked.remembers).mpr ⟨_,_,_,taken,each,rfl⟩,rfl,?_,rfl⟩
  have other : (customRule == requiredRule) = false := by decide
  simp [RuleDefinition.withClause,other]

def capitalFirst : CustomClause := ⟨"Start: with a capital","^[A-Z]|:\n"⟩

theorem capitalBetween : ∃ ds es r s rule p, bundled.Reads ["required","min_len:3"] ds r ∧
    bundled.Reads ["max_len:20:alt=Too long: cut it"] es s ∧ bundled.find customRule = .ok rule ∧
    (bundled.parse (barred (["required","min_len:3"]++capitalFirst.text::["max_len:20:alt=Too long: cut it"]))).1 = .ok p ∧
    p.descriptors = ds++rule.withClause capitalFirst::es ∧ p.isRequired = (r || s) ∧ p.custom = some capitalFirst := by
  have reads (tokens : List String) (filled : tokens ≠ []) (free : ¬ Clause.opening <:+: (barred tokens).toList)
      (some : (bundled.parse (barred tokens)).1.toOption.isSome) : ∃ ds r, bundled.Reads tokens ds r := by
    obtain ⟨p,read⟩ := succeeds some
    exact ⟨_,_,.alone filled free read⟩
  obtain ⟨ds,r,front⟩ := reads ["required","min_len:3"] (by simp) (by decide +kernel) (by decide +kernel)
  obtain ⟨es,s,back⟩ := reads ["max_len:20:alt=Too long: cut it"] (by simp) (by decide +kernel) (by decide +kernel)
  have declared : bundled.DeclaresClause :=
    ⟨⟨_,_,rfl,(Option.some_get (x := Table.get? Bundled.catalogRules customRule) (by decide +kernel)).symm⟩,
      by rintro _ ⟨⟩; decide +kernel⟩
  have pattern : ∃ node, Pattern.read .none capitalFirst.pattern.toList = .ok node :=
    succeeds (by decide +kernel)
  obtain ⟨rule,p,survives⟩ := clauseSurvives bundledChecked declared (by decide +kernel) (by decide +kernel) pattern front back
  exact ⟨ds,es,r,s,rule,p,front,back,survives⟩

/-! ## How often a clause is used -/

def namesClause (c : Catalog) (t : List Char) : Bool :=
  match Token.ofChars? t with
  | none => false
  | some token =>
    match c.find token.name with
    | .ok d => d.name == customRule
    | .error _ => false

end Catalog

def Pipeline.customs (p : Pipeline) : List Descriptor := p.descriptors.filter (·.ruleName == customRule)

def Pipeline.UsesOnce (p : Pipeline) : Prop :=
  match p.custom with
  | none => p.customs = []
  | some clause => ∃ d, p.customs = [d] ∧ d.pattern = some clause.pattern ∧ d.params = [clause.message]

namespace Catalog

theorem describedNames {c : Catalog} {custom t descriptor} (described : c.Describes custom t descriptor) :
    c.namesClause t = (descriptor.ruleName == customRule) := by
  obtain ⟨token,d,named,found,described⟩ := describesIff.mp described
  simp [namesClause,named,found,(describedRule described).1]

theorem describedCarries {d : RuleDefinition} {custom token descriptor} (described : d.describe custom token = .ok descriptor)
    (names : descriptor.ruleName = customRule) :
    ∃ clause, custom = some clause ∧ descriptor.pattern = some clause.pattern ∧ descriptor.params = [clause.message] := by
  have name : d.name = customRule := (describedRule described).1.symm.trans names
  cases custom with
  | none => simp [RuleDefinition.describe,name] at described
  | some clause =>
    obtain rfl := (customDescribe name).mp described
    exact ⟨clause,rfl,rfl,rfl⟩

theorem customsCount {c : Catalog} {custom ts ds} (each : List.Forall₂ (c.Describes custom) ts ds) :
    (ds.filter (·.ruleName == customRule)).length = ts.countP c.namesClause := by
  induction each with
  | nil => rfl
  | cons described _ ih =>
    rw [List.countP_cons,List.filter_cons,← ih,describedNames described]
    split <;> simp

theorem usesIff {p : Pipeline} {clause} (given : p.custom = some clause)
    (carry : ∀ d ∈ p.customs, d.pattern = some clause.pattern ∧ d.params = [clause.message]) :
    p.UsesOnce ↔ p.customs.length = 1 := by
  unfold Pipeline.UsesOnce
  rw [given,List.length_eq_one_iff]
  exact exists_congr fun d => and_iff_left_of_imp fun only => carry d (by simp [only])

theorem customsCarry {c : Catalog} (remembers : c.Remembers) {rules p} (read : (c.parse rules).1 = .ok p) :
    ∀ d ∈ p.customs, ∃ clause, p.custom = some clause ∧ d.pattern = some clause.pattern ∧ d.params = [clause.message] := by
  intro d inside
  obtain ⟨inside,name⟩ := List.mem_filter.mp inside
  obtain ⟨_,_,_,described⟩ := parsedEach remembers read d inside
  exact describedCarries described (by simpa using name)

/-- A clause is carried by each descriptor of the custom rule, and used once exactly when one token names that rule: of
the tokens before the clause's own, of its own with the clause cut down to its opening, and of those behind. -/
theorem clauseUses {c : Catalog} (remembers : c.Remembers) {rules p} (read : (c.parse rules).1 = .ok p) :
    (p.custom = none → p.customs = []) ∧
    ∀ clause, p.custom = some clause → (∀ d ∈ p.customs, d.pattern = some clause.pattern ∧ d.params = [clause.message]) ∧
      ∃ ts before behind us, rules.toList = join ['|'] (ts++(before++clause.spell++behind)::us) ∧
        (∀ t ∈ ts++before::behind::us, '|' ∉ t) ∧
        Clause.Alone (join ['|'] (ts++[before])) clause (join ['|'] (behind::us)) ∧
        (p.UsesOnce ↔ ts.countP c.namesClause+(if c.namesClause (before++Clause.opening++behind) then 1 else 0)+
          us.countP c.namesClause = 1) := by
  have carried := customsCarry remembers read
  constructor
  · intro absent
    refine List.eq_nil_iff_forall_not_mem.mpr fun d inside => ?_
    obtain ⟨_,given,_⟩ := carried d inside
    cases absent.symm.trans given
  · intro clause given
    have carry : ∀ d ∈ p.customs, d.pattern = some clause.pattern ∧ d.params = [clause.message] := by
      intro d inside
      obtain ⟨_,given',carries⟩ := carried d inside
      cases given.symm.trans given'
      exact carries
    refine ⟨carry,?_⟩
    obtain ⟨source,_,ds,taken,each,rfl⟩ := (parsedIff remembers).mp read
    cases given
    obtain ⟨given,_⟩ | ⟨front,_,back,⟨⟩,alone,whole,rfl⟩ := Clause.extracted taken
    · cases given
    · obtain ⟨ts,before,split⟩ := (List.eq_nil_or_concat' _).resolve_left (splitOnNonempty '|' front)
      obtain ⟨behind,us,split'⟩ := List.exists_cons_of_ne_nil (splitOnNonempty '|' back)
      have joined : join ['|'] (ts++[before]) = front ∧ join ['|'] (behind::us) = back := by
        rw [← split,← split']
        exact ⟨joinSplitOn _ _,joinSplitOn _ _⟩
      refine ⟨ts,before,behind,us,?_,?_,?_,?_⟩
      · rw [joinAround,joined.1,joined.2,whole]
        simp
      · intro t inside
        have free {cs} (piece : t ∈ splitOn '|' cs) : '|' ∉ t := fun bar => (splitChars piece bar).2 rfl
        have member : t ∈ ts++[before] ∨ t ∈ behind::us := by simpa [or_assoc] using inside
        rcases member with left | right
        · exact free (split ▸ left)
        · exact free (split' ▸ right)
      · rwa [joined.1,joined.2]
      · rw [usesIff rfl carry,Pipeline.customs,customsCount each,splitAround (by decide) split split',List.countP_append,
          List.countP_cons]
        omega

def letterA : CustomClause := ⟨"m","a"⟩

theorem clauseAmongRules : bundled.Remembers ∧ ∃ p, (bundled.parse "required|regex:m:=a:regex|max_len:3").1 = .ok p ∧
    p.custom = some letterA ∧ (∀ d ∈ p.customs, d.pattern = some "a" ∧ d.params = ["m"]) ∧ p.UsesOnce := by
  have read : (bundled.parse "required|regex:m:=a:regex|max_len:3").1.toOption.map
      (fun p => (p.custom,p.customs.length)) = some (some letterA,1) := by decide +kernel
  obtain ⟨p,read,both⟩ := Option.map_eq_some_iff.mp read
  obtain ⟨given,one⟩ := Prod.mk.inj both
  have carry := ((clauseUses bundledChecked.remembers (answered read)).2 letterA given).1
  exact ⟨bundledChecked.remembers,p,answered read,given,carry,(usesIff given carry).mpr one⟩

theorem clauseUsedTwice : ∃ p, (bundled.parse "regex:m:=a:regex|regex").1 = .ok p ∧ p.custom = some letterA ∧
    p.customs.length = 2 ∧ ¬ p.UsesOnce := by
  have read : (bundled.parse "regex:m:=a:regex|regex").1.toOption.map (fun p => (p.custom,p.customs.length)) =
      some (some letterA,2) := by decide +kernel
  obtain ⟨p,read,both⟩ := Option.map_eq_some_iff.mp read
  obtain ⟨given,twice⟩ := Prod.mk.inj both
  refine ⟨p,answered read,given,twice,fun once => ?_⟩
  simp only [Pipeline.UsesOnce,given] at once
  obtain ⟨d,only,_⟩ := once
  rw [only] at twice
  cases twice

end Catalog
end FormGuard
