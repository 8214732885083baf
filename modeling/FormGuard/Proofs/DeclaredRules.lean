import FormGuard.Proofs.CustomClauses
import FormGuard.Proofs.SoundRules

/-! What every accepted token brings, over a catalog that met its schema: no more than two parameters, none but known operators,
and a pattern that can be read if there is one at all. That a rule has a pattern, or as many operators as it takes parameters,
no schema asks for. -/
namespace FormGuard

theorem definedFrom {name fields d} (defined : RuleDefinition.ofEntry name (.object fields) = .ok d) :
    RuleDefinition.arityOf (Table.get? fields "params") = .ok (d.leastParams,d.mostParams) ∧
      RuleDefinition.conditionOf (Table.get? fields "condition") = .ok d.condition := by
  simp only [RuleDefinition.ofEntry,bindOk] at defined
  obtain ⟨_,arity,rest⟩ := defined
  repeat' split at rest
  all_goals
    simp only [bindOk] at rest
    obtain ⟨_,_,_,condition,_,_,_,_,_,_,_,_,last⟩ := rest
    cases last
    exact ⟨arity,condition⟩

structure RuleDefinition.Declared (d : RuleDefinition) : Prop where
  most : d.mostParams ≤ 2
  condition : d.condition.Declared

theorem entryDeclared {name entry d} (ok : Schema.rule.Meets entry) (defined : RuleDefinition.ofEntry name entry = .ok d) :
    d.Declared := by
  obtain ⟨fields,rfl,_⟩ := ruleEntry ok
  simp only [Schema.rule,Schema.meetsAll,List.forall_mem_cons] at ok
  have shape := Schema.entriesMet.mp ok.2.1
  simp only [List.forall_mem_cons] at shape
  obtain ⟨_,_,_,condition,_,params,_⟩ := shape
  obtain ⟨arity,operators⟩ := definedFrom defined
  obtain ⟨pair,counted,most⟩ := arityTaken params
  obtain ⟨named,taken,declared⟩ := conditionTaken condition
  cases counted.symm.trans arity
  cases taken.symm.trans operators
  exact ⟨most,declared⟩

structure Descriptor.Declared (d : Descriptor) : Prop where
  few : d.params.length ≤ 2
  condition : d.condition.Declared
  readable : ∀ p, d.pattern = some p → ∃ node, Pattern.read .caseless p.toList = .ok node

theorem describedDeclared {d : RuleDefinition} (declared : d.Declared) {custom t e} (described : d.describe custom t = .ok e)
    (clause : ∀ c, custom = some c → ∃ node, Pattern.read .none c.pattern.toList = .ok node) : e.Declared := by
  by_cases named : d.name = customRule
  · cases custom with
    | none => simp [RuleDefinition.describe,named] at described
    | some c =>
      obtain rfl := (customDescribe named).mp described
      refine ⟨by simp,.absent,fun p given => ?_⟩
      cases given
      exact (Pattern.readCaseless _).mpr (clause c rfl)
  · have gives := describedGives described named
    refine ⟨?_,gives.condition ▸ declared.condition,fun p given => ?_⟩
    · have most := gives.most
      have bound := declared.most
      omega
    · have readable := gives.readable
      rw [given] at readable
      exact (Pattern.readCaseless _).mpr (Clause.readableOk.mp readable)

namespace Catalog

theorem foundDeclared {c : Catalog} (checked : c.Checked) {name d} (found : c.find name = .ok d) : d.Declared := by
  obtain ⟨rules,_,table,_,entries,_⟩ := checkedTables checked
  obtain ⟨rules',key,entry,table',there,defined⟩ := findEntry found
  cases table.symm.trans table'
  exact entryDeclared (entries _ (memOfGet there)) defined

theorem parsedDeclared {c : Catalog} (checked : c.Checked) {rules p} (read : (c.parse rules).1 = .ok p) :
    ∀ d ∈ p.descriptors, d.Declared := by
  intro e inside
  obtain ⟨token,d,found,described⟩ := parsedEach checked.remembers read e inside
  exact describedDeclared (foundDeclared checked found) described fun _ given => parsedClause checked.remembers read given

end Catalog
end FormGuard
