import FormGuard.Check.Outcome
import FormGuard.Proofs.CatalogReading
import Mathlib.Data.List.Forall2

/-! What the outcome of a field's rules says of the field, however its rules were checked: a failing field never goes
without a message, and a field that is empty without being required never fails. -/
namespace FormGuard

theorem evaluatedKey {t strict d v ctx r} (ok : evaluate t strict d v ctx = .ok r) :
    r.messageKey = keyCharMessage ∨ r.messageKey = d.messageKey := by
  unfold evaluate at ok
  dsimp only at ok
  split at ok
  · contradiction
  · split at ok <;> cases ok <;> cases d.isKeyEntry v ctx <;> simp

theorem exemptPasses {t strict d v ctx r} (ok : evaluate t strict d v ctx = .ok r)
    (exempt : ctx.exempts v = true) : r.valid = true := by
  unfold evaluate at ok
  dsimp only at ok
  split at ok
  · contradiction
  · split at ok
    · cases ok; rfl
    · simp_all

theorem exposedVerdict {t : Translator} {strict d v ctx b} (plain : Descriptor.isKeyEntry d v ctx = false)
    (exposed : ctx.exempts v = false) (checked : d.check strict v ctx = .ok b) :
    ∃ r, evaluate t strict d v ctx = .ok r ∧ r.valid = b := by
  rw [evaluate]
  simp only [plain,exposed,checked,Bool.or_false,Bool.false_eq_true,if_false]
  cases b <;> exact ⟨_,rfl,rfl⟩

theorem evaluatedEach {t strict v ctx ds rs} (ok : evaluateAll t strict v ctx ds = .ok rs) :
    List.Forall₂ (fun d r => evaluate t strict d v ctx = .ok r) ds rs := by
  induction ds generalizing rs with
  | nil =>
    cases ok
    exact .nil
  | cons d ds ih =>
    simp only [evaluateAll] at ok
    split at ok
    · contradiction
    · rename_i first
      split at ok
      · contradiction
      · rename_i rest
        cases ok
        exact .cons first (ih rest)

theorem evaluatedFrom {t strict v ctx ds rs} (each : List.Forall₂ (fun d r => evaluate t strict d v ctx = .ok r) ds rs) :
    ∀ r ∈ rs, ∃ d ∈ ds, evaluate t strict d v ctx = .ok r := by
  induction each with
  | nil => simp
  | cons first _ ih =>
    intro r member
    rcases List.mem_cons.mp member with rfl | inside
    · exact ⟨_,by simp,first⟩
    · obtain ⟨d,hd,evaluated⟩ := ih r inside
      exact ⟨d,List.mem_cons_of_mem _ hd,evaluated⟩

theorem outcomeEach {t strict lastOnly p v ctx o} (ok : evaluateField t strict lastOnly p v ctx = .ok o) :
    o = .ofResults ctx.fieldName lastOnly o.results ∧
      List.Forall₂ (fun d r => evaluate t strict d v { ctx with isRequired := p.isRequired } = .ok r) p.descriptors o.results := by
  unfold evaluateField at ok
  split at ok
  · contradiction
  · rename_i rs evaluated
    cases ok
    exact ⟨rfl,evaluatedEach evaluated⟩

theorem outcomeResults {t strict lastOnly p v ctx o} (ok : evaluateField t strict lastOnly p v ctx = .ok o) :
    ∃ rs, o = .ofResults ctx.fieldName lastOnly rs ∧
      ∀ r ∈ rs, ∃ d ∈ p.descriptors, evaluate t strict d v { ctx with isRequired := p.isRequired } = .ok r := by
  obtain ⟨made,each⟩ := outcomeEach ok
  exact ⟨o.results,made,evaluatedFrom each⟩

theorem joinedKeys {key : String} {keys : List String} (filled : key ≠ "") :
    String.intercalate " " (key :: keys) ≠ "" := by
  intro empty
  have lengths := congrArg String.length empty
  cases keys with
  | nil => simp at empty; exact filled empty
  | cons k ks => simp [String.intercalate_cons_cons] at lengths

theorem failedKeysFilled {rs : List RuleResult} (keys : ∀ r ∈ rs, r.messageKey ≠ "")
    (failed : rs.all (·.valid) = false) : failedKeys rs ≠ "" := by
  obtain ⟨r,member,bad⟩ := List.all_eq_false.mp failed
  have inside : r ∈ rs.filter (!·.valid) := List.mem_filter.mpr ⟨member,by simpa using bad⟩
  unfold failedKeys
  cases hf : rs.filter (!·.valid) with
  | nil => simp [hf] at inside
  | cons first rest =>
    have first_mem : first ∈ rs.filter (!·.valid) := by simp [hf]
    exact joinedKeys (keys first (List.mem_filter.mp first_mem).1)

theorem invalidMessageFilled {t strict lastOnly p v ctx o} (ok : evaluateField t strict lastOnly p v ctx = .ok o)
    (keyed : p.Keyed) (bad : o.valid = false) : o.message ≠ "" := by
  obtain ⟨rs,rfl,sources⟩ := outcomeResults ok
  have keys : ∀ r ∈ rs, r.messageKey ≠ "" := by
    intro r member
    obtain ⟨d,hd,evaluated⟩ := sources r member
    rcases evaluatedKey evaluated with key | key <;> rw [key]
    · decide
    · exact keyed d hd
  simp only [FieldOutcome.ofResults] at bad ⊢
  split
  · exact failedKeysFilled keys bad
  · rename_i rendered
    simpa [bad] using rendered

theorem emptyOptionalValid {t strict lastOnly p v ctx o} (ok : evaluateField t strict lastOnly p v ctx = .ok o)
    (optional : p.isRequired = false) (empty : isEmpty v = true) : o.valid = true := by
  obtain ⟨rs,rfl,sources⟩ := outcomeResults ok
  refine List.all_eq_true.mpr fun r member => ?_
  obtain ⟨d,_,evaluated⟩ := sources r member
  exact exemptPasses evaluated (by simp [FieldContext.exempts,optional,empty])

end FormGuard
