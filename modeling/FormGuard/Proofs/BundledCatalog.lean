import FormGuard.Proofs.CheckedCatalogs
import FormGuard.Rule.Bundled

/-! The catalog that comes with the library meets the schema of catalogs. -/
namespace FormGuard.Catalog

def bundled : Catalog := ⟨some Bundled.catalogRules,some Bundled.catalogAliases,[]⟩

theorem bundledRead : ofDocument Bundled.catalog = .ok bundled := rfl

theorem bundledChecked : bundled.Checked :=
  ⟨⟨Bundled.catalog,bundled,Schema.checkedMeets.mp (by decide +kernel),bundledRead,.refl _⟩,freshRemembers rfl⟩

theorem bundledEach (holds : RuleDefinition → Bool)
    (each : ∀ e ∈ Bundled.catalogRules, (RuleDefinition.ofEntry e.1 e.2).toOption.all holds = true)
    {c : Catalog} (same : SameBook bundled c) {name d} (found : c.find name = .ok d) : holds d = true := by
  rw [findSameBook same] at found
  obtain ⟨_,key,entry,⟨⟩,he,defined⟩ := findEntry found
  simpa [defined,Except.toOption] using each _ (memOfGet he)

end FormGuard.Catalog
