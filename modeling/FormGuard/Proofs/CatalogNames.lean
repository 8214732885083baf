import FormGuard.Proofs.BundledCatalog
import FormGuard.Proofs.WrittenRules

/-! The names of a catalog. It lists its rules and its aliases. An alias is taken back one step, also when it bears the name of a
rule, so that what is listed is answered for when every alias stands for a rule, and a rule is found again under its own name when
that name is no alias for another. -/
namespace FormGuard

theorem charsCompared {cs ds : List Char} (same : Value.compareChars cs ds = .eq) : cs = ds := by
  fun_induction Value.compareChars cs ds with
  | case1 => rfl
  | case2 => contradiction
  | case3 => contradiction
  | case4 c cs ds ih => rw [ih same]
  | case5 c cs d ds apart => exact absurd (Char.toNat_inj.mp (Nat.compare_eq_eq.mp same)) apart

namespace Catalog
variable {c : Catalog} {name key : String}

theorem memInserted {s : String} {names : List String} : name ∈ insertSorted s names ↔ name = s ∨ name ∈ names := by
  induction names with
  | nil => simp [insertSorted]
  | cons t rest ih =>
    unfold insertSorted
    split
    · simp
    · rename_i same
      rw [String.toList_inj.mp (charsCompared same)]
      simp
    · simp only [List.mem_cons,ih]
      exact or_left_comm

theorem memSorted {names : List String} : name ∈ sorted names ↔ name ∈ names := by
  induction names with
  | nil => simp [sorted]
  | cons t rest ih =>
    change name ∈ insertSorted t (sorted rest) ↔ _
    rw [memInserted,ih,List.mem_cons]

def Declares (c : Catalog) (name : String) : Prop := ∃ rules, c.rules = some rules ∧ name ∈ Table.names rules

def Alias (c : Catalog) (name key : String) : Prop :=
  ∃ aliases, c.aliases = some aliases ∧ Table.get? aliases name = some (.text key)

theorem canonicalIff (checked : c.Checked) : c.canonical name = .ok (.text key) ↔
    c.Alias name key ∨ (∀ other, ¬ c.Alias name other) ∧ key = name := by
  obtain ⟨_,aliases,_,table,_,texts⟩ := checkedTables checked
  simp only [canonical,Alias,table,Option.some.injEq,exists_eq_left']
  cases found : Table.get? aliases name with
  | none => simp [eq_comm]
  | some v =>
    obtain ⟨s,same⟩ := texts _ (memOfGet found)
    obtain rfl : v = .text s := same
    simp

theorem canonicalText (checked : c.Checked) (name : String) : ∃ key, c.canonical name = .ok (.text key) := by
  by_cases named : ∃ key, c.Alias name key
  · obtain ⟨key,named⟩ := named
    exact ⟨key,(canonicalIff checked).mpr (.inl named)⟩
  · exact ⟨name,(canonicalIff checked).mpr (.inr ⟨not_exists.mp named,rfl⟩)⟩

theorem declaredFound (checked : c.Checked) (canonical : c.canonical name = .ok (.text key)) :
    (∃ d, c.find name = .ok d) ↔ c.Declares key := by
  obtain ⟨rules,_,table,_,entries,_⟩ := checkedTables checked
  have declares : c.Declares key ↔ ∃ entry, Table.get? rules key = some entry := by
    simp only [Declares,table,Option.some.injEq,exists_eq_left',Table.namedIff]
  rw [declares]
  unfold find
  rw [canonical,table]
  dsimp only
  cases found : Table.get? rules key with
  | none => simp
  | some entry =>
    obtain ⟨fields,rfl,shape⟩ := ruleEntry (entries _ (memOfGet found))
    obtain ⟨d,defined⟩ := shape.defined key
    simp [defined]

theorem foundAlike {other : String} {d} (same : c.canonical other = c.canonical name) (found : c.find name = .ok d) :
    c.find other = .ok d := by
  unfold find at found ⊢
  rw [same]
  split at found
  · contradiction
  · contradiction
  · split at found
    · contradiction
    · contradiction
    · exact found
  · split at found <;> contradiction

theorem foundAgain (checked : c.Checked) {d} (found : c.find name = .ok d) :
    c.find d.name = .ok d ↔ ∀ key, c.Alias d.name key → key = d.name := by
  have canonical := foundCanonical found
  constructor
  · intro again key named
    cases (foundCanonical again).symm.trans ((canonicalIff checked).mpr (.inl named))
    rfl
  · intro fixed
    refine foundAlike (Eq.trans ?_ canonical.symm) found
    obtain ⟨key,leads⟩ := canonicalText checked d.name
    rcases (canonicalIff checked).mp leads with named | ⟨_,same⟩
    · rwa [fixed key named] at leads
    · rwa [same] at leads

theorem listed (checked : c.Checked) : ∃ known, c.names = .ok known ∧
    ∀ name, name ∈ known ↔ c.Declares name ∨ ∃ key, c.Alias name key := by
  obtain ⟨rules,aliases,hr,ha,_,texts⟩ := checkedTables checked
  have known : c.names = .ok (sorted (rules.map (·.1) ++ aliases.map (·.1))) := by simp only [names,hr,ha]
  refine ⟨_,known,fun name => ?_⟩
  simp only [memSorted,List.mem_append,Declares,Alias,hr,ha,Option.some.injEq,exists_eq_left']
  refine or_congr Iff.rfl (Table.namedIff.trans ⟨?_,?_⟩)
  · rintro ⟨v,found⟩
    obtain ⟨s,same⟩ := texts _ (memOfGet found)
    exact ⟨s,found.trans (congrArg some same)⟩
  · rintro ⟨key,found⟩
    exact ⟨_,found⟩

theorem undeclaredUnknown (checked : c.Checked) (canonical : c.canonical name = .ok (.text key)) (absent : ¬ c.Declares key)
    {known} (names : c.names = .ok known) : c.find name = .error (.problem (.unknownRule name known)) := by
  obtain ⟨rules,_,table,_⟩ := checkedTables checked
  have none : Table.get? rules key = none := by
    refine Option.eq_none_iff_forall_ne_some.mpr fun entry found => absent ⟨rules,table,?_⟩
    exact Table.namedIff.mpr ⟨entry,found⟩
  unfold find
  rw [canonical,table]
  dsimp only
  rw [none]
  dsimp only
  rw [unknown,names]

/-- Every alias that a name is stands for a rule. -/
def Grounded (c : Catalog) (name : String) : Prop := ∀ key, c.Alias name key → c.Declares key

theorem groundedFound (checked : c.Checked) (named : c.Declares name ∨ ∃ key, c.Alias name key) :
    (∃ d, c.find name = .ok d) ↔ c.Grounded name := by
  obtain ⟨key,canonical⟩ := canonicalText checked name
  rw [declaredFound checked canonical]
  rcases (canonicalIff checked).mp canonical with stands | ⟨unaliased,rfl⟩
  · refine ⟨fun declared other stands' => ?_,fun grounded => grounded key stands⟩
    cases canonical.symm.trans ((canonicalIff checked).mpr (.inl stands'))
    exact declared
  · have declared : c.Declares key := named.resolve_right fun ⟨other,stands⟩ => unaliased other stands
    exact iff_of_true declared fun other stands => absurd stands (unaliased other)

theorem catalogAnswers (checked : c.Checked) : ∃ known, c.names = .ok known ∧
    (∀ name, name ∈ known ↔ c.Declares name ∨ ∃ key, c.Alias name key) ∧
    (∀ name, (∃ d, (c.lookup name).1 = .ok d) ∨ (c.lookup name).1 = .error (.problem (.unknownRule name known))) ∧
    (∀ name, name ∉ known → (c.lookup name).1 = .error (.problem (.unknownRule name known))) ∧
    (∀ name ∈ known, (∃ d, (c.lookup name).1 = .ok d) ↔ c.Grounded name) ∧
    ∀ name d, (c.lookup name).1 = .ok d → c.Declares d.name ∧
      (((c.lookup name).2.lookup d.name).1 = .ok d ↔ ∀ key, c.Alias d.name key → key = d.name) := by
  obtain ⟨known,names,listed⟩ := listed checked
  have remembers := checked.remembers
  refine ⟨known,names,listed,fun name => ?_,fun name unlisted => ?_,fun name inside => ?_,fun name d found => ?_⟩
  · rw [lookupFinds remembers]
    obtain ⟨key,canonical⟩ := canonicalText checked name
    by_cases declared : c.Declares key
    · exact .inl ((declaredFound checked canonical).mpr declared)
    · exact .inr (undeclaredUnknown checked canonical declared names)
  · have unnamed := not_or.mp ((listed name).not.mp unlisted)
    have canonical := (canonicalIff checked).mpr (.inr ⟨not_exists.mp unnamed.2,rfl⟩)
    rw [lookupFinds remembers]
    exact undeclaredUnknown checked canonical unnamed.1 names
  · rw [lookupFinds remembers]
    exact groundedFound checked ((listed name).mp inside)
  · obtain ⟨same,remembers'⟩ := lookupKeeps remembers name
    rw [lookupFinds remembers] at found
    rw [lookupFinds remembers',findSameBook same]
    exact ⟨(declaredFound checked (foundCanonical found)).mp ⟨d,found⟩,foundAgain checked found⟩

theorem bundledAnswers : bundled.Checked ∧ ∃ known, bundled.names = .ok known ∧ ∀ name ∈ known,
    ∃ d, (bundled.lookup name).1 = .ok d ∧ ((bundled.lookup name).2.lookup d.name).1 = .ok d := by
  obtain ⟨known,names,_,_,_,answered,again⟩ := catalogAnswers bundledChecked
  have each : ∀ e ∈ Bundled.catalogAliases, e.1 ∉ Table.names Bundled.catalogRules ∧
      (Schema.violations [] (.options (Table.names Bundled.catalogRules)) e.2).isEmpty = true := by decide +kernel
  refine ⟨bundledChecked,known,names,fun name inside => ?_⟩
  have grounded : bundled.Grounded name := by
    rintro key ⟨_,⟨⟩,stands⟩
    obtain ⟨_,declared,⟨⟩⟩ := Schema.optionsMet.mp (List.isEmpty_iff.mp (each _ (memOfGet stands)).2)
    exact ⟨_,rfl,declared⟩
  obtain ⟨d,found⟩ := (answered name inside).mpr grounded
  obtain ⟨⟨_,⟨⟩,declared⟩,back⟩ := again name d found
  refine ⟨d,found,back.mpr ?_⟩
  rintro key ⟨_,⟨⟩,stands⟩
  exact absurd declared (each _ (memOfGet stands)).1

def alphabet (rest aliases : Value.Fields) : Value :=
  .object [("rules",.object (("letters",.object [("kind",.text "regex"),("pattern",.text "^[a-z]+$"),
    ("message",.text "NO_LETTERS")]) :: rest)),("aliases",.object aliases)]

def relayed : Value := alphabet [] [("abc",.text "alphabet"),("alphabet",.text "letters")]

def overnamed : Value :=
  alphabet [("digits",.object [("kind",.text "regex"),("pattern",.text "^[0-9]+$"),("message",.text "NO_DIGITS")])]
    [("alphabet",.text "letters"),("letters",.text "digits")]

theorem listedUnanswered :
    (∃ c, Schema.ruleCatalog.Meets relayed ∧ ofDocument relayed = .ok c ∧ c.names = .ok ["abc","alphabet","letters"] ∧
      (c.lookup "abc").1 = .error (.problem (.unknownRule "abc" ["abc","alphabet","letters"]))) ∧
    ∃ c d e, Schema.ruleCatalog.Meets overnamed ∧ ofDocument overnamed = .ok c ∧ (c.lookup "alphabet").1 = .ok d ∧
      ((c.lookup "alphabet").2.lookup d.name).1 = .ok e ∧ d.name = "letters" ∧ e.name = "digits" := by
  refine ⟨⟨_,Schema.checkedMeets.mp (by decide +kernel),rfl,rfl,rfl⟩,?_⟩
  exact ⟨_,_,_,Schema.checkedMeets.mp (by decide +kernel),rfl,rfl,rfl,rfl,rfl⟩

end Catalog
end FormGuard
