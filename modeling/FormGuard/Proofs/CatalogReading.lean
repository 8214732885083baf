import FormGuard.Proofs.SchemaDemands
import FormGuard.Rule.Pipeline

/-! Looking rules up and reading rule strings. What a catalog remembers never shows in an answer, and every rule of a
pipeline read over a catalog that met its schema has a message key. -/
namespace FormGuard

theorem bindOk {ε α β} {x : Except ε α} {f : α → Except ε β} {b : β} :
    x >>= f = .ok b ↔ ∃ a, x = .ok a ∧ f a = .ok b := by
  cases x <;> simp [bind,Except.bind]

theorem bindError {ε α β} {x : Except ε α} {f : α → Except ε β} {e : ε} :
    x >>= f = .error e ↔ x = .error e ∨ ∃ a, x = .ok a ∧ f a = .error e := by
  cases x <;> simp [bind,Except.bind]

theorem answered {ε α} {x : Except ε α} {a : α} (h : x.toOption = some a) : x = .ok a := by
  cases x with
  | error f => contradiction
  | ok b => exact congrArg Except.ok (Option.some.inj h)

theorem definedMessage {name fields d message}
    (defined : RuleDefinition.ofEntry name (.object fields) = .ok d)
    (found : Table.get? fields "message" = some (.text message)) : d.messageKey = message := by
  simp only [RuleDefinition.ofEntry,found,bindOk] at defined
  obtain ⟨_,_,rest⟩ := defined
  -- The kind and the type of parameters are read beside the message, and decide nothing about it.
  repeat' split at rest
  all_goals
    simp only [bindOk] at rest
    obtain ⟨_,_,_,_,_,key,_,_,_,_,_,_,last⟩ := rest
    cases key
    cases last
    rfl

theorem memOfGet {α} {t : Table α} {name a} (found : Table.get? t name = some a) : (name,a) ∈ t := by
  obtain ⟨before,behind,rfl,_⟩ := List.lookup_eq_some_iff.mp found
  simp

namespace Catalog

/-- Over the same rules and aliases, whatever is remembered of them. -/
def SameBook (c c' : Catalog) : Prop := c'.rules = c.rules ∧ c'.aliases = c.aliases

def Remembers (c : Catalog) : Prop := ∀ name d, c.loaded.lookup name = some d → c.find name = .ok d

def Keyed (c : Catalog) : Prop := ∀ name d, c.find name = .ok d → d.messageKey ≠ ""

theorem freshRemembers {c : Catalog} (fresh : c.loaded = []) : c.Remembers := by
  intro name d found
  rw [fresh] at found
  contradiction

theorem SameBook.refl (c : Catalog) : SameBook c c := ⟨rfl,rfl⟩

theorem SameBook.symm {c c' : Catalog} (h : SameBook c c') : SameBook c' c := ⟨h.1.symm,h.2.symm⟩

theorem SameBook.trans {a b c : Catalog} (h : SameBook a b) (k : SameBook b c) : SameBook a c :=
  ⟨k.1.trans h.1,k.2.trans h.2⟩

theorem findSameBook {c c' : Catalog} (same : SameBook c c') (name : String) : c'.find name = c.find name := by
  obtain ⟨hr,ha⟩ := same
  unfold find unknown names canonical
  rw [hr,ha]

theorem Keyed.sameBook {c c' : Catalog} (keyed : c.Keyed) (same : SameBook c c') : c'.Keyed :=
  fun name d found => keyed name d (by rwa [findSameBook same] at found)

theorem findEntry {c : Catalog} {name d} (found : c.find name = .ok d) :
    ∃ rules key entry, c.rules = some rules ∧ Table.get? rules key = some entry ∧
      RuleDefinition.ofEntry key entry = .ok d := by
  unfold find at found
  split at found
  · contradiction
  · contradiction
  · rename_i key rules _ hr
    split at found
    · contradiction
    · contradiction
    · rename_i entry _ he
      split at found
      · rename_i defined
        cases found
        exact ⟨rules,key,entry,hr,he,defined⟩
      · contradiction
  · split at found <;> contradiction

theorem documentKeyed {document c} (shape : Schema.ruleCatalog.Meets document)
    (read : Catalog.ofDocument document = .ok c) : c.Keyed := by
  intro name d found
  obtain ⟨fields,rules,rfl,table,entries⟩ := Schema.catalogRules shape
  obtain ⟨rules',key,entry,hr,he,defined⟩ := findEntry found
  simp only [ofDocument,table,table?] at read
  cases read
  cases hr
  have member : (key,entry) ∈ rules := memOfGet he
  obtain ⟨entryFields,message,rfl,hm,filled⟩ := Schema.ruleMessage (entries _ member)
  rw [definedMessage defined hm]
  exact filled

theorem lookupFinds {c : Catalog} (h : c.Remembers) (name : String) : (c.lookup name).1 = c.find name := by
  unfold lookup
  split
  · rename_i d hd
    exact (h name d hd).symm
  · split <;> simp_all

theorem lookupKeeps {c : Catalog} (h : c.Remembers) (name : String) :
    SameBook c (c.lookup name).2 ∧ (c.lookup name).2.Remembers := by
  unfold lookup
  split
  · exact ⟨.refl c,h⟩
  · split
    · rename_i d hd
      refine ⟨.refl c,?_⟩
      intro n e found
      change c.find n = .ok e
      simp only [List.lookup_cons] at found
      split at found
      · rename_i same
        cases found
        rw [beq_iff_eq.mp same]
        exact hd
      · exact h n e found
    · exact ⟨.refl c,h⟩

theorem describeKeeps (custom k ts) {c : Catalog} (h : c.Remembers) :
    SameBook c (c.describeTokens custom k ts).2 ∧ (c.describeTokens custom k ts).2.Remembers := by
  induction ts generalizing c k with
  | nil => exact ⟨.refl c,h⟩
  | cons t ts ih =>
    unfold describeTokens
    split
    · exact ⟨.refl c,h⟩
    · rename_i token _
      have kept := lookupKeeps h token.name
      split
      · rename_i hl
        rwa [hl] at kept
      · rename_i d c' hl
        rw [hl] at kept
        split
        · exact kept
        · have rest := ih (k := k+1) kept.2
          split <;> rename_i hd <;> rw [hd] at rest <;> exact ⟨kept.1.trans rest.1,rest.2⟩

theorem describeSameBook (custom k ts) {c c' : Catalog} (h : c.Remembers) (h' : c'.Remembers)
    (same : SameBook c c') : (c'.describeTokens custom k ts).1 = (c.describeTokens custom k ts).1 := by
  induction ts generalizing c c' k with
  | nil => rfl
  | cons t ts ih =>
    unfold describeTokens
    cases ht : Token.ofChars? t with
    | none => rfl
    | some token =>
      have answer : (c'.lookup token.name).1 = (c.lookup token.name).1 := by
        rw [lookupFinds h,lookupFinds h',findSameBook same]
      have kept := lookupKeeps h token.name
      have kept' := lookupKeeps h' token.name
      cases hl : c.lookup token.name with
      | mk r d =>
        cases hl' : c'.lookup token.name with
        | mk r' d' =>
          rw [hl] at answer kept
          rw [hl'] at answer kept'
          obtain rfl : r' = r := answer
          dsimp only
          rw [hl,hl']
          cases r' with
          | error f => rfl
          | ok definition =>
            dsimp only
            cases definition.describe custom token with
            | error f => rfl
            | ok descriptor =>
              have next : SameBook d d' := (kept.1.symm.trans same).trans kept'.1
              have rest := ih (k := k+1) kept.2 kept'.2 next
              dsimp only
              rcases hr : d.describeTokens custom (k+1) ts with ⟨_|_,_⟩ <;>
                rcases hr' : d'.describeTokens custom (k+1) ts with ⟨_|_,_⟩ <;> simp_all

theorem parseKeeps {c : Catalog} (h : c.Remembers) (rules : String) :
    SameBook c (c.parse rules).2 ∧ (c.parse rules).2.Remembers := by
  unfold parse
  split
  · exact ⟨.refl c,h⟩
  · rename_i source custom _
    have kept := describeKeeps custom 0 (Text.splitOn '|' source) h
    split <;> rename_i hd <;> rwa [hd] at kept

theorem parseSameBook {c c' : Catalog} (h : c.Remembers) (h' : c'.Remembers) (same : SameBook c c')
    (rules : String) : (c'.parse rules).1 = (c.parse rules).1 := by
  unfold parse
  cases Clause.extract rules with
  | error f => rfl
  | ok pair =>
    obtain ⟨source,custom⟩ := pair
    have answer := describeSameBook custom 0 (Text.splitOn '|' source) h h' same
    dsimp only
    rcases hd : c.describeTokens custom 0 (Text.splitOn '|' source) with ⟨_|_,_⟩ <;>
      rcases hd' : c'.describeTokens custom 0 (Text.splitOn '|' source) with ⟨_|_,_⟩ <;> simp_all

end Catalog

theorem describedRule {d : RuleDefinition} {custom token descriptor}
    (ok : d.describe custom token = .ok descriptor) :
    descriptor.ruleName = d.name ∧ descriptor.messageKey = d.messageKey := by
  unfold RuleDefinition.describe at ok
  split at ok
  · split at ok
    · contradiction
    · cases ok; exact ⟨rfl,rfl⟩
  · simp only [bindOk] at ok
    obtain ⟨_,_,_,_,_,_,last⟩ := ok
    cases last
    exact ⟨rfl,rfl⟩

def Pipeline.Keyed (p : Pipeline) : Prop := ∀ d ∈ p.descriptors, d.messageKey ≠ ""

namespace Catalog

def describeToken (c : Catalog) (custom : Option CustomClause) (position : Nat) (t : List Char) :
    Except Failure Descriptor :=
  match Token.ofChars? t with
  | none => .error (.problem (.emptyRule position))
  | some token => do (← c.find token.name).describe custom token

theorem describeCons {c : Catalog} (h : c.Remembers) (custom k t ts) :
    (c.describeTokens custom k (t::ts)).1 = do
      let descriptor ← c.describeToken custom k t
      let rest ← (c.describeTokens custom (k+1) ts).1
      return descriptor::rest := by
  rw [describeTokens]
  unfold describeToken
  cases Token.ofChars? t with
  | none => rfl
  | some token =>
    have answer := lookupFinds h token.name
    have kept := lookupKeeps h token.name
    rcases hl : c.lookup token.name with ⟨found,c'⟩
    rw [hl] at answer kept
    obtain rfl : found = c.find token.name := answer
    dsimp only at kept ⊢
    simp only [hl]
    cases hd : c.find token.name with
    | error f => rfl
    | ok d =>
      have rest := describeSameBook custom (k+1) ts h kept.2 kept.1
      rw [← rest]
      dsimp only
      cases hx : d.describe custom token with
      | error f => simp [bind,Except.bind,hx]
      | ok descriptor =>
        rcases hr : c'.describeTokens custom (k+1) ts with ⟨_|_,_⟩ <;> simp [bind,Except.bind,hx,pure,Except.pure]

end Catalog

theorem describedEach {custom k ts} {c : Catalog} {ds} (h : c.Remembers)
    (ok : (c.describeTokens custom k ts).1 = .ok ds) :
    ∀ descriptor ∈ ds, ∃ token d, c.find token.name = .ok d ∧ d.describe custom token = .ok descriptor := by
  induction ts generalizing k ds with
  | nil => cases ok; simp
  | cons t ts ih =>
    simp only [Catalog.describeCons h,bindOk] at ok
    obtain ⟨first,described,rest,ok,last⟩ := ok
    cases last
    refine List.forall_mem_cons.mpr ⟨?_,ih ok⟩
    unfold Catalog.describeToken at described
    split at described
    · contradiction
    · rename_i token _
      obtain ⟨d,found,described⟩ := bindOk.mp described
      exact ⟨token,d,found,described⟩

theorem parsedEach {c : Catalog} {rules p} (h : c.Remembers) (ok : (c.parse rules).1 = .ok p) :
    ∀ descriptor ∈ p.descriptors, ∃ token d, c.find token.name = .ok d ∧ d.describe p.custom token = .ok descriptor := by
  unfold Catalog.parse at ok
  split at ok
  · contradiction
  · split at ok
    · contradiction
    · rename_i hd
      cases ok
      exact describedEach h (by rw [hd])

theorem parsedKeyed {c : Catalog} {rules p} (h : c.Remembers) (keyed : c.Keyed)
    (ok : (c.parse rules).1 = .ok p) : p.Keyed := by
  intro descriptor inside
  obtain ⟨token,d,found,described⟩ := parsedEach h ok descriptor inside
  rw [(describedRule described).2]
  exact keyed token.name d found

end FormGuard
