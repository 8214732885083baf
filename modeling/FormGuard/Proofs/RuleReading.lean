import FormGuard.Proofs.RuleFailures
import FormGuard.Proofs.TextCuts
import Mathlib.Data.List.Forall2

/-! How rule strings are taken. A pipeline is the descriptors of the tokens in their order, each described for itself; what
the custom clause holds is asked for by the custom rule only. -/
namespace FormGuard
open Text

def barred (tokens : List String) : String := String.ofList (join ['|'] (tokens.map String.toList))

theorem definedName {name entry d} (defined : RuleDefinition.ofEntry name entry = .ok d) : d.name = name := by
  cases entry with
  | object fields =>
    simp only [RuleDefinition.ofEntry,bindOk] at defined
    obtain ⟨_,_,rest⟩ := defined
    -- What is read of the other entries decides nothing about the name.
    repeat' split at rest
    all_goals
      simp only [bindOk] at rest
      obtain ⟨_,_,_,_,_,_,_,_,_,_,_,_,last⟩ := rest
      cases last
      rfl
  | _ => contradiction

theorem succeeds {ε α} {x : Except ε α} (some : x.toOption.isSome = true) : ∃ a, x = .ok a := by
  cases x with
  | error e => contradiction
  | ok a => exact ⟨a,rfl⟩

namespace CustomClause

def body (clause : CustomClause) : List Char := clause.message.toList++(Clause.separator++clause.pattern.toList)

def spell (clause : CustomClause) : List Char := Clause.opening++(clause.body++Clause.closing)

end CustomClause

namespace Clause

theorem openingDistinct : Distinct opening := ⟨_,_,rfl,by decide⟩

theorem closingDistinct : Distinct closing := ⟨_,_,rfl,by decide⟩

theorem separatorDistinct : Distinct separator := ⟨_,_,rfl,by decide⟩

theorem nextNone {cs : List Char} (free : ¬ opening <:+: cs) : next? cs = none := by
  simp [next?,breakNone.mpr free]

theorem nextIff {cs before body behind : List Char} : next? cs = some (before,body,behind) ↔
    cs = before++(opening++(body++(closing++behind))) ∧ ¬ opening <:+: before ∧ ¬ closing <:+: body := by
  simp only [next?,Option.bind_eq_bind,Option.bind_eq_some_iff,Prod.exists,openingDistinct.breakIff,closingDistinct.breakIff]
  constructor
  · rintro ⟨_,_,⟨rfl,outside⟩,_,_,⟨rfl,within⟩,⟨⟩⟩
    exact ⟨rfl,outside,within⟩
  · rintro ⟨rfl,outside,within⟩
    exact ⟨_,_,⟨rfl,outside⟩,_,_,⟨rfl,within⟩,rfl⟩

/-- A clause in a rule string, found there and alone in it. -/
structure Alone (before : List Char) (clause : CustomClause) (behind : List Char) : Prop where
  outside : ¬ opening <:+: before
  message : ¬ separator <:+: clause.message.toList
  within : ¬ closing <:+: clause.body
  last : next? behind = none
  pattern : ∃ node, Pattern.read .none clause.pattern.toList = .ok node

theorem readableOk {pattern otherwise} : readable pattern otherwise = .ok () ↔ ∃ node, Pattern.read .none pattern = .ok node := by
  unfold readable
  cases Pattern.read .none pattern with
  | ok node => simp
  | error d => cases fault : d.fault <;> simp [fault]

theorem extractFree {rules : String} (free : ¬ opening <:+: rules.toList) : extract rules = .ok (rules.toList,none) := by
  have none : occurs opening rules.toList = false := by rwa [← Bool.not_eq_true,occursIff]
  simp [extract,none]

theorem extractClause {rules : String} {before behind} {clause : CustomClause} (alone : Alone before clause behind)
    (whole : rules.toList = before++(clause.spell++behind)) :
    extract rules = .ok (before++opening++behind,some clause) := by
  have next : next? rules.toList = some (before,clause.body,behind) :=
    nextIff.mpr ⟨by simp [whole,CustomClause.spell],alone.outside,alone.within⟩
  have cut : breakOn? separator clause.body = some (clause.message.toList,clause.pattern.toList) :=
    separatorDistinct.breakIff.mpr ⟨rfl,alone.message⟩
  unfold extract
  simp [nextOccurs next,next,alone.last,cut,readableOk.mpr alone.pattern]

theorem extracted {rules : String} {source custom} (taken : extract rules = .ok (source,custom)) :
    (custom = none ∧ source = rules.toList ∧ ¬ opening <:+: rules.toList) ∨
      ∃ before clause behind, custom = some clause ∧ Alone before clause behind ∧
        rules.toList = before++(clause.spell++behind) ∧ source = before++opening++behind := by
  by_cases opens : opening <:+: rules.toList
  · have occurs := occursIff.mpr opens
    unfold extract at taken
    simp only [occurs,Bool.not_true,Bool.false_eq_true,if_false] at taken
    cases next : next? rules.toList with
    | none => simp [next] at taken
    | some parts =>
      obtain ⟨before,body,behind⟩ := parts
      obtain ⟨whole,outside,within⟩ := nextIff.mp next
      cases again : next? behind with
      | some => simp [next,again] at taken
      | none =>
        cases cut : breakOn? separator body with
        | none => simp [next,again,cut] at taken
        | some halves =>
          obtain ⟨message,pattern⟩ := halves
          obtain ⟨rfl,free⟩ := separatorDistinct.breakIff.mp cut
          simp only [next,again,cut,Option.isSome_none,Bool.false_eq_true,if_false] at taken
          cases read : readable pattern (.badClausePattern (String.ofList pattern)) with
          | error f => simp [read] at taken
          | ok =>
            simp only [read,Except.ok.injEq,Prod.mk.injEq] at taken
            obtain ⟨rfl,rfl⟩ := taken
            refine .inr ⟨before,_,behind,rfl,⟨outside,?_,?_,again,?_⟩,?_,rfl⟩
            · simpa using free
            · simpa [CustomClause.body] using within
            · simpa using readableOk.mp read
            · simpa [CustomClause.spell,CustomClause.body] using whole
  · rw [extractFree opens] at taken
    cases taken
    exact .inl ⟨rfl,rfl,opens⟩

end Clause

namespace Catalog

def Describes (c : Catalog) (custom : Option CustomClause) (t : List Char) (descriptor : Descriptor) : Prop :=
  c.describeToken custom 0 t = .ok descriptor

theorem describesIff {c : Catalog} {custom t descriptor} : c.Describes custom t descriptor ↔
    ∃ token d, Token.ofChars? t = some token ∧ c.find token.name = .ok d ∧ d.describe custom token = .ok descriptor := by
  unfold Describes describeToken
  cases Token.ofChars? t with
  | none => simp
  | some token => simp [bindOk]

theorem describedIff {c : Catalog} (h : c.Remembers) {custom k ts ds} :
    (c.describeTokens custom k ts).1 = .ok ds ↔ List.Forall₂ (c.Describes custom) ts ds := by
  induction ts generalizing k ds with
  | nil =>
    rw [List.forall₂_nil_left_iff]
    exact ⟨by rintro ⟨⟩; rfl,by rintro rfl; rfl⟩
  | cons t ts ih =>
    simp only [describeCons h,bindOk,pure,Except.pure,Except.ok.injEq,List.forall₂_cons_left_iff,ih]
    constructor
    · rintro ⟨descriptor,first,rest,others,rfl⟩
      exact ⟨descriptor,rest,describePosition first 0,others,rfl⟩
    · rintro ⟨descriptor,rest,first,others,rfl⟩
      exact ⟨descriptor,describePosition first k,rest,others,rfl⟩

theorem parsedIff {c : Catalog} (h : c.Remembers) {rules p} : (c.parse rules).1 = .ok p ↔
    ∃ source custom ds, Clause.extract rules = .ok (source,custom) ∧
      List.Forall₂ (c.Describes custom) (splitOn '|' source) ds ∧
      p = ⟨String.ofList source,ds,ds.any (·.ruleName == requiredRule),custom⟩ := by
  unfold parse
  cases Clause.extract rules with
  | error f => simp
  | ok pair =>
    obtain ⟨source,custom⟩ := pair
    have each {ds} : (c.describeTokens custom 0 (splitOn '|' source)).1 = .ok ds ↔
        List.Forall₂ (c.Describes custom) (splitOn '|' source) ds := describedIff h
    constructor
    · intro parsed
      rcases hd : c.describeTokens custom 0 (splitOn '|' source) with ⟨_ | ds,_⟩ <;> simp only [hd] at parsed
      · cases parsed
      · cases parsed
        exact ⟨source,custom,ds,rfl,each.mp (by rw [hd]),rfl⟩
    · rintro ⟨_,_,ds,⟨⟩,described,rfl⟩
      have ok := each.mpr described
      rcases hd : c.describeTokens custom 0 (splitOn '|' source) with ⟨_ | ds',_⟩ <;> rw [hd] at ok <;> cases ok
      simp [hd]

theorem parsedSole {c : Catalog} {rules d} (read : (c.parse rules).1.toOption.map Pipeline.descriptors = some [d]) :
    ∃ p, (c.parse rules).1 = .ok p ∧ d ∈ p.descriptors := by
  obtain ⟨p,read,descriptors⟩ := Option.map_eq_some_iff.mp read
  exact ⟨p,answered read,by rw [descriptors]; exact List.mem_singleton_self d⟩

theorem parsedDescribes {c : Catalog} (h : c.Remembers) {rules p} (parsed : (c.parse rules).1 = .ok p) :
    ∀ e ∈ p.descriptors, ∃ t, c.Describes p.custom t e := by
  obtain ⟨source,custom,ds,_,each,rfl⟩ := (parsedIff h).mp parsed
  clear parsed
  generalize splitOn '|' source = ts at each
  induction each with
  | nil => exact List.forall_mem_nil _
  | cons described _ ih => exact List.forall_mem_cons.mpr ⟨⟨_,described⟩,ih⟩

theorem parsedClause {c : Catalog} (h : c.Remembers) {rules p} (parsed : (c.parse rules).1 = .ok p) {clause}
    (given : p.custom = some clause) : ∃ node, Pattern.read .none clause.pattern.toList = .ok node := by
  obtain ⟨source,custom,ds,taken,_,rfl⟩ := (parsedIff h).mp parsed
  cases given
  obtain ⟨none,_⟩ | ⟨_,_,_,⟨⟩,alone,_⟩ := Clause.extracted taken
  · cases none
  · exact alone.pattern

end Catalog

theorem plainDescribe {d : RuleDefinition} (plain : d.name ≠ customRule) (custom other token) :
    d.describe custom token = d.describe other token := by
  unfold RuleDefinition.describe
  simp [plain]

theorem customDescribe {d : RuleDefinition} (named : d.name = customRule) {clause token descriptor} :
    d.describe (some clause) token = .ok descriptor ↔
      descriptor = ⟨d.name,d.kind,d.messageKey,some clause.pattern,token.altText,[clause.message],.absent,none⟩ := by
  unfold RuleDefinition.describe
  simp [named,eq_comm]

theorem describedPlain {c : Catalog} {t descriptor} (described : c.Describes none t descriptor) :
    descriptor.ruleName ≠ customRule ∧ ∀ custom, c.Describes custom t descriptor := by
  simp only [Catalog.describesIff] at described ⊢
  obtain ⟨token,d,named,found,described⟩ := described
  have plain : d.name ≠ customRule := by
    intro custom
    simp [RuleDefinition.describe,custom] at described
  refine ⟨by rwa [(describedRule described).1],fun custom => ⟨token,d,named,found,?_⟩⟩
  rwa [plainDescribe plain custom none]

end FormGuard
