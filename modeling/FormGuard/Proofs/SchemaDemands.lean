import FormGuard.Config.Shape
import FormGuard.Schema.Violation

/-! What a value that meets a schema is known to be. Meeting is the absence of violations; the kinds declared beside a
demand colour the report only and never decide whether there is one. -/
namespace FormGuard.Schema

def Meets (s : Schema) (v : Value) : Prop := s.violations [] v = []

theorem checkedMeets {s : Schema} {v : Value} : s.check v = none ↔ s.Meets v := by
  unfold check Meets
  cases s.violations [] v with
  | nil => simp [Violation.heaviest?]
  | cons w ws => simp [Violation.heaviest?]

theorem allSilent {declared demands v} :
    violationsOfAll declared demands v = [] ↔ ∀ d ∈ demands, violations declared d v = [] := by
  induction demands with
  | nil => exact iff_of_true rfl (by simp)
  | cons d ds ih =>
    change violations declared d v ++ violationsOfAll declared ds v = [] ↔ _
    rw [List.append_eq_nil_iff,ih,List.forall_mem_cons]

theorem meetsAll {demands v} :
    (all demands).Meets v ↔ ∀ d ∈ demands, violations (declared demands) d v = [] := by
  change violationsOfAll (declared demands) demands v = [] ↔ _
  exact allSilent

theorem kindsMet {declared ks v} : violations declared (kinds ks) v = [] ↔ ks.any (·.fits v) = true := by
  change (if ks.any (·.fits v) then [] else complain declared v (.wrongKind v ks)) = [] ↔ _
  split <;> simp_all [complain]

theorem minLengthMet {declared n s} : violations declared (minLength n) (.text s) = [] ↔ n ≤ s.length := by
  change (if s.length < n then complain declared (.text s) (.tooShort (.text s) n) else []) = [] ↔ _
  simp [complain]

theorem entriesSilent {known fields} :
    violationsOfEntries known fields = [] ↔
      ∀ e ∈ known, ∀ v, Table.get? fields e.1 = some v → e.2.Meets v := by
  induction known with
  | nil => exact iff_of_true rfl (by simp)
  | cons e rest ih =>
    obtain ⟨n,s⟩ := e
    rw [violationsOfEntries,List.append_eq_nil_iff,ih,List.forall_mem_cons]
    refine and_congr_left fun _ => ?_
    cases Table.get? fields n with
    | none => simp
    | some v => simp [Meets]

theorem entriesMet {declared known fields} :
    violations declared (entries known) (.object fields) = [] ↔
      ∀ e ∈ known, ∀ v, Table.get? fields e.1 = some v → e.2.Meets v := by
  change violationsOfEntries known fields = [] ↔ _
  exact entriesSilent

theorem otherEntriesMet {declared s fields} :
    violations declared (otherEntries [] s) (.object fields) = [] ↔ ∀ e ∈ fields, s.Meets e.2 := by
  change ((fields.filter fun e => !([] : List String).contains e.1).flatMap fun e =>
    (violations [] s e.2).map (·.under (.entry e.1))) = [] ↔ _
  simp [List.flatMap_eq_nil_iff,Meets]

theorem requiredMet {declared names fields} :
    violations declared (required names) (.object fields) = [] ↔ ∀ n ∈ names, Table.has fields n = true := by
  change ((names.filter fun n => !Table.has fields n).flatMap fun n =>
    complain declared (.object fields) (.missing n)) = [] ↔ _
  simp [List.flatMap_eq_nil_iff,complain]

theorem objectOfKind {v} (ok : [SchemaKind.object].any (·.fits v) = true) : ∃ fields, v = .object fields := by
  cases v with
  | object fields => exact ⟨fields,rfl⟩
  | _ => contradiction

theorem textOfKind {v} (ok : [SchemaKind.text].any (·.fits v) = true) : ∃ s, v = .text s := by
  cases v with
  | text s => exact ⟨s,rfl⟩
  | _ => contradiction

theorem arrayOfKind {v} (ok : [SchemaKind.array].any (·.fits v) = true) : ∃ vs, v = .list vs := by
  cases v with
  | list vs => exact ⟨vs,rfl⟩
  | _ => contradiction

theorem nonEmptyTextMet {v} (ok : nonEmptyText.Meets v) : ∃ s, v = .text s ∧ s ≠ "" := by
  simp only [nonEmptyText,meetsAll,List.forall_mem_cons] at ok
  obtain ⟨kind,long,_⟩ := ok
  obtain ⟨s,rfl⟩ := textOfKind (kindsMet.mp kind)
  refine ⟨s,rfl,?_⟩
  rintro rfl
  have least := minLengthMet.mp long
  simp at least

theorem ruleMessage {entry} (ok : rule.Meets entry) :
    ∃ fields message, entry = .object fields ∧ Table.get? fields "message" = some (.text message) ∧ message ≠ "" := by
  simp only [rule,meetsAll,List.forall_mem_cons] at ok
  obtain ⟨kind,shapes,present,_⟩ := ok
  obtain ⟨fields,rfl⟩ := objectOfKind (kindsMet.mp kind)
  have has := requiredMet.mp present "message" (by simp)
  obtain ⟨v,found⟩ := Option.isSome_iff_exists.mp has
  have shape := entriesMet.mp shapes
  simp only [List.forall_mem_cons] at shape
  obtain ⟨s,rfl,filled⟩ := nonEmptyTextMet (shape.2.2.1 v found)
  exact ⟨fields,s,rfl,found,filled⟩

theorem catalogRules {document} (ok : ruleCatalog.Meets document) :
    ∃ fields rules, document = .object fields ∧ Table.get? fields "rules" = some (.object rules) ∧
      ∀ e ∈ rules, rule.Meets e.2 := by
  simp only [ruleCatalog,meetsAll,List.forall_mem_cons] at ok
  obtain ⟨kind,shapes,present,_⟩ := ok
  obtain ⟨fields,rfl⟩ := objectOfKind (kindsMet.mp kind)
  have has := requiredMet.mp present "rules" (by simp)
  obtain ⟨v,found⟩ := Option.isSome_iff_exists.mp has
  have shape := entriesMet.mp shapes
  simp only [List.forall_mem_cons] at shape
  have inner := shape.1 v found
  simp only [meetsAll,List.forall_mem_cons] at inner
  obtain ⟨rules,rfl⟩ := objectOfKind (kindsMet.mp inner.1)
  exact ⟨fields,rules,rfl,found,otherEntriesMet.mp inner.2.2.1⟩

theorem branchesMet {branches v} : violationsOfBranches branches v = none ↔ ∃ b ∈ branches, b.Meets v := by
  induction branches with
  | nil => exact iff_of_false nofun (by simp)
  | cons b rest ih =>
    rw [violationsOfBranches]
    cases hb : violations [] b v with
    | nil => simp [Meets,hb]
    | cons w ws => simp [Meets,hb,ih]

theorem choiceMet {declared branches v} :
    choice declared v (violationsOfBranches branches v) = [] ↔ ∃ b ∈ branches, b.Meets v := by
  rw [← branchesMet]
  cases violationsOfBranches branches v <;> simp [choice]

theorem oneOfMet {declared branches v} : violations declared (oneOf branches) v = [] ↔ ∃ b ∈ branches, b.Meets v :=
  choiceMet

theorem anyOfMet {declared branches v} : violations declared (anyOf branches) v = [] ↔ ∃ b ∈ branches, b.Meets v :=
  choiceMet

theorem optionsMet {declared texts v} : violations declared (options texts) v = [] ↔ ∃ s ∈ texts, v = .text s := by
  cases v with
  | text s =>
    change (if texts.contains s then [] else complain declared (.text s) (.noOption (.text s) texts)) = [] ↔ _
    simp [complain]
  | _ => exact iff_of_false (List.cons_ne_nil _ _) (by simp)

theorem itemsMet {declared s vs} : violations declared (items s) (.list vs) = [] ↔ ∀ v ∈ vs, s.Meets v := by
  change (vs.zipIdx.flatMap fun e => (violations [] s e.1).map (·.under (.position e.2))) = [] ↔ _
  simp only [List.flatMap_eq_nil_iff,List.map_eq_nil_iff,Meets]
  constructor
  · intro all v inside
    obtain ⟨i,bound,rfl⟩ := List.mem_iff_getElem.mp inside
    exact all (vs[i],i) (List.mk_mem_zipIdx_iff_getElem?.mpr (by simp [bound]))
  · rintro all ⟨v,i⟩ inside
    exact all v (List.mem_of_getElem? (List.mk_mem_zipIdx_iff_getElem?.mp inside))

theorem sizeMet {declared n vs} : violations declared (minItems n) (.list vs) = [] ∧
    violations declared (maxItems n) (.list vs) = [] ↔ vs.length = n := by
  change (if vs.length < n then complain declared (.list vs) (.tooFewItems (.list vs) n) else []) = [] ∧
    (if n < vs.length then complain declared (.list vs) (.tooManyItems (.list vs) n) else []) = [] ↔ _
  constructor
  · rintro ⟨least,most⟩
    split at least <;> split at most <;> simp_all [complain]
    omega
  · rintro rfl
    simp

theorem pairMet {s v} (ok : (all [kinds [.array],items s,minItems 2,maxItems 2]).Meets v) :
    ∃ a b, v = .list [a,b] ∧ s.Meets a ∧ s.Meets b := by
  simp only [meetsAll,List.forall_mem_cons] at ok
  obtain ⟨kind,each,least,most,_⟩ := ok
  obtain ⟨vs,rfl⟩ := arrayOfKind (kindsMet.mp kind)
  have both := itemsMet.mp each
  match vs,sizeMet.mp ⟨least,most⟩ with
  | [a,b],_ => exact ⟨a,b,rfl,both a (by simp),both b (by simp)⟩

theorem catalogAliases {fields} (ok : ruleCatalog.Meets (.object fields)) : ∀ v, Table.get? fields "aliases" = some v →
    ∃ aliases, v = .object aliases ∧ ∀ e ∈ aliases, ∃ s, e.2 = .text s := by
  intro v found
  simp only [ruleCatalog,meetsAll,List.forall_mem_cons] at ok
  have shape := entriesMet.mp ok.2.1
  simp only [List.forall_mem_cons] at shape
  have inner := shape.2.1 v found
  simp only [meetsAll,List.forall_mem_cons] at inner
  obtain ⟨aliases,rfl⟩ := objectOfKind (kindsMet.mp inner.1)
  refine ⟨aliases,rfl,fun e inside => ?_⟩
  have met := otherEntriesMet.mp inner.2.1 e inside
  simp only [text,meetsAll,List.forall_mem_cons] at met
  exact textOfKind (kindsMet.mp met.1)

end FormGuard.Schema
