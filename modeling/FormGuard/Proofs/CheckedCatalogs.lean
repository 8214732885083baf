import FormGuard.Check.Comparison
import FormGuard.Proofs.CatalogReading

/-! Catalogs over a document that met its schema. Every entry of theirs declares a rule, so that a name is that of a
rule or of none. -/
namespace FormGuard

theorem compareScaled {n k unit : Int} (some : 0 < unit) : compare (n*unit) (k*unit) = compare n k := by
  have below : n*unit < k*unit ↔ n < k := Int.mul_lt_mul_right some
  have same : n*unit = k*unit ↔ n = k := Int.mul_eq_mul_right_iff (by omega)
  simp only [compare,compareOfLessAndEq,below,same]

theorem Binary64.compareWhole {x : Binary64} {n k : Int} (whole : x.toInt? = some n) : x.compareInt? k = some (compare n k) := by
  cases x with
  | nan => contradiction
  | infinite => contradiction
  | finite negative s e =>
    simp only [toInt?,Option.bind_eq_bind,Option.bind_eq_some_iff] at whole
    obtain ⟨⟨m,shift⟩,dyadic,whole⟩ := whole
    have unit : (0 : Int) < (Nat.pow 2 shift : Nat) := Int.natCast_pos.mpr (Nat.two_pow_pos shift)
    dsimp only at whole
    split at whole
    · rename_i divides
      cases whole
      have scaled : m = m / (Nat.pow 2 shift : Nat) * (Nat.pow 2 shift : Nat) :=
        (Int.ediv_mul_cancel (Int.dvd_of_emod_eq_zero divides)).symm
      have compared : compareDyadic (m,shift) (k,0) = compare (m / (Nat.pow 2 shift : Nat)) k := by
        rw [← compareScaled unit,← scaled]
        exact congrArg (compare · _) (Int.mul_one m)
      simp only [compareInt?,dyadic,Option.bind_eq_bind,Option.bind_some,compared]
      rfl
    · contradiction

namespace Schema

theorem maximumMet {declared n k v} (whole : RuleDefinition.count? v = some n) (met : violations declared (maximum k) v = []) :
    n ≤ k := by
  have standing : v.standing (.int k) = .ordered (compare n k) := by
    cases v with
    | int m =>
      cases whole
      rfl
    | float x =>
      have compared := Binary64.compareWhole (k := k) whole
      simp [Value.standing,Value.amountStanding,Value.amount?,Value.compareAmounts?,compared]
    | _ => contradiction
  have number : isNumber v = true := by
    cases v <;> first | rfl | contradiction
  change (if isNumber v && gtInt v k then complain declared v (.tooGreat v k) else []) = [] at met
  refine Int.not_lt.mp fun greater => ?_
  have above : compare n k = .gt := Int.compare_eq_gt.mpr greater
  simp [number,gtInt,standing,above,complain] at met

end Schema

theorem countTaken {v} (ok : Schema.count.Meets v) : ∃ n, RuleDefinition.count? v = some n ∧ n ≤ 2 := by
  simp only [Schema.count,Schema.meetsAll,List.forall_mem_cons] at ok
  obtain ⟨kind,_,most,_⟩ := ok
  have kind := Schema.kindsMet.mp kind
  have whole : ∃ n, RuleDefinition.count? v = some n := by
    cases v with
    | int n => exact ⟨n,rfl⟩
    | float x => exact Option.isSome_iff_exists.mp (by simpa [SchemaKind.fits,RuleDefinition.count?] using kind)
    | _ => simp [SchemaKind.fits] at kind
  obtain ⟨n,whole⟩ := whole
  exact ⟨n,whole,Schema.maximumMet whole most⟩

theorem arityTaken {v} (ok : ∀ w, v = some w → (Schema.all [.oneOf [Schema.count,.all [.kinds [.array],.items Schema.count,
    .minItems 2,.maxItems 2]]]).Meets w) : ∃ pair, RuleDefinition.arityOf v = .ok pair ∧ pair.2 ≤ 2 := by
  cases v with
  | none => exact ⟨_,rfl,by decide⟩
  | some w =>
    have shape := ok w rfl
    simp only [Schema.meetsAll,List.forall_mem_cons] at shape
    obtain ⟨b,inside,met⟩ := Schema.oneOfMet.mp shape.1
    simp only [List.mem_cons,List.not_mem_nil,or_false] at inside
    rcases inside with rfl | rfl
    · obtain ⟨n,count,most⟩ := countTaken met
      refine ⟨(n,n),?_,most⟩
      cases w <;> simp [RuleDefinition.count?] at count <;> simp [RuleDefinition.arityOf,RuleDefinition.count?,count]
    · obtain ⟨a,b,rfl,ha,hb⟩ := Schema.pairMet met
      obtain ⟨m,hm,_⟩ := countTaken ha
      obtain ⟨n,hn,most⟩ := countTaken hb
      exact ⟨(m,n),by simp [RuleDefinition.arityOf,hm,hn],most⟩

structure RuleEntry (fields : Value.Fields) : Prop where
  params : ∃ pair, RuleDefinition.arityOf (Table.get? fields "params") = .ok pair
  kind : ∃ s k, Table.get? fields "kind" = some (.text s) ∧ RuleKind.named? s = some k
  condition : ∃ condition, RuleDefinition.conditionOf (Table.get? fields "condition") = .ok condition
  message : ∃ s, Table.get? fields "message" = some (.text s)
  pattern : ∃ text, RuleDefinition.textOf? (Table.get? fields "pattern") = .ok text
  dateFormat : ∃ text, RuleDefinition.textOf? (Table.get? fields "date_format") = .ok text
  paramType : Table.get? fields "param_type" = none ∨ ∃ s, Table.get? fields "param_type" = some (.text s)

theorem RuleEntry.defined {fields} (entry : RuleEntry fields) (name : String) :
    ∃ d, RuleDefinition.ofEntry name (.object fields) = .ok d := by
  obtain ⟨⟨⟨least,most⟩,hp⟩,⟨s,k,hk,hn⟩,⟨condition,hc⟩,⟨message,hm⟩,⟨pattern,ht⟩,⟨format,hd⟩,type⟩ := entry
  rcases type with none | ⟨label,some⟩
  · exact ⟨_,by simp only [RuleDefinition.ofEntry,hp,hk,hn,hc,hm,ht,hd,none]; rfl⟩
  · exact ⟨_,by simp only [RuleDefinition.ofEntry,hp,hk,hn,hc,hm,ht,hd,some]; rfl⟩

theorem operatorTaken {v} (ok : Schema.operator.Meets v) : ∃ s op, v = .text s ∧ Operator.named? s = some op := by
  simp only [Schema.operator,Schema.meetsAll,List.forall_mem_cons] at ok
  obtain ⟨s,inside,rfl⟩ := Schema.optionsMet.mp ok.1
  have known : ∀ s ∈ ["<","<=",">",">=","=","==","!=","<>"], (Operator.named? s).isSome = true := by decide
  obtain ⟨op,named⟩ := Option.isSome_iff_exists.mp (known s inside)
  exact ⟨s,op,rfl,named⟩

inductive Condition.Declared : Condition → Prop
  | absent : Declared .absent
  | single {s op} (named : Operator.named? s = some op) : Declared (.single s)
  | pair {s t low high} (first : Operator.named? s = some low) (second : Operator.named? t = some high) :
      Declared (.several [s,t])

theorem conditionTaken {v} (ok : ∀ w, v = some w → (Schema.all [.oneOf [Schema.operator,.all [.kinds [.array],
    .items Schema.operator,.minItems 2,.maxItems 2]]]).Meets w) :
    ∃ condition, RuleDefinition.conditionOf v = .ok condition ∧ condition.Declared := by
  cases v with
  | none => exact ⟨_,rfl,.absent⟩
  | some w =>
    have shape := ok w rfl
    simp only [Schema.meetsAll,List.forall_mem_cons] at shape
    obtain ⟨b,inside,met⟩ := Schema.oneOfMet.mp shape.1
    simp only [List.mem_cons,List.not_mem_nil,or_false] at inside
    rcases inside with rfl | rfl
    · obtain ⟨s,_,rfl,named⟩ := operatorTaken met
      exact ⟨_,rfl,.single named⟩
    · obtain ⟨a,b,rfl,ha,hb⟩ := Schema.pairMet met
      obtain ⟨s,_,rfl,first⟩ := operatorTaken ha
      obtain ⟨t,_,rfl,second⟩ := operatorTaken hb
      exact ⟨_,rfl,.pair first second⟩

theorem textTaken {v} (ok : ∀ w, v = some w → Schema.text.Meets w) : ∃ text, RuleDefinition.textOf? v = .ok text := by
  cases v with
  | none => exact ⟨_,rfl⟩
  | some w =>
    have shape := ok w rfl
    simp only [Schema.text,Schema.meetsAll,List.forall_mem_cons] at shape
    obtain ⟨s,rfl⟩ := Schema.textOfKind (Schema.kindsMet.mp shape.1)
    exact ⟨_,rfl⟩

theorem kindNamed : ∀ s ∈ ["regex","conditionalDate","conditionalNumber","match"], ∃ k, RuleKind.named? s = some k := by
  have all : ∀ s ∈ ["regex","conditionalDate","conditionalNumber","match"], (RuleKind.named? s).isSome = true := by decide
  exact fun s inside => Option.isSome_iff_exists.mp (all s inside)

theorem ruleEntry {entry} (ok : Schema.rule.Meets entry) : ∃ fields, entry = .object fields ∧ RuleEntry fields := by
  obtain ⟨fields,message,rfl,hm,_⟩ := Schema.ruleMessage ok
  simp only [Schema.rule,Schema.meetsAll,List.forall_mem_cons] at ok
  obtain ⟨_,shapes,present,_⟩ := ok
  have shape := Schema.entriesMet.mp shapes
  simp only [List.forall_mem_cons] at shape
  obtain ⟨kind,pattern,_,condition,format,params,type,_⟩ := shape
  have has := Schema.requiredMet.mp present "kind" (by simp)
  obtain ⟨v,found⟩ := Option.isSome_iff_exists.mp has
  obtain ⟨pair,arity,_⟩ := arityTaken params
  obtain ⟨operators,conditioned,_⟩ := conditionTaken condition
  refine ⟨fields,rfl,⟨pair,arity⟩,?_,⟨operators,conditioned⟩,⟨message,hm⟩,textTaken pattern,textTaken format,?_⟩
  · have met := kind v found
    simp only [Schema.meetsAll,List.forall_mem_cons] at met
    obtain ⟨s,inside,rfl⟩ := Schema.optionsMet.mp met.1
    obtain ⟨k,named⟩ := kindNamed s inside
    exact ⟨s,k,found,named⟩
  · cases ht : Table.get? fields "param_type" with
    | none => exact .inl rfl
    | some w =>
      have met := type w ht
      simp only [Schema.meetsAll,List.forall_mem_cons] at met
      obtain ⟨s,_,rfl⟩ := Schema.optionsMet.mp met.1
      exact .inr ⟨s,rfl⟩

namespace Catalog

/-- A catalog over a document that met its schema, with whatever it has looked up since. -/
structure Checked (c : Catalog) : Prop where
  document : ∃ document c₀, Schema.ruleCatalog.Meets document ∧ ofDocument document = .ok c₀ ∧ SameBook c₀ c
  remembers : c.Remembers

theorem checkedTables {c : Catalog} (checked : c.Checked) : ∃ rules aliases, c.rules = some rules ∧
    c.aliases = some aliases ∧ (∀ e ∈ rules, Schema.rule.Meets e.2) ∧ ∀ e ∈ aliases, ∃ s, e.2 = .text s := by
  obtain ⟨⟨document,c₀,shape,read,same⟩,_⟩ := checked
  obtain ⟨fields,rules,rfl,table,entries⟩ := Schema.catalogRules shape
  simp only [ofDocument,table,table?] at read
  cases read
  obtain ⟨hr,ha⟩ := same
  have others := Schema.catalogAliases shape
  cases hf : Table.get? fields "aliases" with
  | none =>
    rw [hf] at ha
    exact ⟨rules,[],hr,ha,entries,by simp⟩
  | some v =>
    obtain ⟨aliases,rfl,texts⟩ := others v hf
    rw [hf] at ha
    refine ⟨rules,aliases,hr,?_,entries,texts⟩
    cases aliases with
    | nil => exact ha
    | cons e rest => exact ha

theorem findAnswers {c : Catalog} (checked : c.Checked) (name : String) :
    (∃ d, c.find name = .ok d) ∨ ∃ known, c.find name = .error (.problem (.unknownRule name known)) := by
  obtain ⟨rules,aliases,hr,ha,entries,names⟩ := checkedTables checked
  have unknown : ∃ known, c.unknown name = .problem (.unknownRule name known) := by simp [Catalog.unknown,Catalog.names,hr,ha]
  have canonical : ∃ key, c.canonical name = .ok (.text key) := by
    simp only [Catalog.canonical,ha]
    cases hk : Table.get? aliases name with
    | none => exact ⟨name,rfl⟩
    | some v =>
      obtain ⟨s,same⟩ := names _ (memOfGet hk)
      exact ⟨s,congrArg Except.ok same⟩
  obtain ⟨known,unknown⟩ := unknown
  obtain ⟨key,canonical⟩ := canonical
  unfold Catalog.find
  rw [canonical,hr]
  dsimp only
  split
  · exact .inr ⟨known,congrArg Except.error unknown⟩
  · exact .inr ⟨known,congrArg Except.error unknown⟩
  · rename_i entry _ he
    obtain ⟨fields,rfl,entry⟩ := ruleEntry (entries _ (memOfGet he))
    obtain ⟨d,defined⟩ := entry.defined key
    exact .inl ⟨d,by rw [defined]⟩

def smallRules : Value :=
  .object [("rules",.object [
    ("at_most",.object [("kind",.text "conditionalNumber"),("condition",.text "<="),("params",.int 1),
      ("message",.text "TOO_MUCH")]),
    ("at_least",.object [("kind",.text "regex"),("pattern",.text "^.\x7b$1,\x7d$"),("params",.int 1),
      ("param_type",.text "integer"),("message",.text "TOO_SHORT")])])]

def smallCatalog : Catalog := ⟨Catalog.table? smallRules >>= (Table.get? · "rules") >>= Catalog.table?,some [],[]⟩

theorem smallChecked : smallCatalog.Checked :=
  ⟨⟨smallRules,smallCatalog,Schema.checkedMeets.mp (by decide),rfl,.refl _⟩,freshRemembers rfl⟩

end Catalog
end FormGuard
