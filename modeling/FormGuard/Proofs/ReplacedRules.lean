import FormGuard.Proofs.RecordMaking

/-! Other rules for a field. They are given to its record, or the field is registered once more with its attributes and the other
rules: either way the value is judged the same, and the page comes out the same but for the record itself. -/
namespace FormGuard

namespace Table
variable {α : Type} {lower upper : Table α}

theorem overlayKeeps {name : String} (there : name ∈ names lower) : name ∈ names (overlay lower upper) := by
  induction upper generalizing lower with
  | nil => exact there
  | cons e rest ih =>
    refine ih ?_
    rw [namesPut]
    split
    · exact there
    · exact List.mem_append_left _ there

theorem overlayDistinct (distinct : (names lower).Nodup) : (names (overlay lower upper)).Nodup := by
  induction upper generalizing lower with
  | nil => exact distinct
  | cons e rest ih => exact ih (nodupPut distinct e.1 e.2)

theorem overlayAgain {upper' : Table α} (distinct : (names upper').Nodup) (covers : ∀ n ∈ names lower, n ∈ names upper')
    (name : String) : get? (overlay lower upper') name = get? upper' name := by
  rw [overlayFinds distinct]
  cases above : get? upper' name with
  | some a => rfl
  | none =>
    have absent : name ∉ names lower := fun there => by
      obtain ⟨a,found⟩ := namedIff.mp (covers name there)
      rw [above] at found
      contradiction
    rw [Option.none_or]
    by_contra some
    exact absent (namedIff.mpr (Option.ne_none_iff_exists'.mp some))

end Table

namespace Attributes
variable {attrs attrs' : Value.Fields} {rules : String}

theorem rulesDemand (rules : String) : ∀ e ∈ known, e.1 = "rules" → e.2.Meets (.text rules) := by
  have text : (Schema.all [.kinds [.text]]).Meets (.text rules) :=
    Schema.meetsAll.mpr (List.forall_mem_cons.mpr ⟨Schema.kindsMet.mpr rfl,nofun⟩)
  simp [known,text]

section Replaced
variable (same : ∀ n, n ≠ "rules" → attrs'.get? n = attrs.get? n) (ruled : attrs'.get? "rules" = some (.text rules))
include same

theorem textAgain {n : String} (other : n ≠ "rules") : text? attrs' n = text? attrs n := by
  unfold text?
  rw [same n other]

theorem nameAgain : nameOf attrs' = nameOf attrs := by
  unfold nameOf
  rw [same "name" (by decide),same "elmName" (by decide)]

theorem limitAgain (usual : Delay) : typingLimit attrs' usual = typingLimit attrs usual := by
  unfold typingLimit
  rw [same "debounce" (by decide),same "typingLimit" (by decide)]

theorem translateAgain : isOn attrs' "translate" = isOn attrs "translate" := by
  unfold isOn
  rw [same "translate" (by decide)]

theorem friendlyAgain (t : Translator) (translate : Bool) : friendlyName t attrs' translate = friendlyName t attrs translate := by
  unfold friendlyName
  rw [textAgain same (by decide)]

theorem targetAgain : target attrs' = target attrs := by
  unfold target
  rw [textAgain same (by decide)]

include ruled

theorem meetsAgain (met : ofField.Meets (.object attrs)) : ofField.Meets (.object attrs') := by
  simp only [ofField,Schema.meetsAll,List.forall_mem_cons] at met ⊢
  obtain ⟨kind,shapes,_⟩ := met
  have shape := Schema.entriesMet.mp shapes
  refine ⟨Schema.kindsMet.mpr rfl,Schema.entriesMet.mpr fun e listed v found => ?_,
    Schema.anyOfMet.mpr ⟨_,List.mem_cons_self,?_⟩,List.forall_mem_nil _⟩
  · by_cases own : e.1 = "rules"
    · rw [own,ruled] at found
      cases found
      exact rulesDemand rules e listed own
    · exact shape e listed v (by rwa [← same e.1 own])
  · refine Schema.meetsAll.mpr (List.forall_mem_cons.mpr ⟨Schema.requiredMet.mpr fun n listed => ?_,List.forall_mem_nil _⟩)
    rw [List.mem_singleton.mp listed]
    unfold Table.has
    rw [ruled]
    rfl

theorem recordAgain {t : Translator} {usual : Delay} {stamp : Nat} {r : Record} (made : record t usual stamp attrs = .ok r)
    (stamp' : Nat) : record t usual stamp' attrs' = .ok { r with stamp := stamp', rules := rules, attributes := attrs' } := by
  have other : text? attrs' "rules" = some rules := by
    unfold text?
    rw [ruled]
  unfold record at made ⊢
  dsimp only at made ⊢
  split at made
  · contradiction
  · rename_i filled
    split at made
    · contradiction
    · contradiction
    · rename_i least demand limited
      cases made
      have demand' : Attributes.demand ofField (.object attrs') = .ok () := by
        unfold Attributes.demand
        rw [Schema.checkedMeets.mpr (meetsAgain same ruled (demanded demand))]
      rw [nameAgain same,if_neg filled,demand',limitAgain same,limited,translateAgain same,friendlyAgain same,
        targetAgain same,other,@textAgain _ _ same "form" (by decide),@textAgain _ _ same "type" (by decide)]
      rfl

end Replaced
end Attributes

namespace Session
variable {s : Session} {name rules : String} {r r₁ r₂ : Record}

def redescribed (s : Session) (r : Record) (rules : String) : Record :=
  { r.origin with
    stamp := s.made
    rules := rules
    attributes := s.options.overlay (Table.put r.attributes "rules" (.text rules)) }

def readied (s : Session) (name rules : String) : Session :=
  { s with
    catalog := (s.catalog.parse rules).2
    timers := s.timers.drop name
    scheduler := s.silenced name }

structure Rejudged (s : Session) (r : Record) (rules : String) (r₁ r₂ : Record) (s₁ s₂ : Session) : Prop where
  rebound : s.rebindGiven (.text r.name) (.text rules) = (.ok r₁,s₁)
  readded : s.addGiven (.object r.attributes) (.text rules) = (.ok r₂,s₂)
  registered : s₁.registry.find? r.name = some r₁ ∧ s₂.registry.find? r.name = some r₂
  rules : r₁.rules = rules
  kept : r₁.stamp = r.stamp ∧ r₁.attributes = r.attributes ∧ r₁.state = r.state ∧ r₁.dirty = r.dirty ∧ r₁.touched = r.touched
  record : r₁ = { r₂ with
    stamp := r₁.stamp
    attributes := r₁.attributes
    state := r₁.state
    dirty := r₁.dirty
    touched := r₁.touched }
  order : s₁.registry.names = s.registry.names ∧ s₂.registry.names = s.registry.names
  summary : s₁.summary = s₂.summary
  timers : s₁.timers = s₂.timers ∧ s₁.scheduler = s₂.scheduler
  rest : s₁ = { s₂ with registry := s₂.registry.upsert r₁, made := s.made }

theorem attachKnown {y : Summary} {form : Option String} (known : form ∈ y.attached) : y.attach form = y := by
  unfold Summary.attach
  rw [if_pos (by simpa using known)]

theorem reboundEq (r : Record) (rules : String) (p : Option Pipeline) :
    { r.rebind rules with pipeline := p } = { r with rules := rules, pipeline := p } := by
  unfold Record.rebind
  split
  · rename_i same
    rw [same]
  · rfl

theorem recordFresh {t usual stamp attributes r} (ok : Attributes.record t usual stamp attributes = .ok r) :
    r = { r.origin with rules := r.rules } := by
  unfold Attributes.record at ok
  dsimp only at ok
  split at ok
  · contradiction
  · split at ok <;> cases ok
    rfl

theorem Minted.again {past : List Moment} (minted : Minted past s r) (distinct : (Table.names s.options).Nodup)
    (unchanged : ∀ m ∈ past, m.Makes r → m.before.options = s.options) (rules : String) :
    Attributes.record s.translator s.inactivityLimit s.made
      (s.options.overlay (Table.put r.attributes "rules" (.text rules))) = .ok (s.redescribed r rules) := by
  obtain ⟨⟨m,member,makes,own,bears⟩,r₀,made,becomes⟩ := minted
  rw [unchanged m member makes] at bears
  have covers : ∀ n ∈ Table.names s.options, n ∈ Table.names (Table.put r.attributes "rules" (.text rules)) := by
    intro n there
    rw [Table.namesPut,bears]
    split
    · exact Table.overlayKeeps there
    · exact List.mem_append_left _ (Table.overlayKeeps there)
  have names : (Table.names (Table.put r.attributes "rules" (.text rules))).Nodup := by
    refine Table.nodupPut ?_ _ _
    rw [bears]
    exact Table.overlayDistinct distinct
  have finds := @Table.overlayAgain _ s.options _ names covers
  have again := @Attributes.recordAgain r.attributes _ rules (fun n other => (finds n).trans (Table.getBesidePut other))
    ((finds "rules").trans Table.getPut) _ _ _ _ made s.made
  refine again.trans (congrArg Except.ok ?_)
  rw [recordFresh made,← becomes.origin]
  rfl

theorem enlistEq {own : Value.Fields} {p : Pipeline}
    (made : Attributes.record s.translator s.inactivityLimit s.made (s.options.overlay own) = .ok r)
    (parsed : (s.catalog.parse r.rules).1 = .ok p) : s.enlist own = (.ok { r with pipeline := some p },
      { s.readied r.name r.rules with summary := s.summary.attach r.form, made := s.made + 1 }.store
        { r with pipeline := some p }) := by
  have read : s.parse r.rules = (.ok p,{ s with catalog := (s.catalog.parse r.rules).2 }) := Prod.ext parsed rfl
  unfold enlist
  rw [made]
  dsimp only
  rw [read]
  dsimp only
  rw [cancelTimerEq]
  rfl

theorem retuneEq {p : Pipeline} (found : s.registry.find? name = some r) (parsed : (s.catalog.parse rules).1 = .ok p) :
    s.retune name rules = (.ok { r with rules := rules, pipeline := some p },
      (s.readied name rules).store { r with rules := rules, pipeline := some p }) := by
  have read : s.parse rules = (.ok p,{ s with catalog := (s.catalog.parse rules).2 }) := Prod.ext parsed rfl
  unfold retune
  rw [read]
  dsimp only
  rw [found]
  dsimp only
  rw [reboundEq,cancelTimerEq]
  rfl

theorem attributesAgain (attributes : Value.Fields) (rules : String) :
    attributesGiven (.object attributes) (.text rules) = .ok (Table.put attributes "rules" (.text rules)) := by
  cases attributes <;> rfl

theorem upsertNames (found : s.registry.find? r.name = some r₁) : (s.registry.upsert r).names = s.registry.names :=
  (Table.namesPut _ _ _).trans (if_pos (Table.namedIff.mpr ⟨r₁,found⟩))

theorem acceptedEither (named : r₁.name = r₂.name) (friendly : r₁.friendlyName = r₂.friendlyName) (form : r₁.form = r₂.form)
    (o : FieldOutcome) (made : Nat) : (s.store r₁).accept r₁ o =
      { (({ s with made := made }.store r₂).accept r₂ o) with
        registry := (({ s with made := made }.store r₂).accept r₂ o).registry.upsert (r₁.withVerdict o)
        made := s.made } := by
  have registry : (s.registry.upsert r₁).upsert (r₁.withVerdict o) =
      ((s.registry.upsert r₂).upsert (r₂.withVerdict o)).upsert (r₁.withVerdict o) := by
    rw [@Registry.upsertTwice _ r₁ (r₁.withVerdict o) rfl,@Registry.upsertTwice _ r₂ (r₂.withVerdict o) rfl]
    exact (@Registry.upsertTwice s.registry (r₂.withVerdict o) (r₁.withVerdict o) named).symm
  have entry : (⟨r₁.name,(r₁.withVerdict o).message,r₁.friendlyName,r₁.form⟩ : SummaryEntry) =
      ⟨r₂.name,(r₂.withVerdict o).message,r₂.friendlyName,r₂.form⟩ := by
    rw [named,friendly,form]
    rfl
  exact congrArg₂ (fun registry summary => { s with registry := registry, summary := summary }) registry
    (congrArg s.summary.upsert entry)

theorem rejudged {p : Pipeline} (found : s.registry.find? r.name = some r) (known : r.form ∈ s.summary.attached)
    (described : Attributes.record s.translator s.inactivityLimit s.made
      (s.options.overlay (Table.put r.attributes "rules" (.text rules))) = .ok (s.redescribed r rules))
    (parsed : (s.catalog.parse rules).1 = .ok p) (unbroken : ¬ (SessionEvent.rebind (.text r.name) (.text rules)).BreaksDown s) :
    ∃ r₁ r₂ s₁ s₂, Rejudged s r rules r₁ r₂ s₁ s₂ := by
  have entry₁ := retuneEq found parsed
  have entry₂ := enlistEq described parsed
  rw [@attachKnown _ (s.redescribed r rules).form known] at entry₂
  have asked := (@SessionEvent.rebindQuestion s r.name (.text rules) rules rfl).trans (congrArg Question.ofPresent entry₁)
  cases answered : Question.answer ⟨(s.readied r.name rules).store { r with rules := rules, pipeline := some p },
      { r with rules := rules, pipeline := some p },s.source.value r.name⟩ with
  | error f => exact absurd (.inr ⟨_,f,asked,answered⟩) unbroken
  | ok o =>
    have rebound := @reboundAnswered _ _ _ (.text rules) _ _ _ rfl entry₁ answered
    have readded := addAnswered (attributesAgain r.attributes rules) entry₂ answered
    have order (r' : Record) (named : r'.name = r.name) :
        ((s.registry.upsert r').upsert (r'.withVerdict o)).names = s.registry.names := by
      rw [@Registry.upsertTwice _ r' (r'.withVerdict o) rfl]
      rw [← named] at found
      exact upsertNames found
    have page := @acceptedEither (s.readied r.name rules) { r with rules := rules, pipeline := some p }
      { s.redescribed r rules with pipeline := some p } rfl rfl rfl o (s.made + 1)
    exact ⟨_,_,_,_,rebound,readded,⟨Registry.findUpserted,Registry.findUpserted⟩,rfl,⟨rfl,rfl,rfl,rfl,rfl⟩,rfl,
      ⟨order _ rfl,order _ rfl⟩,rfl,⟨rfl,rfl⟩,page⟩

/-- Other rules given to a field come to the same as the field registered again with its attributes and these rules, as long as
the page gives it the attributes that it gave when the field was registered. -/
theorem rulesReplaced {opening : Session} {past} (opened : opening.Opened) (run : opening.Run past s) (smooth : Smooth past)
    (distinct : (Table.names s.options).Nodup) (found : s.registry.find? name = some r)
    (unchanged : ∀ m ∈ past, m.Makes r → m.before.options = s.options) {p : Pipeline} (parsed : (s.parse rules).1 = .ok p)
    (unbroken : ¬ (SessionEvent.rebind (.text name) (.text rules)).BreaksDown s) :
    r.name = name ∧ ∃ r₁ r₂ s₁ s₂, Rejudged s r rules r₁ r₂ s₁ s₂ := by
  obtain rfl : r.name = name := ((runOrdered opened run).proper found).named
  have described := (runMinted opened run found).again distinct unchanged rules
  exact ⟨rfl,rejudged found (runContexts opened run smooth found) described parsed unbroken⟩

theorem waitingReplaced : ∃ past s r p, (smallPage true).Opened ∧ (smallPage true).Run past s ∧ Smooth past ∧
    (Table.names s.options).Nodup ∧ s.registry.find? "x" = some r ∧ (∀ m ∈ past, m.Makes r → m.before.options = s.options) ∧
    (s.parse "letter:alt=Only a").1 = .ok p ∧
    ¬ (SessionEvent.rebind (.text "x") (.text "letter:alt=Only a")).BreaksDown s ∧ r.message = "NO_A" ∧
    ∃ r₁ r₂ s₁ s₂, Rejudged s r "letter:alt=Only a" r₁ r₂ s₁ s₂ ∧ r₁.message = "Only a" := by
  have run : (smallPage true).Run _ (retyped.run (smallField true)).2 := .next (smallFieldRun true) retyped nofun
  have quiet : retyped.breaks (smallField true) = false := by decide +kernel
  have early : (smallField true).options.isEmpty = true := by decide +kernel
  have late : (retyped.run (smallField true)).2.options.isEmpty = true := by decide +kernel
  have known : ((retyped.run (smallField true)).2.registry.find? "x").map (·.message) = some "NO_A" := by decide +kernel
  have read : ((retyped.run (smallField true)).2.parse "letter:alt=Only a").1.toOption.isSome = true := by decide +kernel
  have unbroken : (SessionEvent.rebind (.text "x") (.text "letter:alt=Only a")).breaks (retyped.run (smallField true)).2 =
      false := by decide +kernel
  have told : ((retyped.run (smallField true)).2.rebindGiven (.text "x") (.text "letter:alt=Only a")).1.toOption.map
      (·.message) = some "Only a" := by decide +kernel
  generalize (retyped.run (smallField true)).2 = s at *
  have smooth := Smooth.next quiet (smallSmooth true)
  obtain ⟨r,found,message⟩ := Option.map_eq_some_iff.mp known
  obtain ⟨p,parsed⟩ := Option.isSome_iff_exists.mp read
  have free := List.isEmpty_iff.mp late
  have distinct : (Table.names s.options).Nodup := by
    rw [free]
    exact .nil
  have unchanged : ∀ m ∈ [Moment.mk (smallField true) retyped,⟨smallPage true,smallEntry⟩], m.Makes r →
      m.before.options = s.options := by
    rw [free]
    exact List.forall_mem_cons.mpr ⟨fun _ => List.isEmpty_iff.mp early,List.forall_mem_singleton.mpr fun _ => rfl⟩
  have calm : ¬ (SessionEvent.rebind (.text "x") (.text "letter:alt=Only a")).BreaksDown s := by
    rw [← SessionEvent.breaksIff,unbroken]
    exact Bool.false_ne_true
  obtain ⟨named,r₁,r₂,s₁,s₂,judged⟩ := rulesReplaced (smallOpened true) run smooth distinct found unchanged (answered parsed) calm
  refine ⟨_,_,r,p,smallOpened true,run,smooth,distinct,found,unchanged,answered parsed,calm,message,r₁,r₂,s₁,s₂,judged,?_⟩
  rw [← named,judged.rebound] at told
  exact Option.some.inj told

end Session
end FormGuard
