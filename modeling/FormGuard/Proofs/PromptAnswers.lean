import FormGuard.Proofs.OwnAttributes
import FormGuard.Proofs.ReadObjects
import FormGuard.Proofs.RecordHistory
import FormGuard.Proofs.RefusedRequests
import FormGuard.Proofs.SummaryAgreement

/-! Answers without delay. Whatever requests ask for, every field that they register has a limit of none, so that none ever
waits: no timer is armed, and the answer to a value tells the verdict, which the summary that follows tells too. -/
namespace FormGuard

structure Record.Prompt (r : Record) : Prop where
  limit : r.typingLimit.ms ≤ 0
  settled : r.state ≠ .pending

namespace Session

structure Prompt (s : Session) : Prop where
  idle : s.timers = []
  asleep : s.scheduler = .start
  field {name r} : s.registry.find? name = some r → r.Prompt

namespace Prompt
variable {s s' : Session} {name : String} {r : Record}

theorem silent (h : s.Prompt) (name : String) : s.timers.drop name = [] ∧ s.silenced name = .start := by
  have absent : s.timers.get? name = none := by rw [h.idle]; rfl
  exact ⟨by rw [h.idle]; rfl,(silencedIdle absent).trans h.asleep⟩

theorem same (h : s.Prompt) (timers : s'.timers = s.timers) (scheduler : s'.scheduler = s.scheduler)
    (registry : s'.registry = s.registry) : s'.Prompt :=
  ⟨timers.trans h.idle,scheduler.trans h.asleep,fun found => h.field (registry ▸ found)⟩

theorem put (h : s.Prompt) (prompt : r.Prompt) (timers : s'.timers = []) (scheduler : s'.scheduler = .start)
    (registry : s'.registry = s.registry.upsert r) : s'.Prompt := by
  refine ⟨timers,scheduler,fun {m r'} found => ?_⟩
  rw [registry,Registry.findUpsert] at found
  split at found
  · cases found
    exact prompt
  · exact h.field found

theorem quietStep (h : s.Prompt) (step : s.QuietStep s') : s'.Prompt := by
  cases step with
  | aside same => exact h.same same.timers same.scheduler same.registry
  | discard name =>
    obtain ⟨timers,scheduler⟩ := h.silent name
    rw [removeEq]
    refine ⟨timers,scheduler,fun {m r} found => ?_⟩
    have entry : (s.registry.remove name).find? m = some r := found
    rw [Registry.findRemove] at entry
    split at entry
    · contradiction
    · exact h.field entry
  | reject e entered =>
    obtain ⟨timers,scheduler⟩ := h.silent e.field
    cases found : s.registry.find? e.field with
    | none =>
      rw [rejectAbsent found]
      exact h
    | some r =>
      rw [rejectEq found]
      exact h.put (r := { r with touched := true, state := .invalid }) ⟨(h.field found).limit,nofun⟩ timers scheduler rfl
  | abandon name =>
    obtain ⟨timers,scheduler⟩ := h.silent name
    cases found : s.registry.find? name with
    | none =>
      rw [abandonAbsent found]
      exact ⟨timers,scheduler,h.field⟩
    | some r =>
      rw [abandonEq found,if_neg (h.field found).settled]
      exact ⟨timers,scheduler,h.field⟩

theorem quiet (h : s.Prompt) (quiet : s.Quiet s') : s'.Prompt := by
  induction quiet with
  | refl => exact h
  | tail _ step ih => exact ih.quietStep step

theorem clears (h : s.Prompt) (clears : s.Clears s') : s'.Prompt := by
  have reset {s : Session} (h : s.Prompt) : s.reset.Prompt := by
    have pending := h.quiet (clearPendingQuiet s)
    exact ⟨pending.idle,pending.asleep,nofun⟩
  induction clears with
  | once => exact reset h
  | again _ ih => exact reset ih

theorem fired (h : s.Prompt) : s.fire.Prompt := by
  cases resets : SessionEvent.fire.resets s with
  | true => exact h.clears (SessionEvent.fireClears resets)
  | false =>
    rw [SessionEvent.fireKept resets]
    exact h

theorem cancelled (h : s.Prompt) (name : String) : (s.cancelTimer name).Prompt := by
  obtain ⟨timers,scheduler⟩ := h.silent name
  rw [cancelTimerEq]
  exact ⟨timers,scheduler,h.field⟩

theorem store (h : s.Prompt) (prompt : r.Prompt) : (s.store r).Prompt := h.put prompt h.idle h.asleep rfl

theorem accept (h : s.Prompt) (prompt : r.Prompt) (o : FieldOutcome) : (s.accept r o).Prompt :=
  h.put (r := r.withVerdict o) ⟨prompt.limit,prompt.settled⟩ h.idle h.asleep rfl

theorem added (h : s.Prompt) {own : Value.Fields} (distinct : (Table.names own).Nodup)
    (hasty : own.get? "debounce" = some (.int 0)) : (s.add own).2.Prompt := by
  rw [addEq]
  rcases entry : s.enlist own with ⟨f | r,s₁⟩
  · exact h.quiet (.aside (enlistFails entry).aside)
  · have describes := enlistedDescribes distinct entry
    obtain ⟨_,state,_,_,_,rfl⟩ := enlisted entry
    have prompt : r.Prompt := by
      refine ⟨?_,by rw [state]; exact nofun⟩
      have limit := describes.limit
      have own : Attributes.used own s.options "debounce" "typingLimit" = some (.int 0) := by
        simp [Attributes.used,Attributes.given,hasty]
      rw [own] at limit
      rcases limit with ⟨v,same,whole⟩ | ⟨none,_⟩
      · cases same
        have zero : Delay.ofInt 0 = r.typingLimit := Except.ok.inj whole
        rw [← zero]
        exact Int.le_refl 0
      · contradiction
    obtain ⟨timers,scheduler⟩ := h.silent r.name
    dsimp only
    rw [judgeSilentlyEq]
    split
    · exact h.put prompt timers scheduler rfl
    · exact (h.put (r := r) prompt timers scheduler rfl).accept prompt _

theorem validated (h : s.Prompt) (name : String) (v : Value) (event : InputEvent) :
    (s.validate name v event).2.Prompt := by
  have outcomes := noted s name v event
  rcases ok : s.validate name v event with ⟨answer,s'⟩
  rw [ok] at outcomes
  have marked {r} (found : s.registry.find? name = some r) : (mark r event).Prompt := by
    have prompt := h.field found
    refine ⟨?_,by rw [markState]; exact prompt.settled⟩
    rw [(Record.Becomes.marked r event).typingLimit]
    exact prompt.limit
  have judged {r : Record} {o : FieldOutcome} (prompt : r.Prompt) : (s.note name r o).Prompt :=
    ((h.store prompt).accept prompt o).cancelled name
  cases outcomes with
  | absent => exact h
  | broken found => exact h.store (marked found)
  | @excused r o found =>
    have noted := judged (o := o) (marked found)
    exact noted.put (r := { (mark r event).withVerdict o with state := .valid }) ⟨(marked found).limit,nofun⟩
      noted.idle noted.asleep rfl
  | @shown r o found =>
    have noted := judged (o := o) (marked found)
    rw [presentEq]
    exact noted.put (r := { (mark r event).withVerdict o with state := verdictState o })
      ⟨(marked found).limit,(verdictShown o).1⟩ noted.idle noted.asleep rfl
  | @postponed r o found =>
    have waits := pendingLimit ok found
    exact absurd (h.field found).limit (Int.not_le.mpr waits)

theorem judged (h : s.Prompt) (filed : s.Filed) {v event state} (ok : s.validate name v event = (.ok state,s')) :
    ∃ r o, r.name = name ∧ state = verdictState o ∧ Judges s s' r o (verdictState o) ∧
      (o.valid = true ↔ (r.withVerdict o).message = "") := by
  have outcomes := noted s name v event
  rw [ok] at outcomes
  have read {r} (found : s.registry.find? name = some r) :
      (mark r event).name = name ∧ ∃ p, (mark r event).pipeline = some p ∧ p.Keyed := by
    have proper := filed.proper found
    obtain ⟨p,pipeline,keyed⟩ := filed.pipelineKeyed proper
    exact ⟨(markName r event).trans proper.named,p,(markPipeline r event).trans pipeline,keyed⟩
  cases outcomes with
  | @excused r o found answered optional empty =>
    obtain ⟨named,p,pipeline,keyed⟩ := read found
    have valid := excusedValid answered pipeline ((markRequired r event).trans optional) empty
    have state : verdictState o = .valid := by rw [verdictState,if_pos valid]
    refine ⟨mark r event,o,named,state.symm,?_,judgedMessage answered pipeline keyed⟩
    rw [state]
    exact settleJudges s name .valid answered
  | @shown r o found answered =>
    obtain ⟨named,p,pipeline,keyed⟩ := read found
    exact ⟨mark r event,o,named,rfl,showJudges s name answered,judgedMessage answered pipeline keyed⟩
  | @postponed r o found =>
    exact absurd (h.field found).limit (Int.not_le.mpr (pendingLimit ok found))

end Prompt
end Session

def SessionEvent.Hasty (e : SessionEvent) : Prop := ∀ attributes rules, e = .add attributes rules →
  ∃ own : Value.Fields, attributes = .object own ∧ rules = .null ∧ (Table.names own).Nodup ∧ own.get? "debounce" = some (.int 0)

namespace Session

theorem Prompt.called {s : Session} (h : s.Prompt) {e : SessionEvent} (requested : e.isRequested = true ∨ e = .fire)
    (hasty : e.Hasty) : (e.run s).2.Prompt := by
  cases e with
  | add attributes rules =>
    obtain ⟨own,rfl,rfl,distinct,limit⟩ := hasty attributes rules rfl
    have given : attributesGiven (.object own) .null = .ok own := by cases own <;> rfl
    change (s.addGiven (.object own) .null).2.Prompt
    rw [addGivenEq,given]
    exact h.added distinct limit
  | remove names => exact h.quiet (removeGivenQuiet names s)
  | validate name v event =>
    change (s.validateGiven name v event).2.Prompt
    by_cases text : ∃ n, name = .text n
    · obtain ⟨n,rfl⟩ := text
      exact h.validated n v (eventOf event)
    · obtain ⟨f,refused⟩ := validateOther s v event text
      rw [refused]
      exact h
  | check form => exact h.quiet (checkGivenQuiet form s)
  | clearAhead form => exact h.quiet (clearAheadGivenQuiet form s)
  | setOptions options => exact h.quiet (.aside (setOptionsAside options s))
  | fire => exact h.fired
  | _ => simp [SessionEvent.isRequested,SessionEvent.isCall] at requested

end Session

namespace Service
open Session

theorem requestedDistinct {line m params} (asked : requested? line = some (m,params)) :
    (Table.names params).Nodup := by
  unfold requested? at asked
  split at asked
  · rename_i request read
    have whole := Json.readDistinct read
    unfold requestedOf at asked
    split at asked
    · split at asked
      · rename_i method given
        obtain ⟨_,_,same⟩ := Option.map_eq_some_iff.mp asked
        cases same
        cases found : Table.get? request "params" with
        | none =>
          rw [found] at given
          cases given
          exact List.nodup_nil
        | some v =>
          rw [found] at given
          cases given
          exact (whole.entry found).names
      · contradiction
    · contradiction
  · contradiction

theorem lineHasty {line e} (errand : errandOf line = some e) : e.call.Hasty := by
  obtain ⟨⟨m,params⟩,asked,errand⟩ := Option.bind_eq_some_iff.mp errand
  have distinct := requestedDistinct asked
  cases m with
  | addField =>
    have limited : e.call = .add (.object (withoutDelay (params.drop "value"))) .null := by
      unfold errand? addErrand? at errand
      dsimp only at errand
      repeat' split at errand
      all_goals cases errand <;> rfl
    intro attributes rules same
    cases limited.symm.trans same
    refine ⟨_,rfl,rfl,?_,?_⟩
    · exact Table.nodupDrop (Table.nodupPut (Table.nodupDrop distinct "value") "debounce" _) "typingLimit"
    · exact (Table.getBesideDropped (by decide)).trans Table.getPut
  | setGlobalOptions =>
    unfold errand? optionsErrand? at errand
    dsimp only at errand
    split at errand <;> cases errand
    exact nofun
  | validateField =>
    unfold errand? valueErrand? at errand
    dsimp only at errand
    repeat' split at errand
    all_goals cases errand <;> exact nofun
  | removeField =>
    unfold errand? removeErrand? at errand
    dsimp only at errand
    generalize (if (param params "names").truthy = true then param params "names" else param params "name") = names
      at errand
    split at errand <;> cases errand
    exact nofun
  | getSummary => cases errand
  | _ =>
    cases errand
    exact nofun

theorem linePrompt {s : Session} (prompt : s.Prompt) (line : String) :
    (answerLine line s).2.2.Prompt := by
  have outcome := lineOutcome line s
  have called {e} (errand : errandOf line = some e) : (e.call.run (e.noted s)).2.Prompt := by
    obtain ⟨v,post,_⟩ := e.notedDressed s
    have noted : (e.noted s).Prompt := by
      rw [post]
      exact prompt.same rfl rfl rfl
    exact noted.called (lineCall errand) (lineHasty errand)
  generalize (answerLine line s).2.2 = s' at outcome ⊢
  generalize (answerLine line s).2.1.answer = answer at outcome
  cases outcome with
  | idle => exact prompt
  | failed errand failed =>
    have after := called errand
    rwa [failed] at after
  | done errand ok =>
    have after := called errand
    rwa [ok] at after
  | told errand ok =>
    have after := called errand
    rw [ok] at after
    exact after.same rfl rfl rfl

theorem servedPrompt {opening s : Session} (opened : opening.Opened) (served : Served opening s) : s.Prompt := by
  induction served with
  | start =>
    have blank : opening.Prompt := by
      refine ⟨opened.timers,opened.scheduler,fun found => ?_⟩
      rw [opened.registry] at found
      contradiction
    exact blank.quiet (.aside (setOptionsAside _ opening))
  | next _ line ih => exact linePrompt ih line

theorem requestPerformed {line m params} (asked : requested? line = some (m,params)) (s : Session) :
    ((answerLine line s).2.1.answer,(answerLine line s).2.2) = perform m params s := by
  unfold requested? at asked
  split at asked
  · rename_i request read
    unfold requestedOf at asked
    split at asked
    · rename_i version
      split at asked
      · rename_i name _ method given
        obtain ⟨m,named,same⟩ := Option.map_eq_some_iff.mp asked
        cases same
        unfold answerLine
        rw [read]
        unfold answerObject
        have dispatched : dispatch (.text name) params s = perform m params s := by
          unfold dispatch
          simp only [named]
        simp only [version,method,given,namedTruthy named,dispatched,Bool.not_true,Bool.false_eq_true,if_false]
      · contradiction
    · contradiction
  · contradiction

theorem valueAnswered {params : Value.Fields} {s s' : Session} {v} (ok : validateField params s = (.ok v,s')) :
    ∃ (e : Errand) (name : String) (w event : Value) (state : FieldState) (s₁ : Session) (r : Record),
      param params "name" = .text name ∧ (e.noted s).validateGiven (.text name) w event = (.ok state,s₁) ∧
      s₁.registry.find? name = some r ∧ s' = s₁.drain.2 ∧
      v = .object [("field",.text name),("state",.text state.label),("valid",.bool r.isValid),("message",.text r.message),
        ("renders",.list (s₁.display.events.map (·.toValue)))] := by
  unfold validateField at ok
  dsimp only at ok
  split at ok
  · cases ok
  · split at ok
    · cases ok
    · rename_i w _
      rw [noteEq s _ w _ (.validate (param params "name") w (param params "event"))] at ok
      split at ok
      · cases ok
      · rename_i noted
        split at noted
        · cases noted
          split at ok
          · cases ok
          · rename_i state s₁ judged
            split at ok
            · rename_i r found
              cases ok
              by_cases text : ∃ n, param params "name" = .text n
              · obtain ⟨name,named⟩ := text
                rw [named] at judged found ⊢
                exact ⟨_,name,w,_,state,s₁,r,rfl,judged,Except.ok.inj found,rfl,rfl⟩
              · obtain ⟨_,refused⟩ := validateOther _ w _ text
                cases refused.symm.trans judged
            · cases ok
            · cases ok
        · cases noted

theorem summaryLists {s : Session} (filed : s.summary.Filed) {form : Value} {e : SummaryEntry} :
    e ∈ s.summaryGiven form ↔
      s.summary.get? e.field = some e ∧ (form = .null ∨ ∃ f, e.form = some f ∧ form = .text f) := by
  unfold summaryGiven
  cases form with
  | null => simp [Summary.memAll filed]
  | text f =>
    have asked : (Value.text f = .null ∨ ∃ g, e.form = some g ∧ Value.text f = .text g) ↔ e.form = some f := by
      constructor
      · rintro (none | ⟨g,own,same⟩)
        · cases none
        · cases same
          exact own
      · exact fun own => .inr ⟨f,own,rfl⟩
    rw [asked]
    simp [Summary.ofForm,Summary.memAll filed]
  | _ => simp

theorem entrySaid {r : Record} {e : SummaryEntry} :
    r.entry? = some e ↔ r.isValid = false ∧ e = ⟨r.name,r.message,r.friendlyName,r.form⟩ := by
  unfold Record.entry?
  cases r.isValid <;> simp [eq_comm]

structure Told (s : Session) (r : Record) : Prop where
  registered : s.registry.find? r.name = some r
  message : r.message = "" ↔ r.isValid = true
  entry : s.summary.get? r.name = r.entry?

theorem judgedTold {s s' : Session} {name r o} (named : r.name = name) (judged : Judges s s' r o (verdictState o))
    (message : o.valid = true ↔ (r.withVerdict o).message = "") {r'} (found : s'.registry.find? name = some r') :
    Told s' r' ∧ r'.name = name ∧ (verdictState o).label = if r'.isValid then "valid" else "invalid" := by
  subst named
  rw [judged.registry,if_pos rfl] at found
  cases found
  refine ⟨⟨?_,message.symm,?_⟩,rfl,?_⟩
  · exact (judged.registry _).trans (if_pos rfl)
  · have entries : s'.summary.get? r.name =
        (s.summary.upsert ⟨r.name,(r.withVerdict o).message,r.friendlyName,r.form⟩).get? r.name := by
      unfold Summary.get?
      rw [judged.entries]
    refine entries.trans ?_
    rw [Summary.getUpsert,if_pos rfl]
    unfold Record.entry?
    by_cases valid : o.valid = true
    · rw [if_pos (message.mp valid)]
      exact (if_pos valid).symm
    · rw [if_neg fun none => valid (message.mpr none)]
      exact (if_neg valid).symm
  · unfold verdictState Record.withVerdict
    dsimp only
    split <;> rfl

/-- After any lines no timer is armed and no field waits. A value that is answered is answered with its verdict: the field is
valid or invalid, there is a message for it exactly when it is invalid, and a summary asked for next lists the field exactly
then, with this message, unless it is the summary of another form. -/
theorem promptAnswers {opening s : Session} (opened : opening.Opened) (served : Served opening s) :
    (s.timers = [] ∧ s.scheduler = .start ∧ ∀ name r, s.registry.find? name = some r → r.state ≠ .pending) ∧
    ∀ line params v, requested? line = some (.validateField,params) → (answerLine line s).2.1.answer = .ok v →
      ∃ (r : Record) (renders : List Value),
        v = .object [("field",.text r.name),("state",.text (if r.isValid then "valid" else "invalid")),
          ("valid",.bool r.isValid),("message",.text r.message),("renders",.list renders)] ∧
        param params "name" = .text r.name ∧ (answerLine line s).2.2.registry.find? r.name = some r ∧
        (r.message = "" ↔ r.isValid = true) ∧
        ∀ next asked, requested? next = some (.getSummary,asked) → ∃ entries : List SummaryEntry,
          (answerLine next (answerLine line s).2.2).2.1.answer =
            .ok (.object [("summary",.list (entries.map (·.toValue)))]) ∧
          (∀ e ∈ entries, e.field = r.name → e.message = r.message) ∧
          ((∃ e ∈ entries, e.field = r.name) ↔ r.isValid = false ∧
            (param asked "form" = .null ∨ ∃ f, r.form = some f ∧ param asked "form" = .text f)) := by
  have prompt := servedPrompt opened served
  have ordered := servedOrdered opened served
  refine ⟨⟨prompt.idle,prompt.asleep,fun name r found => (prompt.field found).settled⟩,?_⟩
  intro line params v asked ok
  have performed := requestPerformed asked s
  have after := lineOrdered ordered line
  rw [ok] at performed
  obtain ⟨e,name,w,event,state,s₁,r,given,judged,found,post,answer⟩ := valueAnswered performed.symm
  obtain ⟨u,dressed,_⟩ := e.notedDressed s
  have noted : (e.noted s).Prompt := by
    rw [dressed]
    exact prompt.same rfl rfl rfl
  obtain ⟨r₀,o,named,rfl,judges,message⟩ := noted.judged (notedFiled ordered e) judged
  obtain ⟨told,rfl,label⟩ := judgedTold named judges message found
  rw [label] at answer
  refine ⟨r,_,answer,given,?_,told.message,?_⟩
  · rw [post]
    exact found
  · intro next asked' requested
    have listed := requestPerformed requested (answerLine line s).2.2
    have entry : (answerLine line s).2.2.summary.get? r.name = r.entry? := by
      rw [post]
      exact told.entry
    refine ⟨(answerLine line s).2.2.summaryGiven (param asked' "form"),congrArg Prod.fst listed,?_,?_⟩
    · intro e member own
      have said := (summaryLists after.summary).mp member
      rw [own,entry,entrySaid] at said
      rw [said.1.2]
    · constructor
      · rintro ⟨e,member,own⟩
        have said := (summaryLists after.summary).mp member
        rw [own,entry,entrySaid] at said
        obtain ⟨⟨bad,rfl⟩,asked⟩ := said
        exact ⟨bad,asked⟩
      · rintro ⟨bad,asked⟩
        refine ⟨⟨r.name,r.message,r.friendlyName,r.form⟩,(summaryLists after.summary).mpr ⟨?_,asked⟩,rfl⟩
        exact entry.trans (entrySaid.mpr ⟨bad,rfl⟩)

def patientLine : String := lineOf .addField [("name",.text "x"),("rules",.text "letter"),("debounce",.int 500),
  ("typingLimit",.int 500)]

theorem patientAnswered : ∃ (opening s : Session) (params : Value.Fields) (r : Record) (renders : List Value),
    opening.Opened ∧ Served opening s ∧ s.timers = [] ∧ s.registry ≠ [] ∧
    requested? strayLine = some (.validateField,params) ∧
    (answerLine strayLine s).2.1.answer = .ok (.object [("field",.text r.name),
      ("state",.text (if r.isValid then "valid" else "invalid")),("valid",.bool r.isValid),("message",.text r.message),
      ("renders",.list renders)]) := by
  obtain ⟨s,served,answered,entered⟩ : ∃ s, Served (smallPage true) s ∧
      (answerLine strayLine s).2.1.isRefused = false ∧ s.registry.length = 1 := by
    have started : Served (smallPage true) smallServer := .start
    exact ⟨_,.next started patientLine,by decide +kernel⟩
  obtain ⟨v,ok⟩ : ∃ v, (answerLine strayLine s).2.1.answer = .ok v := by
    unfold Response.isRefused at answered
    split at answered
    · rename_i v ok
      exact ⟨v,ok⟩
    · cases answered
  obtain ⟨⟨idle,_⟩,tells⟩ := promptAnswers (smallOpened true) served
  obtain ⟨r,renders,rfl,_⟩ := tells strayLine _ v strayAsked ok
  exact ⟨_,s,_,r,renders,smallOpened true,served,idle,List.ne_nil_of_length_pos (by omega),strayAsked,ok⟩

end Service
end FormGuard
