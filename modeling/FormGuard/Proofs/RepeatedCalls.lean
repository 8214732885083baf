import FormGuard.Proofs.FieldsApart
import FormGuard.Proofs.QueueOrder
import FormGuard.Proofs.SteppingBack

/-! A value given to a field twice, and a form checked twice. The second call finds the field marked, judged and shown, or its
timer armed, and comes to the same answer and the same page; only the display hears of it once more. -/
namespace FormGuard

namespace Table
variable {α : Type} {t : Table α} {name : String} {a : α}

theorem dropPut : (t.put name a).drop name = t.drop name := by
  induction t with
  | nil => simp [put,drop]
  | cons e rest ih =>
    obtain ⟨n,c⟩ := e
    unfold drop at ih ⊢
    by_cases same : n = name
    · simp [put,same]
    · simp [put,same,ih]

theorem dropTwice : (t.drop name).drop name = t.drop name := dropAbsent getDropped

end Table

def Record.standing (r : Record) (o : FieldOutcome) (state : FieldState) : Record := { r.withVerdict o with state := state }

theorem Summary.upsertTwice {y : Summary} {e : SummaryEntry} : (y.upsert e).upsert e = y.upsert e := by
  unfold upsert
  split
  · exact congrArg (Summary.mk · _) Table.dropTwice
  · exact congrArg (Summary.mk · _) Table.putTwice

theorem Display.settleTwice {d : Display} {r : Record} {o : FieldOutcome} :
    ((d.settle r o).settle r o).messages = (d.settle r o).messages := by
  unfold settle
  split
  · exact Table.putTwice
  · exact Table.dropTwice

namespace Session
variable {s s' : Session} {name : String} {r : Record} {v : Value} {event : InputEvent} {o : FieldOutcome}

structure Unmoved (s s' : Session) : Prop where
  registry : s'.registry = s.registry
  summary : s'.summary = s.summary
  messages : s'.display.messages = s.display.messages
  timers : s'.timers.names = s.timers.names
  waiting : s.obeysCancel = true → s'.waiting = s.waiting
  clock : s'.scheduler.now = s.scheduler.now
  rest : s' = { s with
    display := s'.display
    timers := s'.timers
    scheduler := s'.scheduler }

theorem Unmoved.heard {display : Display} (messages : display.messages = s.display.messages) :
    s.Unmoved { s with display := display } :=
  ⟨rfl,rfl,messages,rfl,fun _ => rfl,rfl,rfl⟩

def Repeats {α : Type} (s : Session) (call : Session → Except Failure α × Session) : Prop :=
  (call (call s).2).1 = (call s).1 ∧ (call s).2.Unmoved (call (call s).2).2

theorem Repeats.made {α : Type} {call : Session → Except Failure α × Session} {answer t} (first : call s = (answer,s'))
    (second : call s' = (answer,t)) (unmoved : s'.Unmoved t) : s.Repeats call := by
  unfold Repeats
  rw [first,second]
  exact ⟨rfl,unmoved⟩

theorem Repeats.idle {α : Type} {call : Session → Except Failure α × Session} {answer} (idle : call s = (answer,s)) :
    s.Repeats call :=
  .made idle idle (.heard rfl)

/-! ## A value twice -/

def settled (s : Session) (r : Record) (o : FieldOutcome) (state : FieldState) (display : Display) : Session :=
  { s with
    registry := s.registry.upsert (r.standing o state)
    summary := s.summary.upsert ⟨r.name,(r.withVerdict o).message,r.friendlyName,r.form⟩
    timers := s.timers.drop r.name
    scheduler := s.silenced r.name
    display := display }

theorem settledNote (s : Session) (r : Record) (o : FieldOutcome) (state : FieldState) (display : Display) :
    { (s.note r.name r o).store (r.standing o state) with display := display } = s.settled r o state display := by
  have stored : ((s.registry.upsert r).upsert (r.withVerdict o)).upsert (r.standing o state) =
      s.registry.upsert (r.standing o state) := by
    rw [@Registry.upsertTwice _ r (r.withVerdict o) rfl,@Registry.upsertTwice _ (r.withVerdict o) (r.standing o state) rfl]
  rw [noteEq]
  unfold store settled
  dsimp only
  rw [stored]

theorem validateSettles {r₁ : Record} (found : s.registry.find? r₁.name = some r) (marked : mark r event = r₁)
    (answered : (s.store r₁).judge r₁ v = .ok o) : s.validate r₁.name v event =
      if !r₁.isRequired && isEmpty v then
        (.ok .valid,s.settled r₁ o .valid (s.display.clear r₁.name))
      else if showsAtOnce r₁ v event then
        (.ok (verdictState o),s.settled r₁ o (verdictState o) (s.display.settle (r₁.withVerdict o) o))
      else
        (.ok .pending,(s.settled r₁ o .pending (s.display.clear r₁.name)).arm (r₁.standing o .pending) v) := by
  have display : (s.note r₁.name r₁ o).display = s.display := by rw [noteEq]
  have silent (state : FieldState) : ((s.note r₁.name r₁ o).clearMessage r₁.name).store (r₁.standing o state) =
      s.settled r₁ o state (s.display.clear r₁.name) := by
    rw [← settledNote,← display]
    rfl
  have shown : (s.note r₁.name r₁ o).present (r₁.withVerdict o) o =
      s.settled r₁ o (verdictState o) (s.display.settle (r₁.withVerdict o) o) := by
    rw [presentEq,display]
    exact settledNote s r₁ o (verdictState o) _
  unfold validate
  rw [found]
  dsimp only
  rw [marked,answered,← silent,← silent,← shown]
  rfl

theorem settledAgain {state : FieldState} {t : Session} (registry : t.registry = s.registry.upsert (r.standing o state))
    (summary : t.summary = s.summary.upsert ⟨r.name,(r.withVerdict o).message,r.friendlyName,r.form⟩) (display : Display) :
    t.settled (r.standing o state) o state display = { t.cancelTimer r.name with display := display } := by
  have record : t.registry.upsert ((r.standing o state).standing o state) = t.registry := by
    rw [registry]
    exact Registry.upsertTwice rfl
  have entry : t.summary.upsert ⟨r.name,((r.standing o state).withVerdict o).message,r.friendlyName,r.form⟩ = t.summary := by
    rw [summary]
    exact Summary.upsertTwice
  rw [cancelTimerEq]
  unfold settled
  rw [record]
  exact congrArg (fun summary => { t with
    summary := summary
    timers := t.timers.drop r.name
    scheduler := t.silenced r.name
    display := display }) entry

theorem cancelIdle (idle : s.timers.get? name = none) : s.cancelTimer name = s := by
  unfold cancelTimer
  rw [idle]

theorem partedAgain {α : Type} {p q : α → Bool} (apart : q = fun a => !p a) (l : List α) :
    (l.filter p ++ l.filter q).filter p = l.filter p ∧ (l.filter p ++ l.filter q).filter q = l.filter q := by
  subst apart
  simp [List.filter_append,List.filter_filter]

theorem armInOrder (ordered : Scheduler.InOrder s.scheduler.queue) (r : Record) (v : Value) :
    Scheduler.InOrder (s.arm r v).scheduler.queue :=
  Scheduler.insertInOrder (ordered.sublist (Scheduler.pruneSublist _)) _

section Rearming
variable (timed : s.Timed) (found : s.registry.find? r.name = some r) (pending : r.state = .pending)
  (idle : s.timers.get? r.name = none) (ordered : Scheduler.InOrder s.scheduler.queue)
include timed found pending idle ordered

theorem rearmedWaiting (obeys : s.obeysCancel = true) :
    (((s.arm r v).cancelTimer r.name).arm r v).waiting = (s.arm r v).waiting := by
  have armed : (s.arm r v).scheduler.live = _ := Scheduler.laterLive ordered r.typingLimit.ms ⟨r.stamp,r.name,v,s.epoch⟩
  have silenced := (timed.arm (v := v) found pending idle).silencedLives obeys r.name
  have again := Scheduler.laterLive (silencedInOrder (armInOrder ordered r v) r.name) r.typingLimit.ms
    ⟨r.stamp,r.name,v,s.epoch⟩
  have now : ((s.arm r v).silenced r.name).now = s.scheduler.now :=
    (silencedNow _ _).trans (Scheduler.pruneNow s.scheduler)
  have others (p : Timer Alarm → Bool) : (s.scheduler.live.filter p).filter (fun t => decide (t.payload.field ≠ r.name)) =
      s.scheduler.live.filter p := by
    refine List.filter_eq_self.mpr fun t member => decide_eq_true fun own => ?_
    exact (timed.trackedLive obeys).mp ⟨t,(List.mem_filter.mp member).1,own⟩ idle
  obtain ⟨early,late⟩ := @partedAgain (Timer Alarm) (·.due ≤ s.scheduler.now + max r.typingLimit.ms 0)
    (s.scheduler.now + max r.typingLimit.ms 0 < ·.due) (funext fun t => Bool.eq_iff_iff.mpr (by simp)) s.scheduler.live
  rw [armed,List.filter_append,List.filter_cons_of_neg (by simp),others,others] at silenced
  rw [now,silenced,early,late] at again
  rw [cancelTimerEq]
  unfold waiting
  rw [armed]
  refine (congrArg (List.map fun t : Timer Alarm => (t.payload.field,t.due,t.payload.value)) again).trans ?_
  rw [List.map_append,List.map_append,List.map_cons,List.map_cons]

theorem rearmedUnmoved {display : Display} (messages : display.messages = s.display.messages) :
    (s.arm r v).Unmoved ({ (s.arm r v).cancelTimer r.name with display := display }.arm r v) := by
  have waiting := rearmedWaiting (v := v) timed found pending idle ordered
  rw [cancelTimerEq] at waiting ⊢
  refine ⟨rfl,rfl,messages,?_,waiting,(Scheduler.pruneNow _).trans (silencedNow _ _),rfl⟩
  have names (k k' : Nat) : (((s.timers.put r.name k).drop r.name).put r.name k').names = (s.timers.put r.name k).names := by
    rw [Table.dropPut,Table.dropAbsent idle,Table.namesPut,Table.namesPut]
  exact names _ _

end Rearming

theorem validateUnknown (absent : s.registry.find? name = none) :
    s.validate name v event = (.error (.problem (.unknownField (.text name))),s) := by
  unfold validate
  rw [absent]

theorem validateBreaks {f : Failure} (found : s.registry.find? name = some r)
    (failed : (s.store (mark r event)).judge (mark r event) v = .error f) :
    s.validate name v event = (.error f,s.store (mark r event)) := by
  unfold validate
  rw [found]
  dsimp only
  rw [failed]

theorem markTwice (r : Record) (event : InputEvent) : mark (mark r event) event = mark r event := by cases event <;> rfl

theorem brokenRepeats {f : Failure} (found : s.registry.find? name = some r) (named : r.name = name)
    (failed : (s.store (mark r event)).judge (mark r event) v = .error f) : s.Repeats (·.validate name v event) := by
  have first := validateBreaks found failed
  have found' : (s.store (mark r event)).registry.find? name = some (mark r event) := by
    rw [← named,← markName r event]
    exact Registry.findUpserted
  have same : (s.store (mark r event)).store (mark r event) = s.store (mark r event) :=
    congrArg (fun registry => { s with registry := registry }) (Registry.upsertTwice rfl)
  have second := @validateBreaks (s.store (mark r event)) name (mark r event) v event f found'
    (by rw [markTwice,same]; exact failed)
  rw [markTwice,same] at second
  exact .made first second (.heard rfl)

theorem answeredRepeats (h : s.Ordered) (inOrder : Scheduler.InOrder s.scheduler.queue) {r₁ : Record}
    (found : s.registry.find? r₁.name = some r) (marked : mark r event = r₁) (answered : (s.store r₁).judge r₁ v = .ok o) :
    s.Repeats (·.validate r₁.name v event) := by
  have first := validateSettles found marked answered
  have marked' (state : FieldState) : mark (r₁.standing o state) event = r₁.standing o state := by
    subst marked
    cases event <;> rfl
  have idle (state display) : (s.settled r₁ o state display).cancelTimer r₁.name = s.settled r₁ o state display :=
    cancelIdle Table.getDropped
  by_cases exempt : (!r₁.isRequired && isEmpty v) = true
  · rw [if_pos exempt] at first
    have second := (validateSettles (s := s.settled r₁ o .valid (s.display.clear r₁.name)) Registry.findUpserted
      (marked' .valid) answered).trans (if_pos exempt)
    rw [settledAgain rfl rfl,idle] at second
    exact .made first second (.heard Table.dropTwice)
  · rw [if_neg exempt] at first
    by_cases prompt : showsAtOnce r₁ v event = true
    · rw [if_pos prompt] at first
      have second := ((validateSettles (s := s.settled r₁ o (verdictState o) (s.display.settle (r₁.withVerdict o) o))
        Registry.findUpserted (marked' (verdictState o)) answered).trans (if_neg exempt)).trans (if_pos prompt)
      rw [settledAgain rfl rfl,idle] at second
      exact .made first second (.heard Display.settleTwice)
    · rw [if_neg prompt] at first
      have second := ((validateSettles (s := (s.settled r₁ o .pending (s.display.clear r₁.name)).arm (r₁.standing o .pending) v)
        Registry.findUpserted (marked' .pending) answered).trans (if_neg exempt)).trans (if_neg prompt)
      rw [settledAgain rfl rfl] at second
      -- The field has no timer before the value is noted for good, so the timer of the first call is the one it has.
      have timed : (s.settled r₁ o .pending (s.display.clear r₁.name)).Timed :=
        h.toTimed.silence (fun m other => Registry.findUpsert.trans (if_neg other)) rfl rfl (silencedArmed s _) rfl rfl
      exact .made first second (rearmedUnmoved timed Registry.findUpserted rfl Table.getDropped (silencedInOrder inOrder _)
        Table.dropTwice)

theorem validateRepeats (h : s.Ordered) (inOrder : Scheduler.InOrder s.scheduler.queue) (name : String) (v : Value)
    (event : InputEvent) : s.Repeats (·.validate name v event) := by
  cases found : s.registry.find? name with
  | none => exact .idle (validateUnknown found)
  | some r =>
    have named := (h.proper found).named
    cases answered : (s.store (mark r event)).judge (mark r event) v with
    | error f => exact brokenRepeats found named answered
    | ok o =>
      have marked : (mark r event).name = name := (markName r event).trans named
      subst marked
      exact answeredRepeats h inOrder found rfl answered

/-! ## A form twice -/

structure TurnedAway (s : Session) (e : SummaryEntry) : Prop where
  record : ∃ r, s.registry.find? e.field = some r ∧ r.name = e.field ∧ r.turnedDown = r
  timer : s.timers.get? e.field = none
  message : s.display.messages.get? e.field = some e.message

theorem rejectAgain {e : SummaryEntry} (away : s.TurnedAway e) :
    ∃ events, s.reject e = { s with display := { s.display with events := events } } := by
  obtain ⟨r,found,named,turned⟩ := away.record
  have record : s.registry.upsert { r with touched := true, state := .invalid } = s.registry :=
    (congrArg s.registry.upsert turned).trans (Registry.upsertFound.mpr (named ▸ found))
  have message : s.display.messages.put r.name e.message = s.display.messages := by
    rw [named]
    exact Table.putSame away.message
  refine ⟨s.display.events ++ [.shown r.name e.message r.target],?_⟩
  rw [rejectEq found,record,Table.dropAbsent away.timer,silencedIdle away.timer]
  unfold Display.put
  rw [message]

theorem rejectsAgain {entries : List SummaryEntry} (away : ∀ e ∈ entries, s.TurnedAway e) :
    ∃ events, entries.foldl reject s = { s with display := { s.display with events := events } } := by
  induction entries generalizing s with
  | nil => exact ⟨s.display.events,rfl⟩
  | cons e rest ih =>
    obtain ⟨events,first⟩ := rejectAgain (away e List.mem_cons_self)
    have still : ∀ k ∈ rest, (s.reject e).TurnedAway k := by
      intro k member
      obtain ⟨record,timer,message⟩ := away k (List.mem_cons_of_mem _ member)
      rw [first]
      exact ⟨record,timer,message⟩
    obtain ⟨events',others⟩ := ih still
    refine ⟨events',others.trans ?_⟩
    rw [first]

theorem Rejects.away {entries : List SummaryEntry} (rejects : Rejects entries s s') (ordered : s.Ordered)
    (registered : ∀ e ∈ entries, ∃ r, s.registry.find? e.field = some r) : ∀ e ∈ entries, s'.TurnedAway e := by
  intro e member
  have entered : e.field ∈ entries.map (·.field) := List.mem_map_of_mem member
  obtain ⟨r,found⟩ := registered e member
  refine ⟨⟨r.turnedDown,?_,(ordered.proper found).named,rfl⟩,?_,rejects.message e member⟩
  · rw [rejects.record,if_pos entered,found]
    rfl
  · rw [rejects.timer,if_pos entered]

theorem checkRepeats (ordered : s.Ordered) (agrees : s.Agrees) (form : Option String) : s.Repeats (·.check form) := by
  cases attached : s.summary.isAttached form with
  | false =>
    have refused : s.check form = (.error (.problem (.noContext "check_form_validity" (formValue form))),s) := by
      unfold check
      rw [attached]
      rfl
    exact .idle refused
  | true =>
    have answer (t : Session) (same : t.summary = s.summary) :
        t.check form = (.ok (s.summary.ofForm form).isEmpty,(s.summary.ofForm form).foldl reject t) := by
      unfold check
      rw [same,attached]
      rfl
    have first := answer s rfl
    have rejects := (checkRejects ordered agrees first).2.1
    have second := answer ((s.summary.ofForm form).foldl reject s) (by rw [rejects.rest])
    obtain ⟨events,heard⟩ := rejectsAgain (rejects.away ordered fun e member => by
      obtain ⟨r,found,_⟩ := (enteredIff ordered agrees).mp member
      exact ⟨r,found⟩)
    rw [heard] at second
    exact .made first second (.heard rfl)

/-- A value given to a field again, or a form checked again, is answered as before and leaves the records, the summary, the
messages and the timers as they are after the first time, whether the call succeeds or not. -/
theorem repeatedCalls {opening : Session} {past} (opened : opening.Opened) (run : opening.Run past s) (smooth : Smooth past) :
    (∀ name v event, s.Repeats (·.validateGiven name v event)) ∧ ∀ form, s.Repeats (·.checkGiven form) := by
  have ordered := runOrdered opened run
  refine ⟨fun name v event => ?_,fun form => ?_⟩
  · by_cases text : ∃ n, name = .text n
    · obtain ⟨n,rfl⟩ := text
      exact validateRepeats ordered (runInOrder opened run) n v (eventOf event)
    · obtain ⟨_,refused⟩ := validateOther s v event text
      exact .idle refused
  · cases asked : formOf "check_form_validity" form with
    | error f =>
      have refused (t : Session) : t.checkGiven form = (.error f,t) := by
        unfold checkGiven
        rw [asked]
      exact .idle (refused s)
    | ok form' =>
      have same : (fun t : Session => t.checkGiven form) = fun t => t.check form' := by
        funext t
        unfold checkGiven
        rw [asked]
      rw [same]
      exact checkRepeats ordered (runAgrees opened run smooth) form'

theorem typedTwice : ∃ past s, (smallPage true).Opened ∧ (smallPage true).Run past s ∧ Smooth past ∧
    (s.validateGiven (.text "x") (.text "b") .null).1 = .ok .pending ∧
    (s.validateGiven (.text "x") (.text "b") .null).2.waiting.length = 1 ∧ (s.checkGiven .null).1 = .ok false ∧
    s.Repeats (·.validateGiven (.text "x") (.text "b") .null) ∧ s.Repeats (·.checkGiven .null) := by
  have waits : ((smallField true).validateGiven (.text "x") (.text "b") .null).1.toOption = some .pending := by decide +kernel
  have timers : ((smallField true).validateGiven (.text "x") (.text "b") .null).2.waiting.length = 1 := by decide +kernel
  have refused : ((smallField true).checkGiven .null).1.toOption = some false := by decide +kernel
  obtain ⟨values,forms⟩ := repeatedCalls (smallOpened true) (smallFieldRun true) (smallSmooth true)
  exact ⟨_,_,smallOpened true,smallFieldRun true,smallSmooth true,answered waits,timers,answered refused,values _ _ _,forms _⟩

end Session
end FormGuard
