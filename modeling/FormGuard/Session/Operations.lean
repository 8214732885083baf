import FormGuard.Session.State

/-! The operations of a session. Every operation gives back the session, also when it fails: what was done before the
failure stays done. A value counts for the summary at once, and for the display when the user pauses or leaves the
field; a late timer finds its record gone, replaced or reset, and does nothing. -/
namespace FormGuard
namespace Session

def setOptions (s : Session) (options : Value) : Except Failure Unit × Session :=
  match Attributes.demand Attributes.ofPage options with
  | .error f => (.error f,s)
  | .ok () =>
    match options with
    | .object fields => (.ok (),{ s with options := fields })
    | _ => (.ok (),s)

def setKeepOnTransition (s : Session) (keep : Bool) : Session := { s with keepOnTransition := keep }

def setLastMessageOnly (s : Session) (lastOnly : Bool) : Session := { s with lastMessageOnly := lastOnly }

def setValue (s : Session) (name : String) (v : Value) : Session := { s with source := s.source.setValue name v }

def setDisabled (s : Session) (name : String) (disabled : Bool) : Session :=
  { s with source := s.source.setDisabled name disabled }

def judgeSilently (s : Session) (r : Record) : Except Failure Record × Session :=
  match s.judge r (s.source.value r.name) with
  | .error f => (.error f,s)
  | .ok o => (.ok (r.withVerdict o),s.accept r o)

/-- Registers a field, in the place of one of the same name. Rules that cannot be read leave everything as it was. -/
def add (s : Session) (attributes : Value.Fields) : Except Failure Record × Session :=
  match Attributes.record s.translator s.inactivityLimit s.made (s.options.overlay attributes) with
  | .error f => (.error f,s)
  | .ok r =>
    match s.parse r.rules with
    | (.error f,s) => (.error f,s)
    | (.ok p,s) =>
      let r := { r with pipeline := some p }
      let s := (s.cancelTimer r.name).store r
      let s := { s with summary := s.summary.attach r.form, made := s.made + 1 }
      s.judgeSilently r

def rebind (s : Session) (name rules : String) : Except Failure Record × Session :=
  match s.parse rules with
  | (.error f,s) => (.error f,s)
  | (.ok p,s) =>
    match s.registry.find? name with
    | none => (.error (.problem (.unknownField (.text name))),s)
    | some r =>
      let r := { r.rebind rules with pipeline := some p }
      ((s.cancelTimer name).store r).judgeSilently r

def remove (s : Session) (name : String) : Session :=
  let s := s.cancelTimer name
  { s with
    registry := s.registry.remove name
    summary := s.summary.clear name
    display := s.display.clear name }

/-- Leaving a field, choosing from a list and typing without a limit show the verdict at once, as does an entry in
a number field that is no number. -/
def showsAtOnce (r : Record) (v : Value) (event : InputEvent) : Bool :=
  event == .blur || Text.lowerText r.inputType == "select" || decide (r.typingLimit.ms ≤ 0) ||
    (isEmpty v && Text.lowerText r.inputType == "number")

def mark (r : Record) : InputEvent → Record
  | .blur => { r with touched := true }
  | .change => { r with dirty := true }

def validate (s : Session) (name : String) (v : Value) (event : InputEvent) : Except Failure FieldState × Session :=
  match s.registry.find? name with
  | none => (.error (.problem (.unknownField (.text name))),s)
  | some r =>
    let r := mark r event
    let s := s.store r
    match s.judge r v with
    | .error f => (.error f,s)
    | .ok o =>
      let s := s.accept r o
      let r := r.withVerdict o
      let s := s.cancelTimer name
      if !r.isRequired && isEmpty v then
        (.ok .valid,(s.clearMessage name).store { r with state := .valid })
      else if showsAtOnce r v event then
        (.ok (if o.valid then .valid else .invalid),s.present r o)
      else
        let r := { r with state := .pending }
        (.ok .pending,((s.clearMessage name).store r).arm r v)

def expire (s : Session) (a : Alarm) : Except Failure Unit × Session :=
  match s.registry.find? a.field with
  | none => (.ok (),s)
  | some r =>
    if a.epoch = s.epoch ∧ a.stamp = r.stamp then
      let s := { s with timers := s.timers.drop a.field }
      match s.judge r a.value with
      | .error f => (.error f,s)
      | .ok o => (.ok (),(s.accept r o).present (r.withVerdict o) o)
    else (.ok (),s)

theorem presentScheduler (s : Session) (r : Record) (o : FieldOutcome) :
    (s.present r o).scheduler = s.scheduler := by
  simp only [present]
  split <;> rfl

theorem expireScheduler (s : Session) (a : Alarm) : (s.expire a).2.scheduler = s.scheduler := by
  unfold expire
  split
  · rfl
  · split
    · dsimp only
      split
      · rfl
      · rw [presentScheduler]; rfl
    · rfl

def fireUntil (target : Int) (count : Nat) (s : Session) : Except Failure Nat × Session :=
  match _h : s.scheduler.next? target with
  | none => (.ok count,{ s with scheduler := { s.scheduler with now := target } })
  | some (t,scheduler) =>
    let after := { s with scheduler }
    if t.isCancelled then fireUntil target count after
    else
      match (after.expire t.payload).1 with
      | .error f => (.error f,(after.expire t.payload).2)
      | .ok () => fireUntil target (count + 1) (after.expire t.payload).2
termination_by s.scheduler.queue.length
decreasing_by
  · have := Scheduler.nextShorter _h
    omega
  · have := Scheduler.nextShorter _h
    rw [expireScheduler]
    dsimp only
    omega

def advance (s : Session) (ms : Int) : Except Failure Nat × Session := fireUntil (s.scheduler.now + ms) 0 s

def reject (s : Session) (e : SummaryEntry) : Session :=
  match s.registry.find? e.field with
  | none => s
  | some r =>
    let r := { r with touched := true, state := .invalid }
    ((s.cancelTimer e.field).store r).showMessage r e.message

def formValue : Option String → Value
  | none => .null
  | some form => .text form

def check (s : Session) (form : Option String) : Except Failure Bool × Session :=
  if s.summary.isAttached form then
    let entries := s.summary.ofForm form
    (.ok entries.isEmpty,entries.foldl reject s)
  else (.error (.problem (.noContext "check_form_validity" (formValue form))),s)

def clearAhead (s : Session) (form : Option String) : Except Failure (List String) × Session :=
  if s.summary.isAttached form then
    let fields := (s.summary.ofForm form).map (·.field)
    (.ok fields,fields.foldl remove s)
  else (.error (.problem (.noContext "clear_invalid_entries_ahead" (formValue form))),s)

def abandon (s : Session) (name : String) : Session :=
  let s := s.cancelTimer name
  match s.registry.find? name with
  | some r => if r.state = .pending then s.store { r with state := .unvalidated } else s
  | none => s

def clearPending (s : Session) : Nat × Session := (s.timers.length,s.timers.names.foldl abandon s)

def reset (s : Session) : Session :=
  let s := s.clearPending.2
  { s with epoch := s.epoch + 1, registry := [], summary := .empty }

def onTransition (s : Session) : Bool × Session :=
  if s.keepOnTransition then (false,s) else (true,s.reset)

def fire (s : Session) : Session := s.hook.listeners.foldl (fun s _ => s.onTransition.2) s

def close (s : Session) : Session :=
  let s := s.clearPending.2
  { s with hook := s.hook.unsubscribe .session }

def discover (s : Session) (rules : String) : Except Failure Pipeline × Session := s.parse rules

def drain (s : Session) : List DisplayEvent × Session :=
  let (events,display) := s.display.drain
  (events,{ s with display })

end Session
end FormGuard
