import FormGuard.Check.Outcome
import FormGuard.Config.Loader
import FormGuard.Schedule.Scheduler
import FormGuard.Session.Attributes
import FormGuard.Session.Display
import FormGuard.Session.Hook
import FormGuard.Session.Source
import FormGuard.Session.Summary

/-! The state of a session, and the steps that its operations are made of. -/
namespace FormGuard

structure Alarm where
  stamp : Nat
  field : String
  value : Value
  epoch : Nat
  deriving Repr

inductive PageListener where
  | session
  deriving DecidableEq, Repr

inductive InputEvent where
  | change
  | blur
  deriving DecidableEq, Repr

structure Session where
  catalog : Catalog
  translator : Translator
  strictDates : Bool
  keepOnTransition : Bool
  lastMessageOnly : Bool
  inactivityLimit : Delay
  -- whether a timer that is cancelled stays silent
  obeysCancel : Bool
  source : Source
  display : Display
  scheduler : Scheduler Alarm
  hook : Hook PageListener
  registry : Registry
  summary : Summary
  -- attributes for every field registered from now on
  options : Value.Fields
  -- the timer of each field that waits for one
  timers : Table Nat
  -- resets so far
  epoch : Nat
  -- records made so far
  made : Nat

def Record.withVerdict (r : Record) (o : FieldOutcome) : Record :=
  { r with isValid := o.valid, message := if o.valid then "" else o.message }

namespace Session

def ofLoader (l : Loader) (translator : Option Translator) (source : Source) : Except Failure Session × Loader :=
  match l.ruleCatalog with
  | (.error f,l) => (.error f,l)
  | (.ok document,l) =>
    match Catalog.ofDocument document with
    | .error f => (.error (.fault f),l)
    | .ok catalog =>
      let (t,l) :=
        match translator with
        | some t => (Except.ok t,l)
        | none => l.translator none
      match t with
      | .error f => (.error f,l)
      | .ok translator =>
        let settings := l.settings
        (.ok {
          catalog := catalog
          translator := translator
          strictDates := settings.strictDates
          keepOnTransition := settings.keepOnTransition
          lastMessageOnly := settings.lastMessageOnly
          inactivityLimit := settings.inactivityLimit
          obeysCancel := true
          source := source
          display := .blank
          scheduler := .start
          hook := Hook.silent.subscribe .session
          registry := []
          summary := .empty
          options := []
          timers := []
          epoch := 0
          made := 0 },l)

def parse (s : Session) (rules : String) : Except Failure Pipeline × Session :=
  let (r,catalog) := s.catalog.parse rules
  (r,{ s with catalog })

def pipelineOf (s : Session) (r : Record) : Except Failure Pipeline :=
  match r.pipeline with
  | some p => .ok p
  | none => (s.catalog.parse r.rules).1

def contextOf (s : Session) (r : Record) : FieldContext where
  fieldName := r.name
  isRequired := r.isRequired
  isDisabled := s.source.isDisabled r.name
  inputType := r.inputType
  lookup := some s.source.value

def judge (s : Session) (r : Record) (v : Value) : Except Failure FieldOutcome :=
  match s.pipelineOf r with
  | .error f => .error f
  | .ok p => evaluateField s.translator s.strictDates s.lastMessageOnly p v (s.contextOf r)

def store (s : Session) (r : Record) : Session := { s with registry := s.registry.upsert r }

def accept (s : Session) (r : Record) (o : FieldOutcome) : Session :=
  let r := r.withVerdict o
  { s.store r with summary := s.summary.upsert ⟨r.name,r.message,r.friendlyName,r.form⟩ }

def showMessage (s : Session) (r : Record) (message : String) : Session :=
  { s with display := s.display.put r.name message r.target }

def clearMessage (s : Session) (field : String) : Session := { s with display := s.display.clear field }

def present (s : Session) (r : Record) (o : FieldOutcome) : Session :=
  let r := { r with state := if o.valid then .valid else .invalid }
  let s := s.store r
  if !o.valid && (r.dirty || r.touched) then s.showMessage r o.message else s.clearMessage r.name

def cancelTimer (s : Session) (field : String) : Session :=
  match s.timers.get? field with
  | none => s
  | some stamp =>
    { s with
      timers := s.timers.drop field
      scheduler := if s.obeysCancel then s.scheduler.cancel stamp else s.scheduler }

def arm (s : Session) (r : Record) (v : Value) : Session :=
  let (t,scheduler) := s.scheduler.callLater r.typingLimit.ms ⟨r.stamp,r.name,v,s.epoch⟩
  { s with scheduler, timers := s.timers.put r.name t.stamp }

end Session
end FormGuard
