import FormGuard.Proofs.CatalogReading
import FormGuard.Session.Request

/-! Everything that can happen to a session, one event after the other, and the runs made of it. An event is a call of an
operation with any arguments, a change of what the session watches, or time; of a scheduler that does not obey a
cancellation any alarm at all may go off, at any moment and any number of times, which is more than a timer can do that
was cancelled too late. An evaluation that breaks down is told apart from every other failure. -/
namespace FormGuard

inductive SessionEvent where
  | add (attributes rules : Value)
  | rebind (name rules : Value)
  | remove (names : Value)
  | validate (name value event : Value)
  | check (form : Value)
  | clearAhead (form : Value)
  | setOptions (options : Value)
  | discover (rules : Value)
  | clearPending
  | reset
  | transition
  | fire
  | close
  | keepOnTransition (keep : Bool)
  | lastMessageOnly (lastOnly : Bool)
  | setValue (name value : Value)
  | setDisabled (name : Value) (disabled : Bool)
  | drain
  | advance (ms : Int)
  | late (a : Alarm)

namespace Session

def outcome {α} (answer : Except Failure α × Session) : Except Failure Unit × Session :=
  (answer.1.map fun _ => (),answer.2)

def changed (s : Session) : Except Fault Session → Except Failure Unit × Session
  | .ok s' => (.ok (),s')
  | .error f => (.error (.fault f),s)

def attributesGiven (attributes rules : Value) : Except Fault Value.Fields :=
  let fields : Except Fault Value.Fields :=
    match attributes with
    | .text name => .ok [("name",.text name)]
    | v => if v.truthy then v.spelled else .ok []
  match fields,rules with
  | .error f,_ => .error f
  | .ok fields,.null => .ok fields
  | .ok fields,rules => .ok (Table.put fields "rules" rules)

def enter (s : Session) (r : Record) : Session :=
  { s.store r with summary := s.summary.attach r.form, made := s.made + 1 }

def enlist (s : Session) (attributes : Value.Fields) : Except Failure Record × Session :=
  match Attributes.record s.translator s.inactivityLimit s.made (s.options.overlay attributes) with
  | .error f => (.error f,s)
  | .ok r =>
    match s.parse r.rules with
    | (.error f,s) => (.error f,s)
    | (.ok p,s) =>
      let r := { r with pipeline := some p }
      (.ok r,(s.cancelTimer r.name).enter r)

def retune (s : Session) (name rules : String) : Except Failure Record × Session :=
  match s.parse rules with
  | (.error f,s) => (.error f,s)
  | (.ok p,s) =>
    match s.registry.find? name with
    | none => (.error (.problem (.unknownField (.text name))),s)
    | some r =>
      let r := { r.rebind rules with pipeline := some p }
      (.ok r,(s.cancelTimer name).store r)

theorem addGivenEq (s : Session) (attributes rules : Value) :
    s.addGiven attributes rules =
      match attributesGiven attributes rules with
      | .error f => s.fail f
      | .ok fields => s.add fields := by
  have same (fields : Except Fault Value.Fields) :
      (match fields,rules with
        | .error f,_ => s.fail f
        | .ok fields,.null => s.add fields
        | .ok fields,rules => s.add (Table.put fields "rules" rules)) =
      match (match fields,rules with
        | .error f,_ => .error f
        | .ok fields,.null => .ok fields
        | .ok fields,rules => .ok (Table.put fields "rules" rules) : Except Fault Value.Fields) with
      | .error f => s.fail f
      | .ok fields => s.add fields := by
    cases fields <;> cases rules <;> rfl
  exact same _

theorem addEq (s : Session) (attributes : Value.Fields) :
    s.add attributes =
      match s.enlist attributes with
      | (.error f,s) => (.error f,s)
      | (.ok r,s) => s.judgeSilently r := by
  unfold add enlist
  cases Attributes.record s.translator s.inactivityLimit s.made (s.options.overlay attributes) with
  | error f => rfl
  | ok r =>
    dsimp only
    rcases s.parse r.rules with ⟨_ | _,_⟩ <;> rfl

theorem rebindEq (s : Session) (name rules : String) :
    s.rebind name rules =
      match s.retune name rules with
      | (.error f,s) => (.error f,s)
      | (.ok r,s) => s.judgeSilently r := by
  unfold rebind retune
  rcases s.parse rules with ⟨_ | p,s₁⟩
  · rfl
  · dsimp only
    cases s₁.registry.find? name <;> rfl

end Session

structure Question where
  session : Session
  record : Record
  value : Value

namespace Question

def answer (q : Question) : Except Failure FieldOutcome := q.session.judge q.record q.value

def ofPresent : Except Failure Record × Session → Option Question
  | (.error _,_) => none
  | (.ok r,s) => some ⟨s,r,s.source.value r.name⟩

end Question

namespace SessionEvent
open Session

def run : SessionEvent → Session → Except Failure Unit × Session
  | add attributes rules,s => outcome (s.addGiven attributes rules)
  | rebind name rules,s => outcome (s.rebindGiven name rules)
  | remove names,s => s.removeGiven names
  | validate name v event,s => outcome (s.validateGiven name v event)
  | check form,s => outcome (s.checkGiven form)
  | clearAhead form,s => outcome (s.clearAheadGiven form)
  | setOptions options,s => s.setOptions options
  | discover rules,s => outcome (s.discoverGiven rules)
  | clearPending,s => (.ok (),s.clearPending.2)
  | reset,s => (.ok (),s.reset)
  | transition,s => (.ok (),s.onTransition.2)
  | fire,s => (.ok (),s.fire)
  | close,s => (.ok (),s.close)
  | keepOnTransition keep,s => (.ok (),s.setKeepOnTransition keep)
  | lastMessageOnly lastOnly,s => (.ok (),s.setLastMessageOnly lastOnly)
  | setValue name v,s => s.changed (s.setValueGiven name v)
  | setDisabled name disabled,s => s.changed (s.setDisabledGiven name disabled)
  | drain,s => (.ok (),s.drain.2)
  | advance ms,s => outcome (s.advance ms)
  | late a,s => s.expire a

/-- The question an event other than time puts to the rules, if it comes to one. -/
def question? : SessionEvent → Session → Option Question
  | add attributes rules,s =>
    match attributesGiven attributes rules with
    | .error _ => none
    | .ok fields => Question.ofPresent (s.enlist fields)
  | rebind (.text name) rules,s =>
    match rulesOf rules with
    | .error _ => none
    | .ok rules => Question.ofPresent (s.retune name rules)
  | validate (.text name) v event,s =>
    (s.registry.find? name).map fun r => ⟨s.store (mark r (eventOf event)),mark r (eventOf event),v⟩
  | late a,s =>
    match s.registry.find? a.field with
    | none => none
    | some r =>
      if a.epoch = s.epoch ∧ a.stamp = r.stamp then some ⟨{ s with timers := s.timers.drop a.field },r,a.value⟩ else none
  | _,_ => none

theorem addQuestion {s : Session} {attributes rules fields} (given : attributesGiven attributes rules = .ok fields) :
    (add attributes rules).question? s = Question.ofPresent (s.enlist fields) := by
  simp only [question?,given]

theorem addUnread {s : Session} {attributes rules f} (refused : attributesGiven attributes rules = .error f) :
    (add attributes rules).question? s = none := by
  simp only [question?,refused]

theorem rebindQuestion {s : Session} {name rules spelled} (given : rulesOf rules = .ok spelled) :
    (rebind (.text name) rules).question? s = Question.ofPresent (s.retune name spelled) := by
  simp only [question?,given]

theorem rebindUnread {s : Session} {name rules f} (refused : rulesOf rules = .error f) :
    (rebind (.text name) rules).question? s = none := by
  simp only [question?,refused]

def BreaksDown (e : SessionEvent) (s : Session) : Prop :=
  (∃ ms f, e = advance ms ∧ (s.advance ms).1 = .error f) ∨ ∃ q f, e.question? s = some q ∧ q.answer = .error f

def fails {α} : Except Failure α → Bool
  | .error _ => true
  | .ok _ => false

theorem failsIff {α} {answer : Except Failure α} : fails answer = true ↔ ∃ f, answer = .error f := by
  cases answer <;> simp [fails]

def breaks : SessionEvent → Session → Bool
  | advance ms,s => fails (s.advance ms).1
  | e,s => (e.question? s).any fun q => fails q.answer

theorem breaksIff {e : SessionEvent} {s : Session} : e.breaks s = true ↔ e.BreaksDown s := by
  have asked : ((e.question? s).any fun q => fails q.answer) = true ↔
      ∃ q f, e.question? s = some q ∧ q.answer = .error f := by
    cases e.question? s <;> simp [failsIff]
  cases e with
  | advance ms => simp [breaks,BreaksDown,question?,failsIff]
  | _ => simpa [breaks,BreaksDown] using asked

instance (e : SessionEvent) (s : Session) : Decidable (e.BreaksDown s) := decidable_of_iff _ breaksIff

def Possible (e : SessionEvent) (s : Session) : Prop := ∀ a, e = late a → s.obeysCancel = false

end SessionEvent

structure Moment where
  before : Session
  event : SessionEvent

namespace Session

/-- A session nothing has happened to yet, over a catalog that met its schema. -/
structure Opened (s : Session) : Prop where
  catalog : ∃ document, Schema.ruleCatalog.Meets document ∧ Catalog.ofDocument document = .ok s.catalog
  registry : s.registry = []
  summary : s.summary = .empty
  timers : s.timers = []
  scheduler : s.scheduler = .start
  display : s.display = .blank
  options : s.options = []

/-- What has happened to a session, the latest event first, and where it stands. -/
inductive Run (opening : Session) : List Moment → Session → Prop where
  | start : Run opening [] opening
  | next {past s} (before : Run opening past s) (e : SessionEvent) (possible : e.Possible s) :
      Run opening (⟨s,e⟩ :: past) (e.run s).2

def Smooth (past : List Moment) : Prop := ∀ m ∈ past, ¬ m.event.BreaksDown m.before

instance (past : List Moment) : Decidable (Smooth past) := by unfold Smooth; infer_instance

theorem Smooth.head {m past} (smooth : Smooth (m :: past)) : ¬ m.event.BreaksDown m.before :=
  smooth m (by simp)

theorem Smooth.tail {m past} (smooth : Smooth (m :: past)) : Smooth past :=
  fun k member => smooth k (List.mem_cons_of_mem _ member)

theorem Smooth.next {s : Session} {e : SessionEvent} {past} (quiet : e.breaks s = false) (smooth : Smooth past) :
    Smooth (⟨s,e⟩ :: past) := by
  intro m member
  rcases List.mem_cons.mp member with rfl | inside
  · rw [← SessionEvent.breaksIff]
    simp [quiet]
  · exact smooth m inside

theorem documentOpens {l : Loader} {document l'} (unread : l.catalog = none)
    (ok : l.ruleCatalog = (.ok document,l')) : Schema.ruleCatalog.Meets document := by
  unfold Loader.ruleCatalog at ok
  rw [unread] at ok
  dsimp only at ok
  split at ok
  · cases ok
  · split at ok
    · cases ok
    · rename_i demanded
      cases ok
      unfold Schema.demand at demanded
      split at demanded
      · exact Schema.checkedMeets.mp (by assumption)
      · contradiction

theorem loadedOpened {o path l translator source s l'} (read : Loader.ofFile o path = .ok l)
    (made : Session.ofLoader l translator source = (.ok s,l')) : s.Opened := by
  have unread : l.catalog = none := by
    simp only [Loader.ofFile,bindOk] at read
    obtain ⟨_,_,_,_,last⟩ := read
    cases last
    rfl
  unfold Session.ofLoader at made
  split at made
  · cases made
  · rename_i document l₁ loaded
    have shape := documentOpens unread loaded
    split at made
    · cases made
    · rename_i catalog ofDocument
      dsimp only at made
      split at made
      · cases made
      · cases made
        exact ⟨⟨document,shape,ofDocument⟩,rfl,rfl,rfl,rfl,rfl,rfl⟩

def smallDocument : Value :=
  .object [("rules",.object [
    ("letter",.object [("kind",.text "regex"),("pattern",.text "a"),("message",.text "NO_A")]),
    ("due",.object [("kind",.text "conditionalDate"),("date_format",.text "MARS"),("condition",.text ">="),
      ("params",.int 1),("message",.text "LATE")])])]

/-- A page small enough to go through by hand, its only field holding the one text that is wrong. -/
def smallPage (obeysCancel : Bool) : Session where
  catalog := ⟨Catalog.table? smallDocument >>= (Table.get? · "rules") >>= Catalog.table?,some [],[]⟩
  translator := ⟨[],[],"en"⟩
  strictDates := true
  keepOnTransition := false
  lastMessageOnly := false
  inactivityLimit := .ofInt 1000
  obeysCancel := obeysCancel
  source := .ofValues [("x",.text "b")]
  display := .blank
  scheduler := .start
  hook := Hook.silent.subscribe .session
  registry := []
  summary := .empty
  options := []
  timers := []
  epoch := 0
  made := 0

theorem smallOpened (obeysCancel : Bool) : (smallPage obeysCancel).Opened :=
  ⟨⟨smallDocument,Schema.checkedMeets.mp (by decide),rfl⟩,rfl,rfl,rfl,rfl,rfl,rfl⟩

def smallEntry : SessionEvent := .add (.text "x") (.text "letter")

def smallField (obeysCancel : Bool) : Session := (smallEntry.run (smallPage obeysCancel)).2

def retyped : SessionEvent := .validate (.text "x") (.text "b") .null

theorem smallFieldRun (obeysCancel : Bool) :
    (smallPage obeysCancel).Run [⟨smallPage obeysCancel,smallEntry⟩] (smallField obeysCancel) :=
  .next .start smallEntry nofun

theorem smallSmooth (obeysCancel : Bool) : Smooth [⟨smallPage obeysCancel,smallEntry⟩] :=
  .next (by cases obeysCancel <;> decide +kernel) (by simp [Smooth])

end Session
end FormGuard
