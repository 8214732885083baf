import FormGuard.Proofs.SessionEvents

/-! What the steps of the operations come to for one field: each as one equation, or as the list of its outcomes where
it has several. The invariants are proved from these and look into no operation again. -/
namespace FormGuard

namespace Table
variable {α : Type} {t : Table α} {name other : String} {a : α}

theorem getDropped : (t.drop name).get? name = none :=
  (getAfterDrop t name name).trans (if_pos rfl)

theorem getBesideDropped (apart : other ≠ name) : (t.drop name).get? other = t.get? other :=
  (getAfterDrop t name other).trans (if_neg apart)

theorem getPut : (t.put name a).get? name = some a :=
  (getAfterPut t name name a).trans (if_pos rfl)

theorem getBesidePut (apart : other ≠ name) : (t.put name a).get? other = t.get? other :=
  (getAfterPut t name other a).trans (if_neg apart)

theorem dropAbsent (absent : t.get? name = none) : t.drop name = t := by
  unfold drop
  refine List.filter_eq_self.mpr fun e member => ?_
  have other := List.lookup_eq_none_iff.mp absent e member
  simp only [bne_iff_ne,ne_eq]
  intro same
  simp [same] at other

theorem putSame (present : t.get? name = some a) : t.put name a = t := by
  induction t with
  | nil => simp [get?] at present
  | cons e rest ih =>
    obtain ⟨n,b⟩ := e
    rw [getOfCons] at present
    unfold put
    split
    · rename_i same
      rw [if_pos same.symm] at present
      cases present
      rw [same]
    · rename_i other
      rw [if_neg fun h => other h.symm] at present
      rw [ih present]

theorem putTwice {b : α} : (t.put name a).put name b = t.put name b := by
  induction t with
  | nil => simp [put]
  | cons e rest ih =>
    obtain ⟨n,c⟩ := e
    by_cases same : n = name
    · simp [put,same]
    · simp [put,same,ih]

end Table

namespace Registry
variable {t : Registry} {r : Record}

theorem findUpsert {name} : (t.upsert r).find? name = if name = r.name then some r else t.find? name :=
  Table.getAfterPut t r.name name r

theorem findUpserted : (t.upsert r).find? r.name = some r := Table.getPut

theorem upsertTwice {r' : Record} (named : r'.name = r.name) : (t.upsert r).upsert r' = t.upsert r' := by
  unfold upsert
  rw [named]
  exact Table.putTwice

theorem findRemove {name m} : (t.remove name).find? m = if m = name then none else t.find? m :=
  Table.getAfterDrop t name m

theorem upsertFound : t.upsert r = t ↔ t.find? r.name = some r := by
  constructor
  · intro same
    rw [← same]
    exact findUpserted
  · exact Table.putSame

end Registry

def verdictState (o : FieldOutcome) : FieldState := if o.valid then .valid else .invalid

def Display.settle (d : Display) (r : Record) (o : FieldOutcome) : Display :=
  if !o.valid && (r.dirty || r.touched) then d.put r.name o.message r.target else d.clear r.name

namespace Session

section Marks
variable (r : Record) (event : InputEvent)

@[simp] theorem markName : (mark r event).name = r.name := by cases event <;> rfl
@[simp] theorem markStamp : (mark r event).stamp = r.stamp := by cases event <;> rfl
@[simp] theorem markState : (mark r event).state = r.state := by cases event <;> rfl
@[simp] theorem markRules : (mark r event).rules = r.rules := by cases event <;> rfl
@[simp] theorem markPipeline : (mark r event).pipeline = r.pipeline := by cases event <;> rfl
@[simp] theorem markRequired : (mark r event).isRequired = r.isRequired := by cases event <;> rfl

end Marks

def untrack (s : Session) (field : String) : Session := { s with timers := s.timers.drop field }

def silenced (s : Session) (field : String) : Scheduler Alarm :=
  match s.timers.get? field with
  | none => s.scheduler
  | some stamp => if s.obeysCancel then s.scheduler.cancel stamp else s.scheduler

theorem silencedIdle {s : Session} {name} (idle : s.timers.get? name = none) : s.silenced name = s.scheduler := by
  unfold silenced
  rw [idle]

theorem silencedArmed (s : Session) (name : String) : (s.silenced name).armed = s.scheduler.armed := by
  unfold silenced
  split
  · rfl
  · split <;> rfl

theorem cancelTimerEq (s : Session) (field : String) :
    s.cancelTimer field = { s with timers := s.timers.drop field, scheduler := s.silenced field } := by
  unfold cancelTimer silenced
  cases h : s.timers.get? field with
  | none => simp only [Table.dropAbsent h]
  | some stamp => rfl

theorem presentEq (s : Session) (r : Record) (o : FieldOutcome) :
    s.present r o =
      { s.store { r with state := verdictState o } with display := s.display.settle r o } := by
  unfold present verdictState Display.settle
  dsimp only
  split <;> rfl

def note (s : Session) (name : String) (r : Record) (o : FieldOutcome) : Session :=
  ((s.store r).accept r o).cancelTimer name

theorem noteEq (s : Session) (name : String) (r : Record) (o : FieldOutcome) :
    s.note name r o =
      { s with
        registry := (s.registry.upsert r).upsert (r.withVerdict o)
        summary := s.summary.upsert ⟨r.name,(r.withVerdict o).message,r.friendlyName,r.form⟩
        timers := s.timers.drop name
        scheduler := s.silenced name } := by
  unfold note
  rw [cancelTimerEq]
  rfl

theorem removeEq (s : Session) (name : String) :
    s.remove name =
      { s with
        timers := s.timers.drop name
        scheduler := s.silenced name
        registry := s.registry.remove name
        summary := s.summary.clear name
        display := s.display.clear name } := by
  unfold remove
  rw [cancelTimerEq]

theorem removeEvents (s : Session) (name : String) :
    (s.remove name).display.events = s.display.events ++ [.cleared (.text name)] := by
  rw [removeEq]
  rfl

theorem clearOtherEvents (s : Session) (v : Value) :
    (s.clearOther v).display.events = s.display.events ++ [.cleared v] := rfl

theorem rejectEq {s : Session} {e r} (found : s.registry.find? e.field = some r) :
    s.reject e =
      { s with
        timers := s.timers.drop e.field
        scheduler := s.silenced e.field
        registry := s.registry.upsert { r with touched := true, state := .invalid }
        display := s.display.put r.name e.message r.target } := by
  unfold reject
  rw [found,cancelTimerEq]
  rfl

theorem rejectAbsent {s : Session} {e : SummaryEntry} (absent : s.registry.find? e.field = none) :
    s.reject e = s := by
  unfold reject
  rw [absent]

theorem abandonEq {s : Session} {name r} (found : s.registry.find? name = some r) :
    s.abandon name =
      { s with
        timers := s.timers.drop name
        scheduler := s.silenced name
        registry := if r.state = .pending then s.registry.upsert { r with state := .unvalidated } else s.registry } := by
  unfold abandon
  rw [cancelTimerEq]
  dsimp only
  rw [found]
  dsimp only
  split <;> rfl

theorem abandonAbsent {s : Session} {name} (absent : s.registry.find? name = none) :
    s.abandon name = { s with timers := s.timers.drop name, scheduler := s.silenced name } := by
  unfold abandon
  rw [cancelTimerEq]
  dsimp only
  rw [absent]

theorem judgeSilentlyEq (s : Session) (r : Record) :
    (s.judgeSilently r).2 =
      match s.judge r (s.source.value r.name) with
      | .error _ => s
      | .ok o => s.accept r o := by
  unfold judgeSilently
  split <;> simp_all

inductive Noted (s : Session) (name : String) (v : Value) (event : InputEvent) :
    Except Failure FieldState × Session → Prop where
  | absent (absent : s.registry.find? name = none) :
      Noted s name v event (.error (.problem (.unknownField (.text name))),s)
  | broken {r f} (found : s.registry.find? name = some r)
      (failed : (s.store (mark r event)).judge (mark r event) v = .error f) :
      Noted s name v event (.error f,s.store (mark r event))
  | excused {r o} (found : s.registry.find? name = some r)
      (answered : (s.store (mark r event)).judge (mark r event) v = .ok o)
      (optional : r.isRequired = false) (empty : isEmpty v = true) :
      Noted s name v event (.ok .valid,
        ((s.note name (mark r event) o).clearMessage name).store
          { (mark r event).withVerdict o with state := .valid })
  | shown {r o} (found : s.registry.find? name = some r)
      (answered : (s.store (mark r event)).judge (mark r event) v = .ok o) :
      Noted s name v event (.ok (verdictState o),
        (s.note name (mark r event) o).present ((mark r event).withVerdict o) o)
  | postponed {r o} (found : s.registry.find? name = some r)
      (answered : (s.store (mark r event)).judge (mark r event) v = .ok o) :
      Noted s name v event (.ok .pending,
        (((s.note name (mark r event) o).clearMessage name).store
          { (mark r event).withVerdict o with state := .pending }).arm
            { (mark r event).withVerdict o with state := .pending } v)

theorem noted (s : Session) (name : String) (v : Value) (event : InputEvent) :
    Noted s name v event (s.validate name v event) := by
  unfold validate
  cases found : s.registry.find? name with
  | none => exact .absent found
  | some r =>
    dsimp only
    cases answered : (s.store (mark r event)).judge (mark r event) v with
    | error f => exact .broken found answered
    | ok o =>
      dsimp only
      split
      · rename_i exempt
        have optional : (mark r event).isRequired = false ∧ isEmpty v = true := by
          simpa [Record.withVerdict,Record.isRequired] using exempt
        rw [markRequired] at optional
        exact .excused found answered optional.1 optional.2
      · split
        · exact .shown found answered
        · exact .postponed found answered

inductive Rung (s : Session) (a : Alarm) : Except Failure Unit × Session → Prop where
  | stale (stale : ∀ r, s.registry.find? a.field = some r → ¬ (a.epoch = s.epoch ∧ a.stamp = r.stamp)) :
      Rung s a (.ok (),s)
  | broken {r f} (found : s.registry.find? a.field = some r) (epoch : a.epoch = s.epoch)
      (stamp : a.stamp = r.stamp) (failed : (s.untrack a.field).judge r a.value = .error f) :
      Rung s a (.error f,s.untrack a.field)
  | heard {r o} (found : s.registry.find? a.field = some r) (epoch : a.epoch = s.epoch)
      (stamp : a.stamp = r.stamp) (answered : (s.untrack a.field).judge r a.value = .ok o) :
      Rung s a (.ok (),((s.untrack a.field).accept r o).present (r.withVerdict o) o)

theorem rung (s : Session) (a : Alarm) : Rung s a (s.expire a) := by
  unfold expire
  cases found : s.registry.find? a.field with
  | none => exact .stale (by simp [found])
  | some r =>
    dsimp only
    split
    · rename_i own
      change Rung s a (match (s.untrack a.field).judge r a.value with
        | .error f => (.error f,s.untrack a.field)
        | .ok o => (.ok (),((s.untrack a.field).accept r o).present (r.withVerdict o) o))
      cases answered : (s.untrack a.field).judge r a.value with
      | error f => exact .broken found own.1 own.2 answered
      | ok o => exact .heard found own.1 own.2 answered
    · rename_i foreign
      refine .stale fun r' found' => ?_
      rw [found] at found'
      cases found'
      exact foreign

/-- What the removal of a name comes to. What is kept of fields tells a name that cannot be asked for before anything
happens, and the display tells it behind the event of its clearing; where there is neither, it goes unnoticed. -/
inductive Struck (s : Session) : Value → Except Failure Unit × Session → Prop where
  | field (name : String) : Struck s (.text name) (.ok (),s.remove name)
  | cleared {v} (other : ∀ n, v ≠ .text n)
      (unnoticed : v.canName = true ∨ s.keepsFields = false ∧ s.display.messages = []) : Struck s v (.ok (),s.clearOther v)
  | refused {v} (unnamed : v.canName = false) (kept : s.keepsFields = true) : Struck s v (s.fail .badKind)
  | broken {v} (unnamed : v.canName = false) (unkept : s.keepsFields = false) (shown : s.display.messages ≠ []) :
      Struck s v ((s.clearOther v).fail .badKind)

theorem struck (s : Session) (v : Value) : Struck s v (s.removeNamed v) := by
  unfold removeNamed
  split
  · exact .field _
  · rename_i other
    split
    · rename_i named
      exact .cleared other (.inl named)
    · rename_i unnamed
      have unnamed : v.canName = false := by simpa using unnamed
      split
      · rename_i kept
        exact .refused unnamed kept
      · rename_i unkept
        have unkept : s.keepsFields = false := by simpa using unkept
        split
        · rename_i blank
          exact .cleared other (.inr ⟨unkept,List.isEmpty_iff.mp blank⟩)
        · rename_i shown
          exact .broken unnamed unkept (by simpa using shown)

theorem removeAllEq (v : Value) (rest : List Value) (s : Session) :
    removeAll (v :: rest) s =
      match (s.removeNamed v).1 with
      | .error f => (.error f,(s.removeNamed v).2)
      | .ok () => removeAll rest (s.removeNamed v).2 := by
  rw [removeAll]
  rcases s.removeNamed v with ⟨_ | ⟨⟩,_⟩ <;> rfl

theorem removeAllKeeps {P : Session → Prop} (field : ∀ s name, P s → P (s.remove name))
    (other : ∀ s v, P s → P (s.clearOther v)) (names : List Value) {s : Session} (start : P s) :
    P (removeAll names s).2 := by
  induction names generalizing s with
  | nil => exact start
  | cons v rest ih =>
    rw [removeAllEq]
    have outcomes := s.struck v
    generalize s.removeNamed v = answer at outcomes ⊢
    cases outcomes with
    | field name => exact ih (field s name start)
    | cleared => exact ih (other s v start)
    | refused => exact start
    | broken => exact other s v start

theorem removeGivenKeeps {P : Session → Prop} (field : ∀ s name, P s → P (s.remove name))
    (other : ∀ s v, P s → P (s.clearOther v)) (names : Value) {s : Session} (start : P s) :
    P (s.removeGiven names).2 := by
  unfold removeGiven
  split
  · exact removeAllKeeps field other _ start
  · exact removeAllKeeps field other _ start
  · exact removeAllKeeps field other _ start
  · exact start

theorem parseEq {s : Session} {rules answer s'} (parsed : s.parse rules = (answer,s')) :
    (s.catalog.parse rules).1 = answer ∧ s' = { s with catalog := (s.catalog.parse rules).2 } := by
  unfold parse at parsed
  cases parsed
  exact ⟨rfl,rfl⟩

theorem recorded {t usual stamp attributes r} (ok : Attributes.record t usual stamp attributes = .ok r) :
    r.stamp = stamp ∧ r.state = .unvalidated := by
  unfold Attributes.record at ok
  dsimp only at ok
  split at ok
  · contradiction
  · split at ok <;> cases ok
    exact ⟨rfl,rfl⟩

theorem enlisted {s : Session} {attributes r s'} (ok : s.enlist attributes = (.ok r,s')) :
    r.stamp = s.made ∧ r.state = .unvalidated ∧ ∃ p, r.pipeline = some p ∧
      (s.catalog.parse r.rules).1 = .ok p ∧
      s' = { s with
        catalog := (s.catalog.parse r.rules).2
        timers := s.timers.drop r.name
        scheduler := s.silenced r.name
        registry := s.registry.upsert r
        summary := s.summary.attach r.form
        made := s.made + 1 } := by
  unfold enlist at ok
  split at ok
  · cases ok
  · rename_i fields spelled
    obtain ⟨stamp,state⟩ := recorded spelled
    split at ok
    · cases ok
    · rename_i p s₁ parsed
      obtain ⟨answer,rfl⟩ := parseEq parsed
      cases ok
      refine ⟨stamp,state,p,rfl,answer,?_⟩
      rw [cancelTimerEq]
      rfl

theorem retuned {s : Session} {name rules r s'} (ok : s.retune name rules = (.ok r,s')) :
    ∃ r₀ p, s.registry.find? name = some r₀ ∧ (s.catalog.parse rules).1 = .ok p ∧
      r = { r₀.rebind rules with pipeline := some p } ∧
      s' = { s with
        catalog := (s.catalog.parse rules).2
        timers := s.timers.drop name
        scheduler := s.silenced name
        registry := s.registry.upsert r } := by
  unfold retune at ok
  split at ok
  · cases ok
  · rename_i p s₁ parsed
    obtain ⟨answer,rfl⟩ := parseEq parsed
    split at ok
    · cases ok
    · rename_i r₀ found
      cases ok
      refine ⟨r₀,p,found,answer,rfl,?_⟩
      rw [cancelTimerEq]
      rfl

end Session
end FormGuard
