import FormGuard.Proofs.FormCheck

/-! A session as far as one field goes. What is asked of a session about a field comes to one change of the view of that field,
made from the view and from what all fields share; the views of the other fields stay as they are. -/
namespace FormGuard

structure FieldView where
  record : Option Record
  entry : Option SummaryEntry
  message : Option String
  awaited : Int → Value → Prop

structure Surroundings where
  ask : Record → Value → Except Failure FieldOutcome
  read : String → Except Failure Pipeline
  describe : Value.Fields → Nat → Except Failure Record
  value : String → Value
  now : Int

namespace Session

def expects (q : Scheduler Alarm) (name : String) (due : Int) (v : Value) : Prop :=
  ∃ t ∈ q.live, t.payload.field = name ∧ t.due = due ∧ t.payload.value = v

def view (s : Session) (name : String) : FieldView :=
  ⟨s.registry.find? name,s.summary.get? name,s.display.messages.get? name,expects s.scheduler name⟩

def surroundings (s : Session) : Surroundings where
  ask := s.judge
  read rules := (s.catalog.parse rules).1
  describe fields stamp := Attributes.record s.translator s.inactivityLimit stamp (s.options.overlay fields)
  value := s.source.value
  now := s.scheduler.now

end Session

namespace FieldView
open Session

def untimed (w : FieldView) : FieldView := { w with awaited := fun _ _ => False }

def judged (w : FieldView) (r : Record) (o : FieldOutcome) : FieldView :=
  let e : SummaryEntry := ⟨r.name,(r.withVerdict o).message,r.friendlyName,r.form⟩
  { w with record := some (r.withVerdict o), entry := if e.message = "" then none else some e }

def presented (w : FieldView) (r : Record) (o : FieldOutcome) : FieldView :=
  { w with
    record := some { r with state := verdictState o }
    message := if !o.valid && (r.dirty || r.touched) then some o.message else none }

def silent (w : FieldView) (r : Record) (state : FieldState) : FieldView :=
  { w with record := some { r with state := state }, message := none }

def validate (u : Surroundings) (name : String) (v : Value) (event : InputEvent) (w : FieldView) :
    Except Failure FieldState × FieldView :=
  match w.record with
  | none => (.error (.problem (.unknownField (.text name))),w)
  | some r =>
    let r := mark r event
    match u.ask r v with
    | .error f => (.error f,{ w with record := some r })
    | .ok o =>
      let w := (w.judged r o).untimed
      let r := r.withVerdict o
      if !r.isRequired && isEmpty v then (.ok .valid,w.silent r .valid)
      else if showsAtOnce r v event then (.ok (verdictState o),w.presented r o)
      else (.ok .pending,
        { w.silent r .pending with awaited := fun due x => due = u.now + max r.typingLimit.ms 0 ∧ x = v })

def entered (u : Surroundings) (r : Record) (w : FieldView) : Except Failure Record × FieldView :=
  let w := { w.untimed with record := some r }
  match u.ask r (u.value r.name) with
  | .error f => (.error f,w)
  | .ok o => (.ok (r.withVerdict o),w.judged r o)

def rebind (u : Surroundings) (name rules : String) (w : FieldView) : Except Failure Record × FieldView :=
  match u.read rules with
  | .error f => (.error f,w)
  | .ok p =>
    match w.record with
    | none => (.error (.problem (.unknownField (.text name))),w)
    | some r => w.entered u { r.rebind rules with pipeline := some p }

def add (u : Surroundings) (fields : Value.Fields) (stamp : Nat) (w : FieldView) :
    (Except Failure Record × FieldView) × List (Option String) :=
  match u.describe fields stamp with
  | .error f => ((.error f,w),[])
  | .ok r =>
    match u.read r.rules with
    | .error f => ((.error f,w),[])
    | .ok p => (w.entered u { r with pipeline := some p },[r.form])

end FieldView

namespace Session
variable {s s' t : Session} {name : String}

/-! ## Surroundings -/

structure Ground (s t : Session) : Prop where
  rest : t = { s with
    catalog := t.catalog
    display := t.display
    scheduler := t.scheduler
    registry := t.registry
    summary := t.summary
    timers := t.timers
    made := t.made }
  read (rules) : (t.catalog.parse rules).1 = (s.catalog.parse rules).1
  now : t.scheduler.now = s.scheduler.now

theorem Ground.refl (s : Session) : s.Ground s := ⟨rfl,fun _ => rfl,rfl⟩

theorem Ground.trans (first : s.Ground s') (second : s'.Ground t) : s.Ground t where
  rest := by
    conv => lhs; rw [second.rest,first.rest]
  read rules := (second.read rules).trans (first.read rules)
  now := second.now.trans first.now

theorem Ground.surroundings (ground : s.Ground t) : t.surroundings = s.surroundings := by
  have judge (r : Record) (v : Value) : t.judge r v = s.judge r v := by
    have dressed : t.judge r v = { s with catalog := t.catalog }.judge r v := by
      conv => lhs; rw [ground.rest]
      rfl
    rw [dressed]
    unfold Session.judge pipelineOf
    simp only [ground.read]
    rfl
  have shared : t.translator = s.translator ∧ t.inactivityLimit = s.inactivityLimit ∧ t.options = s.options ∧
      t.source = s.source := by
    refine ⟨?_,?_,?_,?_⟩ <;> rw [ground.rest]
  obtain ⟨translator,limit,options,source⟩ := shared
  unfold Session.surroundings
  rw [translator,limit,options,source,ground.now,funext fun r => funext (judge r),funext ground.read]

/-! ## Steps -/

structure Acts (s : Session) (name : String) (s' : Session) (w : FieldView) (forms : List (Option String)) : Prop where
  own : s'.view name = w
  others (m) : m ≠ name → s'.view m = s.view m
  attached (form) : form ∈ s'.summary.attached ↔ form ∈ s.summary.attached ∨ form ∈ forms
  ground : s.Ground s'

theorem Acts.refl (s : Session) (name : String) : s.Acts name s (s.view name) [] :=
  ⟨rfl,fun _ _ => rfl,by simp,.refl s⟩

theorem Acts.trans {w w' : FieldView} {forms forms'} (first : s.Acts name s' w forms)
    (second : s'.Acts name t w' forms') : s.Acts name t w' (forms ++ forms') where
  own := second.own
  others m apart := (second.others m apart).trans (first.others m apart)
  attached form := by rw [second.attached,first.attached,List.mem_append,or_assoc]
  ground := first.ground.trans second.ground

def Silences (s : Session) (name : String) : Prop :=
  ∀ m, expects (s.silenced name) m = if m = name then fun _ _ => False else expects s.scheduler m

theorem Timed.silences (h : s.Timed) (obeys : s.obeysCancel = true) (name : String) : s.Silences name := by
  intro m
  funext due v
  split
  · rename_i own
    refine eq_false ?_
    rintro ⟨t,live,field,_⟩
    obtain ⟨queued,waiting⟩ := (@memLive { s with scheduler := s.silenced name } t).mp live
    dsimp only at queued
    rw [silencedQueue] at queued
    obtain ⟨u,inside,rfl⟩ := List.mem_map.mp queued
    split at waiting
    · contradiction
    · rename_i missed
      rw [if_neg missed] at field
      have tracked := h.obeyed obeys u inside waiting
      rw [field,own] at tracked
      exact missed ⟨obeys,tracked⟩
  · rename_i apart
    refine propext (exists_congr fun t => ?_)
    constructor
    · rintro ⟨live,field,rest⟩
      exact ⟨(h.silencedLive (field ▸ apart)).mp live,field,rest⟩
    · rintro ⟨live,field,rest⟩
      exact ⟨(h.silencedLive (field ▸ apart)).mpr live,field,rest⟩

theorem laterExpects (q : Scheduler Alarm) (delay : Int) (a : Alarm) (m : String) : expects (q.callLater delay a).2 m =
    fun due v => expects q m due v ∨ a.field = m ∧ q.now + max delay 0 = due ∧ a.value = v := by
  have now : q.prune.now = q.now := q.pruneNow
  have live (t : Timer Alarm) : t ∈ (q.callLater delay a).2.live ↔
      t ∈ q.live ∨ t = ⟨q.now + max delay 0,q.prune.armed,a,false⟩ := by
    unfold Scheduler.live Scheduler.callLater
    simp only [List.mem_filter,(Scheduler.insertPerm _ _).mem_iff,List.mem_cons,now]
    constructor
    · rintro ⟨rfl | inside,waiting⟩
      · exact .inr rfl
      · exact .inl ⟨q.pruneSublist.subset inside,waiting⟩
    · rintro (⟨inside,waiting⟩ | rfl)
      · exact ⟨.inr (Scheduler.livePruned inside (by simpa using waiting)),waiting⟩
      · exact ⟨.inl rfl,rfl⟩
  funext due v
  refine propext ?_
  unfold expects
  constructor
  · rintro ⟨t,member,rest⟩
    rcases (live t).mp member with old | rfl
    · exact .inl ⟨t,old,rest⟩
    · exact .inr rest
  · rintro (⟨t,old,rest⟩ | rest)
    · exact ⟨t,(live t).mpr (.inl old),rest⟩
    · exact ⟨_,(live _).mpr (.inr rfl),rest⟩

section Steps
variable {w : FieldView} (seen : s.view name = w)
include seen

theorem parseActs (remembers : s.catalog.Remembers) (rules : String) : s.Acts name (s.parse rules).2 w [] := by
  obtain ⟨book,remembers'⟩ := Catalog.parseKeeps remembers rules
  exact ⟨seen,fun _ _ => rfl,by simp [Session.parse],rfl,Catalog.parseSameBook remembers remembers' book,rfl⟩

theorem storeActs {r : Record} (named : r.name = name) : s.Acts name (s.store r) { w with record := some r } [] := by
  subst seen named
  refine ⟨?_,fun m apart => ?_,by simp [store],rfl,fun _ => rfl,rfl⟩
  · simp [view,store,Registry.findUpsert]
  · simp [view,store,Registry.findUpsert,apart]

theorem acceptActs {r : Record} (named : r.name = name) (o : FieldOutcome) : s.Acts name (s.accept r o) (w.judged r o) [] := by
  subst seen named
  refine ⟨?_,fun m apart => ?_,by simp [accept,Summary.upsertAttached],rfl,fun _ => rfl,rfl⟩
  · simp [view,accept,store,Registry.findUpsert,Summary.getUpsert,FieldView.judged,Record.withVerdict]
  · simp [view,accept,store,Registry.findUpsert,Summary.getUpsert,Record.withVerdict,apart]

theorem cancelActs (h : s.Silences name) : s.Acts name (s.cancelTimer name) w.untimed [] := by
  subst seen
  rw [cancelTimerEq]
  refine ⟨?_,fun m apart => ?_,by simp,rfl,fun _ => rfl,silencedNow s name⟩
  · simp [view,h name,FieldView.untimed]
  · simp [view,h m,apart]

theorem silentActs {r : Record} (named : r.name = name) (state : FieldState) :
    s.Acts name ((s.clearMessage name).store { r with state := state }) (w.silent r state) [] := by
  subst seen named
  refine ⟨?_,fun m apart => ?_,by simp [store,clearMessage],rfl,fun _ => rfl,rfl⟩
  · simp [view,store,clearMessage,Registry.findUpsert,Display.clear,Table.getDropped,FieldView.silent]
  · simp [view,store,clearMessage,Registry.findUpsert,Display.clear,Table.getBesideDropped apart,apart]

theorem presentActs {r : Record} (named : r.name = name) (o : FieldOutcome) :
    s.Acts name (s.present r o) (w.presented r o) [] := by
  subst seen named
  rw [presentEq]
  refine ⟨?_,fun m apart => ?_,by simp [store],rfl,fun _ => rfl,rfl⟩
  · unfold Display.settle FieldView.presented
    split <;> simp [view,store,Registry.findUpsert,Display.put,Display.clear,Table.getPut,Table.getDropped]
  · unfold Display.settle
    split <;> simp [view,store,Registry.findUpsert,Display.put,Display.clear,Table.getBesidePut apart,
      Table.getBesideDropped apart,apart]

theorem armActs {r : Record} (named : r.name = name) (v : Value) (idle : w.awaited = fun _ _ => False) :
    s.Acts name (s.arm r v)
      { w with awaited := fun due x => due = s.scheduler.now + max r.typingLimit.ms 0 ∧ x = v } [] := by
  subst seen named
  have later := laterExpects s.scheduler r.typingLimit.ms ⟨r.stamp,r.name,v,s.epoch⟩
  have none : expects s.scheduler r.name = fun _ _ => False := idle
  refine ⟨?_,fun m apart => ?_,by simp [arm],rfl,fun _ => rfl,s.scheduler.pruneNow⟩
  · unfold view arm
    dsimp only
    rw [later,none]
    simp [eq_comm]
  · unfold view arm
    dsimp only
    rw [later]
    simp [Ne.symm apart]

theorem enterActs {r : Record} (named : r.name = name) :
    s.Acts name (s.enter r) { w with record := some r } [r.form] := by
  subst seen named
  have entries : (s.summary.attach r.form).get? = s.summary.get? := by
    funext m
    unfold Summary.get?
    rw [Summary.attachEntries]
  refine ⟨?_,fun m apart => ?_,fun form => ?_,rfl,fun _ => rfl,rfl⟩
  · simp [view,enter,store,Registry.findUpsert,entries]
  · simp [view,enter,store,Registry.findUpsert,entries,apart]
  · rw [List.mem_singleton]
    exact Summary.memAttach.trans or_comm

end Steps

theorem removeActs (h : s.Silences name) : s.Acts name (s.remove name) ⟨none,none,none,fun _ _ => False⟩ [] := by
  rw [removeEq]
  refine ⟨?_,fun m apart => ?_,by simp [Summary.clear],rfl,fun _ => rfl,silencedNow s name⟩
  · simp [view,h name,Registry.findRemove,Summary.clear,Summary.get?,Display.clear,Table.getDropped]
  · simp [view,h m,Registry.findRemove,Summary.clear,Summary.get?,Display.clear,Table.getBesideDropped apart,apart]

/-! ## Operations -/

theorem validateActs (h : s.Ordered) (obeys : s.obeysCancel = true) (name : String) (v : Value) (event : InputEvent) :
    (s.validate name v event).1 = ((s.view name).validate s.surroundings name v event).1 ∧
    s.Acts name (s.validate name v event).2 ((s.view name).validate s.surroundings name v event).2 [] := by
  have silences := h.toTimed.silences obeys name
  have record : (s.view name).record = s.registry.find? name := rfl
  unfold Session.validate FieldView.validate
  rw [record]
  cases found : s.registry.find? name with
  | none => exact ⟨rfl,.refl s name⟩
  | some r =>
    have named : (mark r event).name = name := (markName r event).trans (h.proper found).named
    have marked := storeActs (s := s) rfl named
    have asked : (s.store (mark r event)).judge (mark r event) v = s.surroundings.ask (mark r event) v := rfl
    dsimp only
    rw [asked]
    cases s.surroundings.ask (mark r event) v with
    | error f => exact ⟨rfl,marked⟩
    | ok o =>
      have accepted := marked.trans (acceptActs marked.own named o)
      have noted := accepted.trans (cancelActs accepted.own silences)
      have own : ((mark r event).withVerdict o).name = name := named
      have pending : { (mark r event).withVerdict o with state := .pending }.name = name := named
      dsimp only
      split
      · exact ⟨rfl,noted.trans (silentActs noted.own own .valid)⟩
      · split
        · exact ⟨rfl,noted.trans (presentActs noted.own own o)⟩
        · have silent := noted.trans (silentActs noted.own own .pending)
          have armed := silent.trans (armActs silent.own pending v rfl)
          rw [silent.ground.now] at armed
          exact ⟨rfl,armed⟩

theorem enteredActs {w : FieldView} {r : Record} {forms}
    (acts : s.Acts name t { w.untimed with record := some r } forms) (named : r.name = name) :
    (t.judgeSilently r).1 = (w.entered s.surroundings r).1 ∧
    s.Acts name (t.judgeSilently r).2 (w.entered s.surroundings r).2 forms := by
  have asked : t.judge r (t.source.value r.name) = s.surroundings.ask r (s.surroundings.value r.name) := by
    rw [← acts.ground.surroundings]
    rfl
  unfold judgeSilently FieldView.entered
  rw [asked]
  dsimp only
  cases s.surroundings.ask r (s.surroundings.value r.name) with
  | error f => exact ⟨rfl,acts⟩
  | ok o =>
    have accepted := acts.trans (acceptActs acts.own named o)
    rw [List.append_nil] at accepted
    exact ⟨rfl,accepted⟩

theorem rebindActs (h : s.Ordered) (obeys : s.obeysCancel = true) (name rules : String) :
    (s.rebind name rules).1 = ((s.view name).rebind s.surroundings name rules).1 ∧
    s.Acts name (s.rebind name rules).2 ((s.view name).rebind s.surroundings name rules).2 [] := by
  have silences := h.toTimed.silences obeys name
  have record : (s.view name).record = s.registry.find? name := rfl
  have read : s.surroundings.read rules = (s.parse rules).1 := rfl
  have parsed : s.Acts name (s.parse rules).2 (s.view name) [] := parseActs rfl h.remembers rules
  unfold Session.rebind FieldView.rebind
  rw [read,record]
  rcases same : s.parse rules with ⟨f | p,s₁⟩
  all_goals rw [same] at parsed
  · exact ⟨rfl,parsed⟩
  · obtain ⟨_,rfl⟩ := parseEq same
    dsimp only
    cases found : s.registry.find? name with
    | none => exact ⟨rfl,parsed⟩
    | some r =>
      have named : (r.rebind rules).name = name := (reboundSame r rules).1.trans (h.proper found).named
      have silent := parsed.trans (cancelActs parsed.own silences)
      exact enteredActs (silent.trans (storeActs silent.own named)) named

theorem describedName {u : Translator} {usual stamp attributes r} (ok : Attributes.record u usual stamp attributes = .ok r) :
    r.name = (Attributes.nameOf attributes).plainText := by
  unfold Attributes.record at ok
  dsimp only at ok
  split at ok
  · contradiction
  · split at ok <;> cases ok
    rfl

theorem addActs (h : s.Ordered) (obeys : s.obeysCancel = true) {name : String} {fields : Value.Fields}
    (named : Attributes.nameOf (s.options.overlay fields) = .text name) :
    (s.add fields).1 = ((s.view name).add s.surroundings fields s.made).1.1 ∧
    s.Acts name (s.add fields).2 ((s.view name).add s.surroundings fields s.made).1.2
      ((s.view name).add s.surroundings fields s.made).2 := by
  have silences := h.toTimed.silences obeys name
  have described : s.surroundings.describe fields s.made =
      Attributes.record s.translator s.inactivityLimit s.made (s.options.overlay fields) := rfl
  unfold Session.add FieldView.add
  rw [described]
  cases made : Attributes.record s.translator s.inactivityLimit s.made (s.options.overlay fields) with
  | error f => exact ⟨rfl,.refl s name⟩
  | ok r =>
    have own : r.name = name := by
      rw [describedName made,named]
      rfl
    subst own
    have read : s.surroundings.read r.rules = (s.parse r.rules).1 := rfl
    have parsed : s.Acts r.name (s.parse r.rules).2 (s.view r.name) [] := parseActs rfl h.remembers r.rules
    dsimp only
    rw [read]
    rcases same : s.parse r.rules with ⟨f | p,s₁⟩
    all_goals rw [same] at parsed
    · exact ⟨rfl,parsed⟩
    · obtain ⟨_,rfl⟩ := parseEq same
      have silent := parsed.trans (cancelActs parsed.own silences)
      have entered := silent.trans (enterActs (r := { r with pipeline := some p }) silent.own rfl)
      exact enteredActs entered rfl

end Session
end FormGuard
