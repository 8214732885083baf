import FormGuard.Proofs.FieldViews

/-! Operations on different fields. In which order two of them come makes no difference, neither to what they answer nor to
the page that they leave; only the records of fields registered meanwhile bear other stamps. -/
namespace FormGuard

def Record.plain (r : Record) : Record := { r with stamp := 0 }

def FieldView.plain (w : FieldView) : FieldView := { w with record := w.record.map Record.plain }

inductive Reply where
  | record (r : Record)
  | state (state : FieldState)
  | done

def Reply.plain : Reply → Reply
  | record r => record r.plain
  | answer => answer

structure Effect where
  reply : Except Failure Reply
  view : FieldView
  forms : List (Option String)

def Effect.plain (x : Effect) : Effect := ⟨x.reply.map Reply.plain,x.view.plain,x.forms⟩

namespace SessionEvent
open Session

def field? (options : Value.Fields) : SessionEvent → Option String
  | validate (.text name) _ _ => some name
  | rebind (.text name) _ => some name
  | remove (.text name) => some name
  | remove (.list [.text name]) => some name
  | add attributes rules =>
    match attributesGiven attributes rules with
    | .error _ => none
    | .ok fields =>
      match Attributes.nameOf (options.overlay fields) with
      | .text name => some name
      | _ => none
  | _ => none

def reply : SessionEvent → Session → Except Failure Reply
  | add attributes rules,s => (s.addGiven attributes rules).1.map .record
  | rebind name rules,s => (s.rebindGiven name rules).1.map .record
  | validate name v event,s => (s.validateGiven name v event).1.map .state
  | e,s => (e.run s).1.map fun _ => .done

def effect (u : Surroundings) (stamp : Nat) : SessionEvent → FieldView → Effect
  | validate (.text name) v event,w =>
    let (answer,w) := w.validate u name v (eventOf event)
    ⟨answer.map .state,w,[]⟩
  | rebind (.text name) rules,w =>
    match rulesOf rules with
    | .error f => ⟨.error (.fault f),w,[]⟩
    | .ok rules =>
      let (answer,w) := w.rebind u name rules
      ⟨answer.map .record,w,[]⟩
  | remove _,_ => ⟨.ok .done,⟨none,none,none,fun _ _ => False⟩,[]⟩
  | add attributes rules,w =>
    match attributesGiven attributes rules with
    | .error f => ⟨.error (.fault f),w,[]⟩
    | .ok fields =>
      let ((answer,w),forms) := w.add u fields stamp
      ⟨answer.map .record,w,forms⟩
  | _,w => ⟨.ok .done,w,[]⟩

variable {s : Session} {e : SessionEvent} {name : String}

theorem acts (h : s.Ordered) (obeys : s.obeysCancel = true) (own : e.field? s.options = some name) :
    e.reply s = (e.effect s.surroundings s.made (s.view name)).reply ∧
    s.Acts name (e.run s).2 (e.effect s.surroundings s.made (s.view name)).view
      (e.effect s.surroundings s.made (s.view name)).forms := by
  unfold field? at own
  split at own
  · rename_i n v event
    cases own
    obtain ⟨answer,acts⟩ := validateActs h obeys name v (eventOf event)
    exact ⟨congrArg (Except.map Reply.state) answer,acts⟩
  · rename_i n rules
    cases own
    have asked (rules) : (rebind (.text name) rules).reply s = (s.rebindGiven (.text name) rules).1.map .record ∧
        ((rebind (.text name) rules).run s).2 = (s.rebindGiven (.text name) rules).2 := ⟨rfl,rfl⟩
    rw [(asked rules).1,(asked rules).2]
    unfold rebindGiven
    simp only [effect]
    cases rulesOf rules with
    | error f => exact ⟨rfl,.refl s name⟩
    | ok rules =>
      obtain ⟨answer,acts⟩ := rebindActs h obeys name rules
      exact ⟨congrArg (Except.map Reply.record) answer,acts⟩
  · cases own
    exact ⟨rfl,removeActs (h.toTimed.silences obeys name)⟩
  · cases own
    exact ⟨rfl,removeActs (h.toTimed.silences obeys name)⟩
  · rename_i attributes rules
    have asked : (add attributes rules).reply s = (s.addGiven attributes rules).1.map .record ∧
        ((add attributes rules).run s).2 = (s.addGiven attributes rules).2 := ⟨rfl,rfl⟩
    rw [asked.1,asked.2,addGivenEq]
    simp only [effect]
    cases given : attributesGiven attributes rules with
    | error f =>
      rw [given] at own
      contradiction
    | ok fields =>
      rw [given] at own
      dsimp only at own
      split at own
      · rename_i n named
        cases own
        obtain ⟨answer,acts⟩ := addActs h obeys named
        exact ⟨congrArg (Except.map Reply.record) answer,acts⟩
      · contradiction
  · contradiction

end SessionEvent

namespace Session
variable {s t : Session} {name : String}

/-! ## Stamps -/

theorem describeStamp (s : Session) (fields : Value.Fields) (k k' : Nat) :
    s.surroundings.describe fields k' = (s.surroundings.describe fields k).map fun r => { r with stamp := k' } := by
  unfold surroundings Attributes.record
  dsimp only
  split
  · rfl
  · split <;> rfl

theorem enteredStamp (s : Session) (w : FieldView) (r : Record) (k : Nat) :
    let x := w.entered s.surroundings r
    let y := w.entered s.surroundings { r with stamp := k }
    (y.1.map Record.plain,y.2.plain) = (x.1.map Record.plain,x.2.plain) := by
  have asked : s.surroundings.ask { r with stamp := k } (s.surroundings.value r.name) =
      s.surroundings.ask r (s.surroundings.value r.name) := rfl
  unfold FieldView.entered
  dsimp only
  rw [asked]
  cases s.surroundings.ask r (s.surroundings.value r.name) <;> rfl

theorem addStamp (s : Session) (w : FieldView) (fields : Value.Fields) (k k' : Nat) :
    let x := w.add s.surroundings fields k
    let y := w.add s.surroundings fields k'
    (y.1.1.map Record.plain,y.1.2.plain,y.2) = (x.1.1.map Record.plain,x.1.2.plain,x.2) := by
  dsimp only
  unfold FieldView.add
  rw [describeStamp s fields k k']
  cases s.surroundings.describe fields k with
  | error f => rfl
  | ok r =>
    dsimp only [Except.map]
    cases s.surroundings.read r.rules with
    | error f => rfl
    | ok p =>
      have entered := enteredStamp s w { r with pipeline := some p } k'
      rw [Prod.mk.injEq] at entered
      exact Prod.ext entered.1 (Prod.ext entered.2 rfl)

theorem effectStamp (s : Session) (e : SessionEvent) (w : FieldView) (k k' : Nat) :
    (e.effect s.surroundings k' w).plain = (e.effect s.surroundings k w).plain := by
  have plain (x : Except Failure Record) : (x.map Reply.record).map Reply.plain = (x.map Record.plain).map .record := by
    cases x <;> rfl
  cases e with
  | add attributes rules =>
    unfold SessionEvent.effect
    dsimp only
    cases attributesGiven attributes rules with
    | error f => rfl
    | ok fields =>
      have same := addStamp s w fields k k'
      simp only [Prod.mk.injEq] at same
      unfold Effect.plain
      dsimp only
      rw [plain,plain,same.1,same.2.1,same.2.2]
  | rebind field => cases field <;> rfl
  | validate field => cases field <;> rfl
  | _ => rfl

/-! ## Either order -/

def waiting (s : Session) : List (String × Int × Value) :=
  s.scheduler.live.map fun t => (t.payload.field,t.due,t.payload.value)

structure Alike (s t : Session) : Prop where
  record (m) : (s.registry.find? m).map Record.plain = (t.registry.find? m).map Record.plain
  names (m) : m ∈ s.registry.names ↔ m ∈ t.registry.names
  entries : s.summary.all.Perm t.summary.all
  attached (form) : form ∈ s.summary.attached ↔ form ∈ t.summary.attached
  message (m) : s.display.messages.get? m = t.display.messages.get? m
  waiting : s.waiting.Perm t.waiting

theorem memWaiting {due v} : (name,due,v) ∈ s.waiting ↔ (s.view name).awaited due v := by
  unfold waiting view expects
  simp [Prod.ext_iff]

theorem Timed.waitingNodup (h : s.Timed) (obeys : s.obeysCancel = true) : s.waiting.Nodup := by
  have live : s.scheduler.live.Nodup := (h.distinct.sublist (List.filter_sublist.map _)).of_map _
  refine live.map_on fun t ht u hu same => ?_
  obtain ⟨queued,waits⟩ := memLive.mp ht
  obtain ⟨queued',waits'⟩ := memLive.mp hu
  have first := h.obeyed obeys t queued waits
  have second := h.obeyed obeys u queued' waits'
  have field : t.payload.field = u.payload.field := congrArg Prod.fst same
  rw [field,second] at first
  exact h.unique queued queued' (Option.some.inj first).symm

theorem entriesNodup {y : Summary} (h : y.Filed) : y.all.Nodup := by
  have fields : y.all.map (·.field) = y.entries.names := by
    unfold Summary.all Table.entries Table.names
    rw [List.map_map]
    refine List.map_congr_left fun e inside => ?_
    exact h.field (getOfMem h.distinct inside)
  exact .of_map _ (fields ▸ h.distinct)

theorem Ordered.alike (h : s.Ordered) (h' : t.Ordered) (obeys : s.obeysCancel = true) (obeys' : t.obeysCancel = true)
    (views : ∀ name, (s.view name).plain = (t.view name).plain)
    (attached : ∀ form, form ∈ s.summary.attached ↔ form ∈ t.summary.attached) : s.Alike t where
  record name := congrArg FieldView.record (views name)
  names name := by
    have same : (s.registry.find? name).map Record.plain = (t.registry.find? name).map Record.plain :=
      congrArg FieldView.record (views name)
    have present := congrArg Option.isSome same
    rw [Option.isSome_map,Option.isSome_map] at present
    rw [Table.namedIff,Table.namedIff,← Option.isSome_iff_exists,← Option.isSome_iff_exists]
    exact iff_of_eq (congrArg (· = true) present)
  entries := by
    rw [List.perm_ext_iff_of_nodup (entriesNodup h.summary) (entriesNodup h'.summary)]
    intro e
    have same : s.summary.get? e.field = t.summary.get? e.field := congrArg FieldView.entry (views e.field)
    rw [Summary.memAll h.summary,Summary.memAll h'.summary,same]
  attached := attached
  message name := congrArg FieldView.message (views name)
  waiting := by
    rw [List.perm_ext_iff_of_nodup (h.toTimed.waitingNodup obeys) (h'.toTimed.waitingNodup obeys')]
    rintro ⟨name,due,v⟩
    have same := congrArg FieldView.awaited (views name)
    rw [memWaiting,memWaiting]
    exact iff_of_eq (congrFun (congrFun same due) v)

structure Commutes (s : Session) (e e' : SessionEvent) : Prop where
  first : (e.reply s).map Reply.plain = (e.reply (e'.run s).2).map Reply.plain
  second : (e'.reply (e.run s).2).map Reply.plain = (e'.reply s).map Reply.plain
  page : (e'.run (e.run s).2).2.Alike (e.run (e'.run s).2).2

theorem sameEffect {e : SessionEvent} (ground : s.Ground t) (seen : t.view name = s.view name) :
    (e.effect t.surroundings t.made (t.view name)).plain = (e.effect s.surroundings s.made (s.view name)).plain := by
  rw [ground.surroundings,seen]
  exact effectStamp s e (s.view name) s.made t.made

theorem Ground.options (ground : s.Ground t) : t.options = s.options := by rw [ground.rest]

theorem Ground.obeys (ground : s.Ground t) (obeys : s.obeysCancel = true) : t.obeysCancel = true := by
  rw [ground.rest]
  exact obeys

theorem Ordered.operated (h : s.Ordered) {e : SessionEvent} (own : e.field? s.options = some name) : (e.run s).2.Ordered := by
  refine h.event fun a late => ?_
  rw [late] at own
  contradiction

theorem commute {e e' : SessionEvent} {other : String} (h : s.Ordered) (obeys : s.obeysCancel = true)
    (own : e.field? s.options = some name) (own' : e'.field? s.options = some other) (apart : name ≠ other) :
    s.Commutes e e' := by
  obtain ⟨answer,first⟩ := e.acts h obeys own
  obtain ⟨answer',first'⟩ := e'.acts h obeys own'
  have left := h.operated own
  have right := h.operated own'
  have ownLeft : e'.field? (e.run s).2.options = some other := first.ground.options ▸ own'
  have ownRight : e.field? (e'.run s).2.options = some name := first'.ground.options ▸ own
  obtain ⟨later,second⟩ := e'.acts left (first.ground.obeys obeys) ownLeft
  obtain ⟨later',second'⟩ := e.acts right (first'.ground.obeys obeys) ownRight
  have same := sameEffect (e := e) first'.ground (first'.others name apart)
  have same' := sameEffect (e := e') first.ground (first.others other apart.symm)
  refine ⟨?_,?_,(left.operated ownLeft).alike (right.operated ownRight) (second.ground.obeys (first.ground.obeys obeys))
    (second'.ground.obeys (first'.ground.obeys obeys)) (fun m => ?_) fun form => ?_⟩
  · rw [answer,later']
    exact (congrArg Effect.reply same).symm
  · rw [later,answer']
    exact congrArg Effect.reply same'
  · by_cases atName : m = name
    · subst atName
      rw [second.others m apart,first.own,second'.own]
      exact (congrArg Effect.view same).symm
    · by_cases atOther : m = other
      · subst atOther
        rw [second.own,second'.others m atName,first'.own]
        exact congrArg Effect.view same'
      · rw [second.others m atOther,first.others m atName,second'.others m atName,first'.others m atOther]
  · have forms := congrArg Effect.forms same
    have forms' := congrArg Effect.forms same'
    dsimp only [Effect.plain] at forms forms'
    rw [second.attached,first.attached,second'.attached,first'.attached,forms,forms']
    exact or_right_comm

/-- Two operations on different fields come to the same in either order: they answer the same, and leave the page with the
same fields, entries, forms, messages and timers. -/
theorem fieldsApart {opening : Session} {past} (opened : opening.Opened) (run : opening.Run past s)
    (obeys : s.obeysCancel = true) {e e' : SessionEvent} {other : String} (own : e.field? s.options = some name)
    (own' : e'.field? s.options = some other) (apart : name ≠ other) : s.Commutes e e' :=
  commute (runOrdered opened run) obeys own own' apart

theorem typedAndRegistered : retyped.field? (smallField true).options = some "x" ∧
    (SessionEvent.add (.text "y") (.text "letter")).field? (smallField true).options = some "y" ∧
    (smallField true).Commutes retyped (.add (.text "y") (.text "letter")) := by
  have own : retyped.field? (smallField true).options = some "x" := rfl
  have own' : (SessionEvent.add (.text "y") (.text "letter")).field? (smallField true).options = some "y" := by
    decide +kernel
  exact ⟨own,own',fieldsApart (smallOpened true) (smallFieldRun true) (by decide +kernel) own own' (by decide)⟩

end Session
end FormGuard
