import FormGuard.Proofs.SummaryAgreement

/-! A timer that goes off after it was called off. An alarm tells its record by the epoch of the session and the stamp
of the record, so it does nothing to a field that was registered anew, removed or reset; one that finds its record
counts as if its value were the latest. It then changes nothing only where it has nothing new to say. -/
namespace FormGuard
namespace Record

def unwait (r : Record) : Record := if r.state = .pending then { r with state := .unvalidated } else r

theorem unwaitTwice (r : Record) : r.unwait.unwait = r.unwait := by
  unfold unwait
  by_cases waits : r.state = .pending <;> simp [waits]

end Record

namespace Session

/-- All that is seen of a field is as before: its record, its entry, the message next to it and its timer. -/
structure SameField (s s' : Session) (name : String) : Prop where
  record : s'.registry.find? name = s.registry.find? name
  entry : s'.summary.get? name = s.summary.get? name
  shown : s'.display.messages.get? name = s.display.messages.get? name
  timer : s'.timers.get? name = s.timers.get? name

def shownOf (r : Record) (o : FieldOutcome) : Option String :=
  if !o.valid && (r.dirty || r.touched) then some o.message else none

structure Standing (s : Session) (r : Record) (o : FieldOutcome) : Prop where
  state : r.state = verdictState o
  verdict : r.withVerdict o = r
  entry : s.summary.get? r.name = if r.message = "" then none else some ⟨r.name,r.message,r.friendlyName,r.form⟩
  shown : s.display.messages.get? r.name = shownOf r o

/-- Whatever record an alarm finds, no timer has come after it and it has nothing new to say. -/
def Outdone (s : Session) (a : Alarm) : Prop :=
  ∀ r, s.registry.find? a.field = some r → a.epoch = s.epoch → a.stamp = r.stamp →
    s.timers.get? a.field = none ∧ ∀ o, s.judge r a.value = .ok o → s.Standing r o

theorem verdictShown (o : FieldOutcome) : verdictState o ≠ .pending ∧ verdictState o ≠ .unvalidated := by
  unfold verdictState
  cases o.valid <;> simp

theorem shownSettled (d : Display) (r : Record) (o : FieldOutcome) :
    (d.settle r o).messages.get? r.name = shownOf r o := by
  unfold Display.settle shownOf
  split
  · exact Table.getPut
  · exact Table.getDropped

theorem untrackJudge (s : Session) (name : String) (r : Record) (v : Value) :
    (s.untrack name).judge r v = s.judge r v := rfl

theorem sameVerdict {r : Record} {o : FieldOutcome} :
    { r.withVerdict o with state := verdictState o } = r ↔ r.state = verdictState o ∧ r.withVerdict o = r := by
  constructor
  · intro same
    have state : r.state = verdictState o := by rw [← same]
    refine ⟨state,?_⟩
    rw [← state] at same
    exact same
  · rintro ⟨state,verdict⟩
    rw [← state]
    exact verdict

theorem heardSame {s : Session} {a : Alarm} {r o} (found : s.registry.find? a.field = some r)
    (named : r.name = a.field) (answered : (s.untrack a.field).judge r a.value = .ok o) :
    SameField s (((s.untrack a.field).accept r o).present (r.withVerdict o) o) a.field ↔
      s.timers.get? a.field = none ∧ s.Standing r o := by
  have judged := heardJudges answered
  rw [presentEq] at judged ⊢
  generalize hs : ({ ((s.untrack a.field).accept r o).store _ with display := _ } : Session) = s' at judged ⊢
  have record : s'.registry.find? a.field = some { r.withVerdict o with state := verdictState o } :=
    (judged.registry a.field).trans (if_pos named.symm)
  have entry : s'.summary.get? a.field =
      if (r.withVerdict o).message = "" then none
      else some ⟨r.name,(r.withVerdict o).message,r.friendlyName,r.form⟩ := by
    unfold Summary.get?
    rw [judged.entries]
    exact Summary.getUpsert.trans (if_pos named.symm)
  have shown : s'.display.messages.get? a.field = shownOf r o := by
    rw [← hs,← named]
    exact shownSettled _ (r.withVerdict o) o
  have timer : s'.timers.get? a.field = none := by
    rw [← hs]
    exact Table.getDropped
  constructor
  · rintro ⟨sameRecord,sameEntry,sameShown,sameTimer⟩
    rw [record,found] at sameRecord
    obtain ⟨state,verdict⟩ := sameVerdict.mp (Option.some.inj sameRecord)
    rw [entry,verdict] at sameEntry
    have entered := (congrArg s.summary.get? named).trans sameEntry.symm
    exact ⟨by rw [← sameTimer,timer],state,verdict,entered,by rw [named,← sameShown,shown]⟩
  · rintro ⟨idle,state,verdict,entered,displayed⟩
    rw [named] at entered displayed
    exact ⟨by rw [record,found,sameVerdict.mpr ⟨state,verdict⟩],by rw [entry,verdict,entered,named],
      by rw [shown,displayed],by rw [timer,idle]⟩

theorem expireSame {s : Session} (ordered : s.Ordered) (a : Alarm) :
    SameField s (s.expire a).2 a.field ↔ s.Outdone a := by
  have outcomes := rung s a
  generalize s.expire a = answer at outcomes
  cases outcomes with
  | stale stale => exact iff_of_true ⟨rfl,rfl,rfl,rfl⟩ fun r found epoch stamp => absurd ⟨epoch,stamp⟩ (stale r found)
  | @broken r f found epoch stamp failed =>
    have gone : (s.untrack a.field).timers.get? a.field = none := Table.getDropped
    constructor
    · intro same r' found' _ _
      cases found.symm.trans found'
      refine ⟨same.timer.symm.trans gone,fun o answered => ?_⟩
      rw [untrackJudge,answered] at failed
      contradiction
    · intro outdone
      obtain ⟨idle,_⟩ := outdone r found epoch stamp
      exact ⟨rfl,rfl,rfl,gone.trans idle.symm⟩
  | @heard r o found epoch stamp answered =>
    rw [heardSame found (ordered.proper found).named answered]
    rw [untrackJudge] at answered
    constructor
    · rintro ⟨idle,standing⟩ r' found' _ _
      cases found.symm.trans found'
      refine ⟨idle,fun o' answered' => ?_⟩
      cases answered.symm.trans answered'
      exact standing
    · intro outdone
      obtain ⟨idle,standing⟩ := outdone r found epoch stamp
      exact ⟨idle,standing o answered⟩

def Awaits (s : Session) (a : Alarm) : Prop :=
  ∃ t ∈ s.scheduler.queue, t.payload = a ∧ s.timers.get? a.field = some t.stamp

structure Finds (s : Session) (a : Alarm) (r : Record) : Prop where
  found : s.registry.find? a.field = some r
  epoch : a.epoch = s.epoch
  stamp : a.stamp = r.stamp

theorem awaited {s : Session} {a : Alarm} (ordered : s.Ordered) (awaits : s.Awaits a) :
    ∃ r, s.Finds a r ∧ r.state = .pending := by
  obtain ⟨t,queued,rfl,tracked⟩ := awaits
  obtain ⟨r,u,found,pending,waits,stamp⟩ := ordered.tracked tracked
  have same : u = t := ordered.unique waits.queued queued stamp
  exact ⟨r,⟨found,same ▸ waits.epoch,same ▸ waits.stamp⟩,pending⟩

theorem armedAwaits {s s' : Session} {name v event} (filed : s.Filed)
    (ok : s.validate name v event = (.ok .pending,s')) :
    ∃ r, s.registry.find? name = some r ∧ s'.Awaits ⟨r.stamp,name,v,s.epoch⟩ := by
  have outcomes := noted s name v event
  rw [ok] at outcomes
  generalize answer : FieldState.pending = state at outcomes
  cases outcomes with
  | excused => cases answer
  | @shown r o => exact absurd answer.symm (verdictShown o).1
  | @postponed r o found answered =>
    have named : (mark r event).name = name := (markName r event).trans (filed.proper found).named
    obtain ⟨queued,timers⟩ := postponedTimer s named o v
    refine ⟨r,found,_,queued,?_,?_⟩
    · rw [markStamp]
    · rw [timers]
      exact Table.getPut

theorem outdoneIff {s : Session} {a : Alarm} {r} (finds : s.Finds a r) :
    s.Outdone a ↔ s.timers.get? a.field = none ∧ ∀ o, s.judge r a.value = .ok o → s.Standing r o := by
  constructor
  · exact fun outdone => outdone r finds.found finds.epoch finds.stamp
  · intro outdone r' found _ _
    cases finds.found.symm.trans found
    exact outdone

theorem Standing.same {s : Session} {r o o'} (standing : s.Standing r o) (state : r.state = verdictState o')
    (verdict : r.withVerdict o' = r) : s.Standing r o' := by
  refine ⟨state,verdict,standing.entry,standing.shown.trans ?_⟩
  have valid : o.valid = o'.valid := by
    have first := congrArg Record.isValid standing.verdict
    have second := congrArg Record.isValid verdict
    exact first.trans second.symm
  have message := (congrArg Record.message standing.verdict).trans (congrArg Record.message verdict).symm
  unfold shownOf
  unfold Record.withVerdict at message
  cases passed : o'.valid with
  | true => simp [valid,passed]
  | false => simp_all

theorem standingOutdone {s : Session} {a : Alarm} {r o'} (finds : s.Finds a r) (standing : s.Standing r o') :
    s.Outdone a ↔ s.timers.get? a.field = none ∧
      ∀ o, s.judge r a.value = .ok o → r.state = verdictState o ∧ r.withVerdict o = r := by
  rw [outdoneIff finds]
  refine and_congr_right fun _ => forall₂_congr fun o _ => ?_
  exact ⟨fun now => ⟨now.state,now.verdict⟩,fun ⟨state,verdict⟩ => standing.same state verdict⟩

theorem unshownOutdone {s : Session} {a : Alarm} {r} (finds : s.Finds a r) (idle : s.timers.get? a.field = none)
    (unshown : ∀ o, r.state ≠ verdictState o) : s.Outdone a ↔ ∃ f, s.judge r a.value = .error f := by
  rw [outdoneIff finds]
  constructor
  · rintro ⟨_,standing⟩
    cases answered : s.judge r a.value with
    | error f => exact ⟨f,rfl⟩
    | ok o => exact absurd (standing o answered).state (unshown o)
  · rintro ⟨f,failed⟩
    refine ⟨idle,fun o answered => ?_⟩
    rw [failed] at answered
    contradiction

theorem Judges.standing {s s' : Session} {r o} (judged : Judges s s' r o (verdictState o))
    (shown : s'.display.messages.get? r.name = shownOf r o) :
    s'.Standing { r.withVerdict o with state := verdictState o } o := by
  refine ⟨rfl,rfl,?_,shown⟩
  unfold Summary.get?
  rw [judged.entries]
  exact Summary.getUpsert.trans (if_pos rfl)

theorem afterValidate {s s' : Session} {a : Alarm} {v event state} (ordered : s.Ordered) (awaits : s.Awaits a)
    (ok : s.validate a.field v event = (.ok state,s')) :
    ∃ r, s'.Finds a r ∧ (s'.timers.get? a.field ≠ none ∨ ∃ o, s'.Standing r o) := by
  obtain ⟨r₀,finds,_⟩ := awaited ordered awaits
  have proper := ordered.proper finds.found
  have named : (mark r₀ event).name = a.field := (markName r₀ event).trans proper.named
  have stamp : a.stamp = (mark r₀ event).stamp := finds.stamp.trans (markStamp r₀ event).symm
  have outcomes := noted s a.field v event
  rw [ok] at outcomes
  cases outcomes with
  -- The verdict is shown at once where no timer is armed; only a postponed one leaves the field waiting again.
  | @excused r o found answered optional empty =>
    cases finds.found.symm.trans found
    obtain ⟨p,pipeline,_⟩ := proper.read
    have passed := excusedValid answered ((markPipeline r₀ event).trans pipeline) (by rwa [markRequired]) empty
    have state : FieldState.valid = verdictState o := by simp [verdictState,passed]
    have judged := settleJudges s a.field .valid answered
    rw [noteEq] at judged ⊢
    refine ⟨_,⟨(judged.registry _).trans (if_pos named.symm),finds.epoch,stamp⟩,.inr ⟨o,?_⟩⟩
    rw [state] at judged ⊢
    refine judged.standing ?_
    have hidden : shownOf (mark r₀ event) o = none := by simp [shownOf,passed]
    rw [hidden]
    exact (Table.getAfterDrop _ _ _).trans (if_pos named)
  | @shown r o found answered =>
    cases finds.found.symm.trans found
    have judged := showJudges s a.field answered
    rw [presentEq,noteEq] at judged ⊢
    refine ⟨_,⟨(judged.registry _).trans (if_pos named.symm),finds.epoch,stamp⟩,.inr ⟨o,?_⟩⟩
    exact judged.standing (shownSettled _ ((mark r₀ event).withVerdict o) o)
  | @postponed r o found answered =>
    cases finds.found.symm.trans found
    have judged := settleJudges s a.field .pending answered
    rw [noteEq] at judged ⊢
    refine ⟨_,⟨(judged.registry _).trans (if_pos named.symm),finds.epoch,stamp⟩,.inl ?_⟩
    refine ((Table.getAfterPut _ _ _ _).trans (if_pos named.symm)).trans_ne ?_
    simp

theorem afterRebind {s s' : Session} {a : Alarm} {rules r'} (ordered : s.Ordered) (awaits : s.Awaits a)
    (ok : s.rebind a.field rules = (.ok r',s')) :
    ∃ r, s'.Finds a r ∧ s'.timers.get? a.field = none ∧ r.state = .pending := by
  obtain ⟨r₀,finds,pending⟩ := awaited ordered awaits
  rw [rebindEq] at ok
  rcases entry : s.retune a.field rules with ⟨f | r,s₁⟩
  · rw [entry] at ok
    cases ok
  · rw [entry] at ok
    dsimp only at ok
    have named := (retunedProper ordered.toFiled entry).1.named
    unfold judgeSilently at ok
    split at ok
    · cases ok
    · rename_i o answered
      have judged := retuneJudges entry answered
      cases ok
      obtain ⟨r₁,p,found,_,rfl,rfl⟩ := retuned entry
      cases finds.found.symm.trans found
      obtain ⟨_,stamp,state,_⟩ := reboundSame r₀ rules
      refine ⟨_,⟨(judged.registry _).trans (if_pos named.symm),finds.epoch,finds.stamp.trans stamp.symm⟩,?_,?_⟩
      · exact Table.getDropped
      · exact state.trans pending

theorem abandonRecord {s : Session} (filed : s.Filed) (name m : String) :
    (s.abandon name).registry.find? m =
      if m = name then (s.registry.find? m).map Record.unwait else s.registry.find? m := by
  cases found : s.registry.find? name with
  | none =>
    rw [abandonAbsent found]
    split
    · rename_i same
      rw [same,found]
      rfl
    · rfl
  | some r =>
    have named := (filed.proper found).named
    subst named
    rw [(abandonMarks found rfl).registry]
    split
    · rename_i same
      rw [same,found]
      unfold Record.unwait
      by_cases waits : r.state = .pending <;> simp [waits]
    · rfl

theorem abandonEpoch (s : Session) (name : String) : (s.abandon name).epoch = s.epoch := by
  cases found : s.registry.find? name with
  | none => rw [abandonAbsent found]
  | some r => rw [abandonEq found]

theorem abandonedRecord {s : Session} (ordered : s.Ordered) (names : List String) (m : String) :
    (names.foldl abandon s).epoch = s.epoch ∧
    (names.foldl abandon s).registry.find? m =
      if m ∈ names then (s.registry.find? m).map Record.unwait else s.registry.find? m := by
  induction names generalizing s with
  | nil => exact ⟨rfl,(if_neg List.not_mem_nil).symm⟩
  | cons name rest ih =>
    obtain ⟨epoch,record⟩ := ih (ordered.abandoned name)
    refine ⟨epoch.trans (abandonEpoch s name),record.trans ?_⟩
    rw [abandonRecord ordered.toFiled]
    by_cases first : m = name <;> by_cases later : m ∈ rest <;>
      simp [first,later,Option.map_map,Function.comp_def,Record.unwaitTwice]

theorem afterClearPending {s : Session} {a : Alarm} (ordered : s.Ordered) (awaits : s.Awaits a) :
    ∃ r, s.clearPending.2.Finds a r ∧ s.clearPending.2.timers.get? a.field = none ∧ r.state = .unvalidated := by
  obtain ⟨r₀,finds,pending⟩ := awaited ordered awaits
  obtain ⟨t,_,_,tracked⟩ := awaits
  obtain ⟨epoch,record⟩ := abandonedRecord ordered s.timers.names a.field
  rw [if_pos (Table.namedIff.mpr ⟨_,tracked⟩),finds.found] at record
  have unvalidated : r₀.unwait = { r₀ with state := .unvalidated } := if_pos pending
  rw [Option.map_some,unvalidated] at record
  refine ⟨_,⟨record,finds.epoch.trans epoch.symm,finds.stamp⟩,?_,rfl⟩
  rw [clearPendingTimers]
  rfl

theorem Finds.only {s : Session} {a : Alarm} {r} (finds : s.Finds a r) (p : Record → Prop) :
    (∀ r', s.registry.find? a.field = some r' → p r') ↔ p r := by
  rw [finds.found]
  simp

theorem lateValidated {s s' : Session} {a : Alarm} {v event state} (ordered : s.Ordered) (awaits : s.Awaits a)
    (ok : s.validateGiven (.text a.field) v event = (.ok state,s')) :
    SameField s' (s'.expire a).2 a.field ↔ s'.timers.get? a.field = none ∧
      ∀ r, s'.registry.find? a.field = some r → ∀ o, s'.judge r a.value = .ok o →
        r.state = verdictState o ∧ r.withVerdict o = r := by
  have ordered' : s'.Ordered := by
    have after := ordered.event (e := .validate (.text a.field) v event) nofun
    have post : ((SessionEvent.validate (.text a.field) v event).run s).2 = s' := congrArg Prod.snd ok
    rwa [post] at after
  obtain ⟨r,finds,shows⟩ := afterValidate ordered awaits ok
  rw [expireSame ordered' a,finds.only fun r => ∀ o, s'.judge r a.value = .ok o → _]
  rcases shows with armed | ⟨o,standing⟩
  · exact iff_of_false (fun outdone => armed ((outdoneIff finds).mp outdone).1) fun settled => armed settled.1
  · exact standingOutdone finds standing

theorem lateRebound {s s' : Session} {a : Alarm} {rules r} (ordered : s.Ordered) (awaits : s.Awaits a)
    (ok : s.rebindGiven (.text a.field) rules = (.ok r,s')) :
    SameField s' (s'.expire a).2 a.field ↔
      ∀ r, s'.registry.find? a.field = some r → ∃ f, s'.judge r a.value = .error f := by
  have ordered' : s'.Ordered := by
    have after := ordered.event (e := .rebind (.text a.field) rules) nofun
    have post : ((SessionEvent.rebind (.text a.field) rules).run s).2 = s' := congrArg Prod.snd ok
    rwa [post] at after
  obtain ⟨spelled,ok⟩ : ∃ spelled, s.rebind a.field spelled = (.ok r,s') := by
    unfold rebindGiven at ok
    split at ok
    · cases ok
    · exact ⟨_,ok⟩
  obtain ⟨r,finds,idle,pending⟩ := afterRebind ordered awaits ok
  rw [expireSame ordered' a,finds.only fun r => ∃ f, s'.judge r a.value = .error f]
  exact unshownOutdone finds idle fun o => by rw [pending]; exact (verdictShown o).1.symm

theorem lateCleared {s : Session} {a : Alarm} (ordered : s.Ordered) (awaits : s.Awaits a) :
    SameField s.clearPending.2 (s.clearPending.2.expire a).2 a.field ↔
      ∀ r, s.clearPending.2.registry.find? a.field = some r → ∃ f, s.clearPending.2.judge r a.value = .error f := by
  have ordered' := ordered.moves (clearPendingMoves s)
  obtain ⟨r,finds,idle,unvalidated⟩ := afterClearPending ordered awaits
  rw [expireSame ordered' a,finds.only fun r => ∃ f, s.clearPending.2.judge r a.value = .error f]
  exact unshownOutdone finds idle fun o => by rw [unvalidated]; exact (verdictShown o).2.symm

/-- What a late alarm does in any session that can come about: nothing, if its record is gone, or if no timer was armed
since and it has nothing new to say. Right after a call that put another in its place, this comes down to the value
of the alarm alone. -/
theorem lateAlarm {opening : Session} {past s} (opened : opening.Opened) (run : opening.Run past s) (a : Alarm) :
    (SameField s (s.expire a).2 a.field ↔ s.Outdone a) ∧
    (s.Awaits a → ∀ v event state s', s.validateGiven (.text a.field) v event = (.ok state,s') →
      (SameField s' (s'.expire a).2 a.field ↔ s'.timers.get? a.field = none ∧
        ∀ r, s'.registry.find? a.field = some r → ∀ o, s'.judge r a.value = .ok o →
          r.state = verdictState o ∧ r.withVerdict o = r)) ∧
    (s.Awaits a → ∀ rules r s', s.rebindGiven (.text a.field) rules = (.ok r,s') →
      (SameField s' (s'.expire a).2 a.field ↔
        ∀ r, s'.registry.find? a.field = some r → ∃ f, s'.judge r a.value = .error f)) ∧
    (s.Awaits a → (SameField s.clearPending.2 (s.clearPending.2.expire a).2 a.field ↔
        ∀ r, s.clearPending.2.registry.find? a.field = some r → ∃ f, s.clearPending.2.judge r a.value = .error f)) := by
  have ordered := runOrdered opened run
  exact ⟨expireSame ordered a,fun awaits _ _ _ _ ok => lateValidated ordered awaits ok,
    fun awaits _ _ _ ok => lateRebound ordered awaits ok,lateCleared ordered⟩

def echoes (s : Session) (a : Alarm) : Bool :=
  (s.registry.find? a.field).all fun r => (s.judge r a.value).toOption.all fun o =>
    r.state == verdictState o && r.isValid == o.valid && r.message == if o.valid then "" else o.message

theorem echoed {s : Session} {a : Alarm} (echoes : s.echoes a = true) : ∀ r, s.registry.find? a.field = some r →
    ∀ o, s.judge r a.value = .ok o → r.state = verdictState o ∧ r.withVerdict o = r := by
  intro r found o answered
  simp only [Session.echoes,found,answered,Except.toOption,Option.all_some,Bool.and_eq_true,beq_iff_eq] at echoes
  obtain ⟨⟨state,valid⟩,message⟩ := echoes
  refine ⟨state,?_⟩
  rw [Record.withVerdict,← message,← valid]

def hears (s : Session) (a : Alarm) : Bool :=
  (s.registry.find? a.field).any fun r => (s.judge r a.value).toOption.isSome

theorem heard {s : Session} {a : Alarm} (hears : s.hears a = true) :
    ¬ ∀ r, s.registry.find? a.field = some r → ∃ f, s.judge r a.value = .error f := by
  intro fails
  unfold Session.hears at hears
  cases found : s.registry.find? a.field with
  | none =>
    rw [found] at hears
    contradiction
  | some r =>
    obtain ⟨f,failed⟩ := fails r found
    rw [found,Option.any_some,failed] at hears
    contradiction

theorem answeredAfter {α} {x : Except Failure α × Session} {a : α} (h : x.1.toOption = some a) : x = (.ok a,x.2) :=
  Prod.ext (answered h) rfl

def typedField : Session := (retyped.run (smallField false)).2

def typedAlarm : Alarm := ⟨0,"x",.text "b",0⟩

theorem typedRun : (smallPage false).Run [⟨smallField false,retyped⟩,⟨smallPage false,smallEntry⟩] typedField :=
  .next (smallFieldRun false) retyped nofun

theorem typedAwaits : typedField.Awaits typedAlarm := by
  have waits : ((smallField false).validate "x" (.text "b") .change).1.toOption = some .pending := by decide +kernel
  have stamp : ((smallField false).registry.find? "x").map (·.stamp) = some 0 := by decide +kernel
  have epoch : (smallField false).epoch = 0 := by decide +kernel
  have filed := (runOrdered (smallOpened false) (smallFieldRun false)).toFiled
  unfold typedField
  generalize smallField false = s at *
  obtain ⟨r,found,awaits⟩ := armedAwaits filed (Prod.ext (answered waits) rfl)
  rw [found] at stamp
  have number : r.stamp = 0 := Option.some.inj stamp
  rwa [number,epoch] at awaits

/-- A value that is typed, and that the field is then left with, is judged alike when its timer goes off late. Once timers
were only called off, or the field has got the same rules again, the late verdict is news. -/
theorem lateAlarmEchoes : ∃ opening past s a s' r s'', Opened opening ∧ opening.Run past s ∧ s.Awaits a ∧
    s.validateGiven (.text a.field) a.value (.text "blur") = (.ok .invalid,s') ∧ SameField s' (s'.expire a).2 a.field ∧
    s.rebindGiven (.text a.field) (.text "letter") = (.ok r,s'') ∧ ¬ SameField s'' (s''.expire a).2 a.field ∧
    ¬ SameField s.clearPending.2 (s.clearPending.2.expire a).2 a.field := by
  have left : (typedField.validateGiven (.text typedAlarm.field) typedAlarm.value (.text "blur")).1.toOption =
      some .invalid := by decide +kernel
  have idle : (typedField.validateGiven (.text typedAlarm.field) typedAlarm.value (.text "blur")).2.timers.get?
      typedAlarm.field = none := by decide +kernel
  have echo : (typedField.validateGiven (.text typedAlarm.field) typedAlarm.value (.text "blur")).2.echoes typedAlarm =
      true := by decide +kernel
  have rebound : (typedField.rebindGiven (.text typedAlarm.field) (.text "letter")).1.toOption.isSome = true := by
    decide +kernel
  have reheard : (typedField.rebindGiven (.text typedAlarm.field) (.text "letter")).2.hears typedAlarm = true := by
    decide +kernel
  have cleared : typedField.clearPending.2.hears typedAlarm = true := by decide +kernel
  have awaits := typedAwaits
  obtain ⟨_,validated,replaced,forgotten⟩ := lateAlarm (smallOpened false) typedRun typedAlarm
  -- From here on the page and the alarm are any with these answers.
  have run := typedRun
  generalize typedAlarm = a at *
  generalize typedField = s at *
  obtain ⟨r,bound⟩ := Option.isSome_iff_exists.mp rebound
  have blurred : s.validateGiven (.text a.field) a.value (.text "blur") = (.ok .invalid,_) := answeredAfter left
  have again : s.rebindGiven (.text a.field) (.text "letter") = (.ok r,_) := answeredAfter bound
  exact ⟨_,_,s,a,_,r,_,smallOpened false,run,awaits,blurred,
    (validated awaits _ _ _ _ blurred).mpr ⟨idle,echoed echo⟩,again,
    fun same => heard reheard ((replaced awaits _ _ _ again).mp same),
    fun same => heard cleared ((forgotten awaits).mp same)⟩

theorem otherVerdict {s s' : Session} {name} (right : (s.registry.find? name).map (·.isValid) = some true)
    (wrong : (s'.registry.find? name).map (·.isValid) = some false) : ¬ SameField s s' name := by
  intro same
  rw [same.record,right] at wrong
  contradiction

theorem lateAlarmOverwrites : ∃ opening past s a s', Opened opening ∧ opening.Run past s ∧ s.Awaits a ∧
    s.validateGiven (.text a.field) (.text "a") (.text "blur") = (.ok .valid,s') ∧
    ¬ SameField s' (s'.expire a).2 a.field := by
  have left : (typedField.validateGiven (.text typedAlarm.field) (.text "a") (.text "blur")).1.toOption =
      some .valid := by decide +kernel
  have right : ((typedField.validateGiven (.text typedAlarm.field) (.text "a") (.text "blur")).2.registry.find?
      typedAlarm.field).map (·.isValid) = some true := by decide +kernel
  have wrong : (((typedField.validateGiven (.text typedAlarm.field) (.text "a") (.text "blur")).2.expire
      typedAlarm).2.registry.find? typedAlarm.field).map (·.isValid) = some false := by decide +kernel
  have run := typedRun
  have awaits := typedAwaits
  generalize typedAlarm = a at *
  generalize typedField = s at *
  exact ⟨_,_,s,a,_,smallOpened false,run,awaits,answeredAfter left,otherVerdict right wrong⟩

end Session
end FormGuard
