import FormGuard.Proofs.FieldStates
import FormGuard.Proofs.RecordHistory

/-! Timers against the values that were given to fields. Where cancelling is obeyed and nothing breaks down, the live timers
are those that the session tracks, one for each of some of its fields, and each is due its field's limit after
the latest value was given to the field, with that value. So a value is judged by a timer only once its field has been left
alone for that long. -/
namespace FormGuard

structure Input where
  time : Int
  value : Value

namespace Moment

def input? (name : String) (m : Moment) : Option Input :=
  match m.event with
  | .validate (.text n) v _ => if n = name then some ⟨m.before.scheduler.now,v⟩ else none
  | _ => none

theorem otherInput {s : Session} {e : SessionEvent} {name : String}
    (other : ∀ v given, e ≠ .validate (.text name) v given) : input? name ⟨s,e⟩ = none := by
  unfold input?
  dsimp only
  split
  · rename_i n v given
    exact if_neg fun same => other v given (by rw [same])
  · rfl

theorem inputTime {m : Moment} {name i} (given : m.input? name = some i) : i.time = m.before.scheduler.now := by
  unfold input? at given
  split at given
  · split at given <;> cases given
    rfl
  · cases given

end Moment

namespace Session

def lastInput (name : String) (past : List Moment) : Option Input := past.findSome? (·.input? name)

def Onward (past : List Moment) : Prop := ∀ m ∈ past, 0 ≤ m.event.lapse

instance (past : List Moment) : Decidable (Onward past) := by unfold Onward; infer_instance

def OnTime (past : List Moment) (r : Record) (t : Timer Alarm) : Prop :=
  ∃ i, lastInput t.payload.field past = some i ∧ t.due = i.time + r.typingLimit.ms ∧ t.payload.value = i.value

def Punctual (past : List Moment) (s : Session) : Prop :=
  ∀ t ∈ s.scheduler.live, ∃ r, s.registry.find? t.payload.field = some r ∧ OnTime past r t

inductive Rewound (s s' : Session) : Prop where
  | kept (same : s'.timers = s.timers)
  | released {name} (dropped : s'.timers = s.timers.drop name)
  | wound {name k} (put : s'.timers = (s.timers.drop name).put name k)

theorem expiredRewound (s : Session) (a : Alarm) : s.Rewound (s.expire a).2 := by
  have outcomes := rung s a
  generalize s.expire a = answer at outcomes
  cases outcomes with
  | stale => exact .kept rfl
  | broken => exact .released rfl
  | heard =>
    rw [presentEq]
    exact .released rfl

theorem moveRewound {s s' : Session} (filed : s.Filed) (move : s.Move s') : s.Rewound s' := by
  cases move with
  | beside same => exact .kept same.timers
  | enrol entry =>
    obtain ⟨_,_,_,_,_,rfl⟩ := enlisted entry
    exact .released rfl
  | excuse =>
    rw [noteEq]
    exact .released rfl
  | «show» =>
    rw [presentEq,noteEq]
    exact .released rfl
  | @postpone name r v event o found =>
    have named : (mark r event).name = name := (markName r event).trans (filed.proper found).named
    exact .wound (postponedTimer s named _ v).2
  | discard name =>
    rw [removeEq]
    exact .released rfl
  | reject e =>
    cases found : s.registry.find? e.field with
    | none =>
      rw [rejectAbsent found]
      exact .kept rfl
    | some r =>
      rw [rejectEq found]
      exact .released rfl
  | abandon name => exact .released (abandonTimers s name)
  | forget => exact .kept rfl
  | lapse => exact .kept rfl
  | @ring _ t scheduler _ _ _ rang =>
    have rewound := expiredRewound { s with scheduler := scheduler } t.payload
    rw [rang] at rewound
    cases rewound with
    | kept same => exact .kept same
    | released dropped => exact .released dropped
    | wound put => exact .wound put
  | @late a _ _ rang =>
    have rewound := expiredRewound s a
    rwa [rang] at rewound

theorem Rewound.nodup {s s' : Session} (rewound : s.Rewound s') (distinct : s.timers.names.Nodup) :
    s'.timers.names.Nodup := by
  cases rewound with
  | kept same => rwa [same]
  | released dropped =>
    rw [dropped]
    exact Table.nodupDrop distinct _
  | wound put =>
    rw [put]
    exact Table.nodupPut (Table.nodupDrop distinct _) _ _

theorem movesNodup {s s' : Session} (ordered : s.Ordered) (moves : s.Moves s') (distinct : s.timers.names.Nodup) :
    s'.timers.names.Nodup := by
  induction moves with
  | refl => exact distinct
  | tail before step ih => exact (moveRewound (ordered.moves before).toFiled step).nodup ih

theorem eventNodup {s : Session} {e : SessionEvent} (ordered : s.Ordered) (possible : e.Possible s)
    (smooth : ¬ e.BreaksDown s) (distinct : s.timers.names.Nodup) : (e.run s).2.timers.names.Nodup := by
  cases eventEffect possible with
  | leads leads =>
    cases leads with
    | moves moves => exact movesNodup ordered moves distinct
    | breakdown broke => exact absurd broke smooth
  | retunes _ _ entry _ post =>
    obtain ⟨_,_,_,_,_,rfl⟩ := retuned entry
    rw [post]
    exact Table.nodupDrop distinct _

theorem runNodup {opening : Session} {past s} (opened : opening.Opened) (run : opening.Run past s)
    (smooth : Smooth past) : s.timers.names.Nodup := by
  induction run with
  | start =>
    rw [opened.timers]
    exact List.nodup_nil
  | next before e possible ih =>
    exact eventNodup (runOrdered opened before) possible smooth.head (ih smooth.tail)

theorem Timed.correspond {s : Session} (timed : s.Timed) (obeys : s.obeysCancel = true)
    (distinct : s.timers.names.Nodup) :
    (s.scheduler.live.map fun t => (t.payload.field,t.stamp)).Perm s.timers := by
  have stamps : (s.scheduler.live.map fun t => (t.payload.field,t.stamp)).Nodup := by
    refine List.Nodup.of_map Prod.snd ?_
    rw [List.map_map]
    exact timed.distinct.sublist (List.filter_sublist.map _)
  have entries : s.timers.Nodup := List.Nodup.of_map Prod.fst distinct
  rw [List.perm_ext_iff_of_nodup stamps entries]
  rintro ⟨name,k⟩
  rw [List.mem_map]
  constructor
  · rintro ⟨t,live,same⟩
    obtain ⟨queued,waiting⟩ := memLive.mp live
    cases same
    exact memOfGet (timed.obeyed obeys t queued waiting)
  · intro member
    obtain ⟨r,t,_,_,waits,stamp⟩ := timed.tracked (getOfMem distinct member)
    exact ⟨t,memLive.mpr ⟨waits.queued,waits.live⟩,by rw [waits.field,stamp]⟩

theorem Timed.waiting {s : Session} (timed : s.Timed) (obeys : s.obeysCancel = true) {t} (live : t ∈ s.scheduler.live) :
    ∃ r, s.registry.find? t.payload.field = some r ∧ s.WaitsFor t.payload.field r t := by
  obtain ⟨queued,waiting⟩ := memLive.mp live
  obtain ⟨r,u,found,_,waits,same⟩ := timed.tracked (timed.obeyed obeys t queued waiting)
  cases timed.unique waits.queued queued same
  exact ⟨r,found,waits⟩

theorem OnTime.next {past : List Moment} {m r t} (on : OnTime past r t) (other : m.input? t.payload.field = none) :
    OnTime (m :: past) r t := by
  obtain ⟨i,last,due,value⟩ := on
  refine ⟨i,?_,due,value⟩
  unfold lastInput
  rw [List.findSome?_cons,other]
  exact last

theorem Follows.punctual {past : List Moment} {s s' : Session} (follows : s.Follows s') (ordered : s.Ordered)
    (ordered' : s'.Ordered) (obeys : s.obeysCancel = true) (obeys' : s'.obeysCancel = true)
    (punctual : Punctual past s) {t} (live : t ∈ s'.scheduler.live) (old : t.stamp < s.scheduler.armed) :
    t ∈ s.scheduler.live ∧ ∃ r, s'.registry.find? t.payload.field = some r ∧ OnTime past r t := by
  obtain ⟨queued,waiting⟩ := memLive.mp live
  have before : t ∈ s.scheduler.live := by
    rcases follows.timer t queued with ⟨young,_⟩ | ⟨u,inside,rfl | rfl⟩
    · omega
    · exact memLive.mpr ⟨inside,waiting⟩
    · contradiction
  refine ⟨before,?_⟩
  obtain ⟨r,found,i,last,due,value⟩ := punctual t before
  obtain ⟨r₀,found₀,waits⟩ := ordered.waiting obeys before
  cases found.symm.trans found₀
  obtain ⟨r',found',waits'⟩ := ordered'.waiting obeys' live
  have becomes := follows.becomes (ordered.proper found).made found found' (waits'.stamp.symm.trans waits.stamp)
  exact ⟨r',found',i,last,by rw [becomes.typingLimit]; exact due,value⟩

theorem Ticks.punctual {past : List Moment} {target s s'} (ticks : Ticks target s s') (ordered : s.Ordered)
    (obeys : s.obeysCancel = true) (punctual : Punctual past s) : Punctual past s' := by
  have ordered' := ordered.moves ticks.moves
  have obeys' : s'.obeysCancel = true := (movesObey ticks.moves).trans obeys
  intro t live
  have known := ordered'.queued t (memLive.mp live).1
  rw [ticks.armed] at known
  exact ((movesFollow ordered ticks.moves).punctual ordered ordered' obeys obeys' punctual live known).2

theorem validatedTimers {s s' : Session} {name v event state} (filed : s.Filed)
    (ok : s.validate name v event = (.ok state,s')) :
    (∀ m, m ≠ name → s'.timers.get? m = s.timers.get? m) ∧
    ∀ k, s'.timers.get? name = some k → k = s.scheduler.armed ∧ state = .pending := by
  have outcomes := noted s name v event
  rw [ok] at outcomes
  have gone {k} (tracked : (s.timers.drop name).get? name = some k) : False := by
    rw [Table.getDropped] at tracked
    contradiction
  cases outcomes with
  | excused =>
    rw [noteEq]
    exact ⟨fun m other => Table.getBesideDropped other,fun k tracked => (gone tracked).elim⟩
  | shown =>
    rw [presentEq,noteEq]
    exact ⟨fun m other => Table.getBesideDropped other,fun k tracked => (gone tracked).elim⟩
  | @postponed r o found =>
    have named : (mark r event).name = name := (markName r event).trans (filed.proper found).named
    rw [(postponedTimer s named o v).2]
    refine ⟨fun m other => ?_,fun k tracked => ⟨?_,rfl⟩⟩
    · exact (Table.getBesidePut other).trans (Table.getBesideDropped other)
    · exact (Option.some.inj (Table.getPut.symm.trans tracked)).symm

inductive Entering (e : SessionEvent) (s s' : Session) : Prop where
  | enters {name v given state} (entering : e = .validate (.text name) v given)
      (ok : s.validate name v (eventOf given) = (.ok state,s'))
  | unarmed (armed : s'.scheduler.armed = s.scheduler.armed)
      (unheard : ∀ name v given, e = .validate (.text name) v given → s.registry.find? name = none)

theorem Course.entering {e s s'} (course : Course e s s') (smooth : ¬ e.BreaksDown s) : Entering e s s' := by
  by_cases entered : ∃ name v given, e = .validate (.text name) v given
  · obtain ⟨name,v,given,rfl⟩ := entered
    cases course with
    | enters entering ok => exact .enters entering ok
    | silent unasked _ _ quiet =>
      refine .unarmed quiet.stands.armed fun m _ _ same => ?_
      cases same
      exact Option.map_eq_none_iff.mp unasked
    | breaks broke => exact absurd broke smooth
    | resets => contradiction
    | enrols => contradiction
    | retunes => contradiction
    | elapses => contradiction
    | late => contradiction
  · refine .unarmed (course.unarmed smooth fun name v given same => entered ⟨name,v,given,same⟩) ?_
    exact fun name v given same => (entered ⟨name,v,given,same⟩).elim

theorem enteredPunctual {past : List Moment} {s s' : Session} {name v given state} (ordered : s.Ordered)
    (ordered' : s'.Ordered) (obeys : s.obeysCancel = true) (obeys' : s'.obeysCancel = true) (follows : s.Follows s')
    (ok : s.validate name v (eventOf given) = (.ok state,s')) (punctual : Punctual past s) :
    Punctual (⟨s,.validate (.text name) v given⟩ :: past) s' := by
  obtain ⟨others,own⟩ := validatedTimers ordered.toFiled ok
  intro t live
  obtain ⟨queued,waiting⟩ := memLive.mp live
  have tracked := ordered'.obeyed obeys' t queued waiting
  by_cases same : t.payload.field = name
  · -- The timer of the field is the one that the value has just armed.
    rw [same] at tracked
    obtain ⟨stamp,rfl⟩ := own _ tracked
    obtain ⟨r,found,inside⟩ := pendingTimer ordered.toFiled ok
    have armed := ordered'.unique queued inside stamp
    obtain ⟨r',found',waits⟩ := ordered'.waiting obeys' live
    have stamps : r'.stamp = r.stamp := by rw [← waits.stamp,armed]
    have becomes := follows.becomes (ordered.proper found).made found (same ▸ found') stamps
    refine ⟨r',found',⟨s.scheduler.now,v⟩,?_,?_,by rw [armed]⟩
    · unfold lastInput Moment.input?
      rw [List.findSome?_cons,same]
      dsimp only
      rw [if_pos rfl]
    · rw [armed,becomes.typingLimit]
  · have before := (others _ same).symm.trans tracked
    obtain ⟨_,u,_,_,waits,stamp⟩ := ordered.tracked before
    have old : t.stamp < s.scheduler.armed := stamp ▸ ordered.queued u waits.queued
    obtain ⟨_,r,found,on⟩ := follows.punctual ordered ordered' obeys obeys' punctual live old
    refine ⟨r,found,on.next (Moment.otherInput ?_)⟩
    rintro _ _ ⟨⟩
    exact same rfl

theorem eventPunctual {past : List Moment} {s : Session} {e : SessionEvent} (ordered : s.Ordered)
    (obeys : s.obeysCancel = true) (possible : e.Possible s) (smooth : ¬ e.BreaksDown s) (punctual : Punctual past s) :
    Punctual (⟨s,e⟩ :: past) (e.run s).2 := by
  have follows := eventFollows ordered possible
  have ordered' := ordered.event possible
  have obeys' := (eventObeys possible).trans obeys
  cases (eventCourse possible).entering smooth with
  | enters entering ok =>
    subst entering
    exact enteredPunctual ordered ordered' obeys obeys' follows ok punctual
  | unarmed armed unheard =>
    intro t live
    have known := ordered'.queued t (memLive.mp live).1
    rw [armed] at known
    obtain ⟨before,r,found,on⟩ := follows.punctual ordered ordered' obeys obeys' punctual live known
    refine ⟨r,found,on.next (Moment.otherInput fun v given entered => ?_)⟩
    obtain ⟨r₀,registered,_⟩ := ordered.waiting obeys before
    rw [unheard _ v given entered] at registered
    contradiction

theorem runPunctual {opening : Session} {past s} (opened : opening.Opened) (obeys : opening.obeysCancel = true)
    (run : opening.Run past s) (smooth : Smooth past) : Punctual past s := by
  induction run with
  | start => simp [Punctual,opened.scheduler,Scheduler.start,Scheduler.live]
  | next before e possible ih =>
    exact eventPunctual (runOrdered opened before) ((runObeys before).trans obeys) possible smooth.head (ih smooth.tail)

theorem runClock {opening : Session} {past s} (run : opening.Run past s) (smooth : Smooth past) (onward : Onward past) :
    ∀ m ∈ past, m.before.scheduler.now ≤ s.scheduler.now := by
  induction run with
  | start => simp
  | next before e possible ih =>
    have clock := (eventCourse possible).clock smooth.head
    have lapse : 0 ≤ e.lapse := onward _ (List.mem_cons_self)
    have earlier := ih smooth.tail fun m member => onward m (List.mem_cons_of_mem _ member)
    intro m member
    rcases List.mem_cons.mp member with rfl | inside
    · dsimp only
      omega
    · have := earlier m inside
      omega

theorem lastInputLatest {opening : Session} {past s name i} (run : opening.Run past s) (smooth : Smooth past)
    (onward : Onward past) (last : lastInput name past = some i) :
    ∀ m ∈ past, m.input? name ≠ none → m.before.scheduler.now ≤ i.time := by
  induction run with
  | start => simp
  | @next past s before e possible ih =>
    have ahead : Onward past := fun m member => onward m (List.mem_cons_of_mem _ member)
    intro m member given
    unfold lastInput at last
    rw [List.findSome?_cons] at last
    cases latest : Moment.input? name ⟨s,e⟩ with
    | none =>
      rw [latest] at last
      rcases List.mem_cons.mp member with rfl | inside
      · contradiction
      · exact ih smooth.tail ahead last m inside given
    | some j =>
      rw [latest] at last
      cases last
      rw [Moment.inputTime latest]
      rcases List.mem_cons.mp member with rfl | inside
      · exact Int.le_refl _
      · exact runClock before smooth.tail ahead m inside

end Session

structure Ringing.Settles (past : List Moment) (g : Ringing) (r : Record) (i : Input) (o : FieldOutcome) : Prop where
  found : g.before.registry.find? g.timer.payload.field = some r
  latest : Session.lastInput g.timer.payload.field past = some i
  clock : g.before.scheduler.now = i.time + r.typingLimit.ms
  calm : ∀ m ∈ past, m.input? g.timer.payload.field ≠ none →
    m.before.scheduler.now + r.typingLimit.ms ≤ g.before.scheduler.now
  verdict : g.before.judge r i.value = .ok o
  record : g.after.registry.find? g.timer.payload.field = some { r.withVerdict o with state := verdictState o }
  shown : g.after.display = g.before.display.settle r o

namespace Session

theorem ringingSettles {opening : Session} {past s g target} (opened : opening.Opened)
    (obeys : opening.obeysCancel = true) (run : opening.Run past s) (smooth : Smooth past) (onward : Onward past)
    (goesOff : GoesOff target s g) (done : (g.before.expire g.timer.payload).1 = .ok ()) :
    ∃ r i o, g.Settles past r i o := by
  obtain ⟨⟨m,scheduler,ticks,drawn,before⟩,live⟩ := goesOff
  have ordered := runOrdered opened run
  have obedient := (runObeys run).trans obeys
  obtain ⟨queue,_⟩ := Scheduler.drawnHead drawn
  have due : g.before.scheduler.now = g.timer.due := by
    rw [before]
    exact Scheduler.drawnClock drawn
  have inside : g.timer ∈ m.scheduler.live := memLive.mpr ⟨by rw [queue]; exact List.mem_cons_self,live⟩
  obtain ⟨r,found,i,latest,time,value⟩ := ticks.punctual ordered obedient (runPunctual opened obeys run smooth) _ inside
  have ordered' := ordered.moves ticks.moves
  obtain ⟨r₀,found₀,waits⟩ := ordered'.waiting ((movesObey ticks.moves).trans obedient) inside
  cases found.symm.trans found₀
  have registered : g.before.registry.find? g.timer.payload.field = some r := by rw [before]; exact found
  have epoch : g.timer.payload.epoch = g.before.epoch := by rw [before]; exact waits.epoch
  have named := (ordered'.proper found).named
  have latestInput := lastInputLatest run smooth onward latest
  have outcomes := rung g.before g.timer.payload
  generalize answer : g.before.expire g.timer.payload = a at outcomes
  have after : g.after = a.2 := congrArg Prod.snd answer
  cases outcomes with
  | stale stale => exact absurd ⟨epoch,waits.stamp⟩ (stale r registered)
  | broken => rw [answer] at done; contradiction
  | @heard r₁ o found₁ _ _ answered =>
    cases registered.symm.trans found₁
    have judged := heardJudges answered
    rw [untrackJudge,value] at answered
    refine ⟨r,i,o,registered,latest,due.trans time,fun k member given => ?_,answered,?_,?_⟩
    · have := latestInput k member given
      omega
    · rw [after]
      exact (judged.registry _).trans (if_pos named.symm)
    · rw [after,presentEq]
      rfl

/-- The live timers are the tracked ones; each is that of the record now registered for its field and due the field's
limit after the latest value; so what a timer shows is the verdict on that value. -/
theorem timersPunctual {opening : Session} {past s} (opened : opening.Opened) (obeys : opening.obeysCancel = true)
    (run : opening.Run past s) (smooth : Smooth past) (onward : Onward past) :
    ((s.scheduler.live.map fun t => (t.payload.field,t.stamp)).Perm s.timers ∧ s.timers.names.Nodup ∧
      s.scheduler.pending = s.timers.length) ∧
    (∀ t ∈ s.scheduler.live, ∃ r, s.registry.find? t.payload.field = some r ∧ t.payload.stamp = r.stamp ∧
      t.payload.epoch = s.epoch ∧ OnTime past r t) ∧
    ∀ ms n s', s.advance ms = (.ok n,s') → (s.ringings (s.scheduler.now + ms)).length = n ∧
      ∀ g ∈ s.ringings (s.scheduler.now + ms), ∃ r i o, g.Settles past r i o := by
  have ordered := runOrdered opened run
  have obedient := (runObeys run).trans obeys
  have distinct := runNodup opened run smooth
  have tracked := ordered.correspond obedient distinct
  refine ⟨⟨tracked,distinct,?_⟩,fun t live => ?_,fun ms n s' ok => ⟨?_,fun g member => ?_⟩⟩
  · have count := tracked.length_eq
    rwa [List.length_map] at count
  · obtain ⟨r,found,on⟩ := runPunctual opened obeys run smooth t live
    obtain ⟨r₀,found₀,waits⟩ := ordered.waiting obedient live
    cases found.symm.trans found₀
    exact ⟨r,found,waits.stamp,waits.epoch,on⟩
  · have count := firedCount ok
    omega
  · exact ringingSettles opened obeys run smooth onward (ringingsGoOff member) (firedRings ok g member)

theorem retypedPunctual : ∃ opening past s, Opened opening ∧ opening.Run past s ∧ Smooth past ∧ Onward past ∧
    s.timers.length = 1 ∧ ∃ g r i o, s.ringings (s.scheduler.now + 1000) = [g] ∧ g.Settles past r i o := by
  have run := smallFieldRun true
  have opened := smallOpened true
  have quiet : retyped.breaks (smallField true) = false := by decide +kernel
  have waits : (retyped.run (smallField true)).2.scheduler.pending = 1 := by decide +kernel
  have rings : ((retyped.run (smallField true)).2.advance 1000).1.toOption = some 1 := by decide +kernel
  generalize smallField true = s at *
  have later : (smallPage true).Run _ (retyped.run s).2 := .next run retyped nofun
  have calm : Smooth [⟨s,retyped⟩,⟨smallPage true,smallEntry⟩] := .next quiet (smallSmooth true)
  have onward : Onward [⟨s,retyped⟩,⟨smallPage true,smallEntry⟩] := by
    simp [Onward,SessionEvent.lapse,retyped,smallEntry]
  obtain ⟨⟨_,_,count⟩,_,shows⟩ := timersPunctual opened rfl later calm onward
  obtain ⟨number,settles⟩ := shows 1000 1 _ (Prod.ext (answered rings) rfl)
  obtain ⟨g,one⟩ := List.length_eq_one_iff.mp number
  obtain ⟨r,i,o,settled⟩ := settles g (by rw [one]; exact List.mem_singleton_self g)
  exact ⟨_,_,_,opened,later,calm,onward,count.symm.trans waits,g,r,i,o,one,settled⟩

end Session
end FormGuard
