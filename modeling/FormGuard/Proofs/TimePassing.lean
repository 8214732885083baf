import FormGuard.Proofs.TrackedTimers

/-! The clock of a session. Only time moves it, and only a value given to a field arms a timer. A lapse of time goes through
the timers that are due one after the other; each that goes off does so with the clock at its own time. -/
namespace FormGuard

structure Ringing where
  before : Session
  timer : Timer Alarm

namespace Ringing

def after (g : Ringing) : Session := (g.before.expire g.timer.payload).2

end Ringing

namespace Session

def ringings (target : Int) (s : Session) : List Ringing :=
  match _h : s.scheduler.next? target with
  | none => []
  | some (t,scheduler) =>
    let due := { s with scheduler := scheduler }
    if t.isCancelled then ringings target due
    else if SessionEvent.fails (due.expire t.payload).1 then [⟨due,t⟩]
    else ⟨due,t⟩ :: ringings target (due.expire t.payload).2
termination_by s.scheduler.queue.length
decreasing_by
  · have := Scheduler.nextShorter _h
    omega
  · have := Scheduler.nextShorter _h
    rw [expireScheduler]
    dsimp only
    omega

inductive Tick (target : Int) (s : Session) : Session → Prop where
  | lapse {t scheduler} (drawn : s.scheduler.next? target = some (t,scheduler)) (dead : t.isCancelled = true) :
      Tick target s { s with scheduler := scheduler }
  | ring {t scheduler s'} (drawn : s.scheduler.next? target = some (t,scheduler)) (live : t.isCancelled = false)
      (rang : { s with scheduler := scheduler }.expire t.payload = (.ok (),s')) : Tick target s s'

def Ticks (target : Int) : Session → Session → Prop := Relation.ReflTransGen (Tick target)

theorem Tick.move {target s s'} (tick : Tick target s s') : s.Move s' := by
  cases tick with
  | lapse drawn dead => exact .lapse drawn dead
  | ring drawn live rang => exact .ring drawn live rang

theorem Ticks.moves {target s s'} (ticks : Ticks target s s') : s.Moves s' := by
  induction ticks with
  | refl => exact .refl
  | tail _ tick ih => exact ih.tail tick.move

structure GoesOff (target : Int) (s : Session) (g : Ringing) : Prop where
  way : ∃ m scheduler, Ticks target s m ∧ m.scheduler.next? target = some (g.timer,scheduler) ∧
    g.before = { m with scheduler := scheduler }
  live : g.timer.isCancelled = false

theorem GoesOff.later {target s m g} (tick : Tick target s m) (goesOff : GoesOff target m g) : GoesOff target s g := by
  obtain ⟨⟨k,scheduler,ticks,drawn,before⟩,live⟩ := goesOff
  exact ⟨⟨k,scheduler,.head tick ticks,drawn,before⟩,live⟩

theorem ringingsGoOff {target : Int} {s : Session} {g} (member : g ∈ s.ringings target) : GoesOff target s g := by
  fun_induction ringings target s with
  | case1 s none => contradiction
  | case2 s t scheduler drawn due dead ih => exact (ih member).later (.lapse drawn dead)
  | case3 s t scheduler drawn due live broke =>
    cases List.mem_singleton.mp member
    exact ⟨⟨s,scheduler,.refl,drawn,rfl⟩,by simpa using live⟩
  | case4 s t scheduler drawn due live done ih =>
    have silent : t.isCancelled = false := by simpa using live
    rcases List.mem_cons.mp member with rfl | inside
    · exact ⟨⟨s,scheduler,.refl,drawn,rfl⟩,silent⟩
    · have rang : due.expire t.payload = (.ok (),(due.expire t.payload).2) := by
        refine Prod.ext ?_ rfl
        cases answer : (due.expire t.payload).1 with
        | ok => rfl
        | error f => simp [answer,SessionEvent.fails] at done
      exact (ih inside).later (.ring drawn silent rang)

theorem firedTicks {target : Int} {count n : Nat} {s s' : Session} (ok : fireUntil target count s = (.ok n,s')) :
    ∃ m, Ticks target s m ∧ m.scheduler.next? target = none ∧
      s' = { m with scheduler := { m.scheduler with now := target } } := by
  fun_induction fireUntil target count s with
  | case1 count s none =>
    cases ok
    exact ⟨s,.refl,none,rfl⟩
  | case2 count s t scheduler drawn due dead ih =>
    obtain ⟨m,ticks,none,post⟩ := ih ok
    exact ⟨m,.head (.lapse drawn dead) ticks,none,post⟩
  | case3 count s t scheduler drawn due live f broke => cases ok
  | case4 count s t scheduler drawn due live done ih =>
    obtain ⟨m,ticks,none,post⟩ := ih ok
    have rang : due.expire t.payload = (.ok (),(due.expire t.payload).2) := Prod.ext done rfl
    exact ⟨m,.head (.ring drawn (by simpa using live) rang) ticks,none,post⟩

theorem advancedTicks {ms : Int} {n : Nat} {s s' : Session} (ok : s.advance ms = (.ok n,s')) :
    ∃ m, Ticks (s.scheduler.now + ms) s m ∧ m.scheduler.next? (s.scheduler.now + ms) = none ∧
      s' = { m with scheduler := { m.scheduler with now := s.scheduler.now + ms } } :=
  firedTicks ok

theorem ringingsIdle {target : Int} {s : Session} (idle : s.scheduler.next? target = none) : s.ringings target = [] := by
  rw [ringings]
  split
  · rfl
  · rename_i drawn
    cases idle.symm.trans drawn

theorem ringingsLapse {target : Int} {s : Session} {t scheduler} (drawn : s.scheduler.next? target = some (t,scheduler))
    (dead : t.isCancelled = true) : s.ringings target = { s with scheduler := scheduler }.ringings target := by
  conv => lhs; rw [ringings]
  split
  · rename_i none
    cases none.symm.trans drawn
  · rename_i drawn'
    cases drawn.symm.trans drawn'
    exact if_pos dead

theorem ringingsRing {target : Int} {s : Session} {t scheduler} (drawn : s.scheduler.next? target = some (t,scheduler))
    (live : t.isCancelled = false) (done : ({ s with scheduler := scheduler }.expire t.payload).1 = .ok ()) :
    s.ringings target = ⟨{ s with scheduler := scheduler },t⟩ ::
      ({ s with scheduler := scheduler }.expire t.payload).2.ringings target := by
  conv => lhs; rw [ringings]
  split
  · rename_i none
    cases none.symm.trans drawn
  · rename_i drawn'
    cases drawn.symm.trans drawn'
    simp [live,done,SessionEvent.fails]

theorem firedCount {target : Int} {count n : Nat} {s s' : Session} (ok : fireUntil target count s = (.ok n,s')) :
    n = count + (s.ringings target).length := by
  fun_induction fireUntil target count s with
  | case1 count s idle =>
    cases ok
    rw [ringingsIdle idle]
    rfl
  | case2 count s t scheduler drawn due dead ih =>
    rw [ringingsLapse drawn dead]
    exact ih ok
  | case3 count s t scheduler drawn due live f broke => cases ok
  | case4 count s t scheduler drawn due live done ih =>
    rw [ringingsRing drawn (by simpa using live) done,List.length_cons]
    exact (ih ok).trans (Nat.add_right_comm count 1 _)

theorem firedRings {target : Int} {count n : Nat} {s s' : Session} (ok : fireUntil target count s = (.ok n,s')) :
    ∀ g ∈ s.ringings target, (g.before.expire g.timer.payload).1 = .ok () := by
  fun_induction fireUntil target count s with
  | case1 count s idle => simp [ringingsIdle idle]
  | case2 count s t scheduler drawn due dead ih =>
    rw [ringingsLapse drawn dead]
    exact ih ok
  | case3 count s t scheduler drawn due live f broke => cases ok
  | case4 count s t scheduler drawn due live done ih =>
    rw [ringingsRing drawn (by simpa using live) done]
    intro g member
    rcases List.mem_cons.mp member with rfl | inside
    · exact done
    · exact ih ok g inside

structure Stands (s s' : Session) : Prop where
  now : s'.scheduler.now = s.scheduler.now
  armed : s'.scheduler.armed = s.scheduler.armed

theorem Stands.same {s s' : Session} (scheduler : s'.scheduler = s.scheduler) : s.Stands s' := by
  constructor <;> rw [scheduler]

theorem Stands.trans {s m s' : Session} (first : s.Stands m) (second : m.Stands s') : s.Stands s' :=
  ⟨second.now.trans first.now,second.armed.trans first.armed⟩

theorem silencedStands (s : Session) (name : String) : s.Stands { s with scheduler := s.silenced name } :=
  ⟨silencedNow s name,silencedArmed s name⟩

theorem Stands.silence {s s' : Session} {name : String} (scheduler : s'.scheduler = s.silenced name) :
    s.Stands s' := (silencedStands s name).trans (.same scheduler)

theorem QuietStep.stands {s s' : Session} (step : s.QuietStep s') : s.Stands s' := by
  cases step with
  | aside same => exact .same same.scheduler
  | discard name =>
    rw [removeEq]
    exact .silence rfl
  | reject e =>
    cases found : s.registry.find? e.field with
    | none =>
      rw [rejectAbsent found]
      exact .same rfl
    | some r =>
      rw [rejectEq found]
      exact .silence rfl
  | abandon name =>
    cases found : s.registry.find? name with
    | none =>
      rw [abandonAbsent found]
      exact .silence rfl
    | some r =>
      rw [abandonEq found]
      exact .silence rfl

theorem Quiet.stands {s s' : Session} (quiet : s.Quiet s') : s.Stands s' := by
  induction quiet with
  | refl => exact .same rfl
  | tail _ step ih => exact ih.trans step.stands

theorem Clears.stands {s s' : Session} (clears : s.Clears s') : s.Stands s' := by
  have reset (m : Session) : m.Stands m.reset := (clearPendingQuiet m).stands.trans (.same rfl)
  induction clears with
  | once => exact reset s
  | again _ ih => exact ih.trans (reset _)

theorem Tick.armed {target s s'} (tick : Tick target s s') : s'.scheduler.armed = s.scheduler.armed := by
  cases tick with
  | lapse drawn => exact (Scheduler.drawnHead drawn).2
  | @ring t scheduler _ drawn _ rang =>
    have kept := expireScheduler { s with scheduler := scheduler } t.payload
    rw [rang] at kept
    exact (congrArg Scheduler.armed kept).trans (Scheduler.drawnHead drawn).2

theorem Ticks.armed {target s s'} (ticks : Ticks target s s') : s'.scheduler.armed = s.scheduler.armed := by
  induction ticks with
  | refl => rfl
  | tail _ tick ih => exact tick.armed.trans ih

end Session

def SessionEvent.lapse : SessionEvent → Int
  | advance ms => ms
  | _ => 0

namespace Session

theorem validatedClock {s s' : Session} {name v event state} (ok : s.validate name v event = (.ok state,s')) :
    s'.scheduler.now = s.scheduler.now := by
  have outcomes := noted s name v event
  rw [ok] at outcomes
  have silent := (silencedStands s name).now
  cases outcomes with
  | excused =>
    rw [noteEq]
    exact silent
  | shown =>
    rw [presentEq,noteEq]
    exact silent
  | postponed =>
    rw [noteEq]
    exact (Scheduler.pruneNow _).trans silent

theorem Course.clock {e s s'} (course : Course e s s') (smooth : ¬ e.BreaksDown s) :
    s'.scheduler.now = s.scheduler.now + e.lapse := by
  have still (timeless : ∀ ms, e ≠ .advance ms) (now : s'.scheduler.now = s.scheduler.now) :
      s'.scheduler.now = s.scheduler.now + e.lapse := by
    rw [now]
    cases e <;> first | exact absurd rfl (timeless _) | exact (Int.add_zero _).symm
  cases course with
  | silent _ timeless _ quiet => exact still timeless quiet.stands.now
  | resets resets clears => exact still (by rintro ms rfl; contradiction) clears.stands.now
  | enrols adding _ entry =>
    obtain ⟨_,_,_,_,_,rfl⟩ := enlisted entry
    exact still (by simp [adding]) (Stands.silence rfl).now
  | retunes rebinding _ entry =>
    obtain ⟨_,_,_,_,_,rfl⟩ := retuned entry
    exact still (by simp [rebinding]) (Stands.silence rfl).now
  | enters entering ok => exact still (by simp [entering]) (validatedClock ok)
  | elapses passing ok =>
    obtain ⟨_,_,_,rfl⟩ := advancedTicks ok
    subst passing
    rfl
  | @late a _ sounding _ ok =>
    have kept := expireScheduler s a
    rw [ok] at kept
    exact still (by simp [sounding]) (congrArg Scheduler.now kept)
  | breaks broke => exact absurd broke smooth

theorem Course.unarmed {e s s'} (course : Course e s s') (smooth : ¬ e.BreaksDown s)
    (unentered : ∀ name v given, e ≠ .validate (.text name) v given) :
    s'.scheduler.armed = s.scheduler.armed := by
  cases course with
  | silent _ _ _ quiet => exact quiet.stands.armed
  | resets _ clears => exact clears.stands.armed
  | enrols _ _ entry =>
    obtain ⟨_,_,_,_,_,rfl⟩ := enlisted entry
    exact silencedArmed s _
  | retunes _ _ entry =>
    obtain ⟨_,_,_,_,_,rfl⟩ := retuned entry
    exact silencedArmed s _
  | enters entering => exact absurd entering (unentered _ _ _)
  | elapses _ ok =>
    obtain ⟨_,ticks,_,rfl⟩ := advancedTicks ok
    exact ticks.armed
  | @late a _ _ _ ok =>
    have kept := expireScheduler s a
    rw [ok] at kept
    exact congrArg Scheduler.armed kept
  | breaks broke => exact absurd broke smooth

end Session
end FormGuard
