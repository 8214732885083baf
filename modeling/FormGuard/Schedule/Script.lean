import FormGuard.Fault
import FormGuard.Schedule.Clock
import FormGuard.Schedule.Scheduler
import FormGuard.Table

/-! Scripts for a clock that is advanced by hand. A timer that goes off logs its name and the time, and then runs the steps
it was armed with; a step that fails breaks off whatever led to it, and the clock stays where it is. -/
namespace FormGuard

inductive ScriptStep where
  | call (delay : Int) (name : String) (steps : List ScriptStep)
  | cancel (name : String)
  | advance (ms : Int)
  deriving Repr

namespace ScriptStep

mutual

def weight : ScriptStep → Nat
  | call _ _ steps => 3 + weights steps
  | cancel _ => 1
  | advance _ => 1

def weights : List ScriptStep → Nat
  | [] => 0
  | s :: rest => weight s + weights rest

end

end ScriptStep

abbrev Act := String × List ScriptStep

structure Rehearsal where
  clock : Clock Act
  -- the latest timer of each name
  latest : Table Nat
  fired : List (String × Int)

namespace Rehearsal

def start : Rehearsal := ⟨.start,[],[]⟩

def scheduler (r : Rehearsal) : Agenda Act := r.clock.agenda

inductive Answer where
  | none
  | due (time : Int)
  | count (fired : Nat)
  deriving DecidableEq, Repr

def eventOf (r : Rehearsal) : ScriptStep → Except Fault (ClockEvent Act)
  | .call delay name steps => .ok (.arm delay (name,steps))
  | .cancel name =>
    match r.latest.get? name with
    | none => .error .absentEntry
    | some stamp => .ok (.cancel stamp)
  | .advance ms => .ok (.advance ms)

def named (latest : Table Nat) (stamp : Nat) : ClockEvent Act → Table Nat
  | .arm _ act => latest.put act.1 stamp
  | _ => latest

def tell (r : Rehearsal) (e : ClockEvent Act) (left : List (List ScriptStep)) :
    Answer × Rehearsal × List (List ScriptStep) :=
  match e.run r.clock with
  | (.quiet,clock) => (.none,{ r with clock },left)
  | (.armed stamp due,clock) => (.due due,{ r with clock, latest := named r.latest stamp e },left)
  | (.fired d,clock) =>
    (.none,{ r with clock, fired := r.fired ++ [(d.payload.1,clock.agenda.now)] },d.payload.2 :: left)
  | (.returned count,clock) => (.count count,{ r with clock },left)

def breakOff (r : Rehearsal) : Rehearsal :=
  { r with clock := r.clock.underway.foldl (fun c _ => (ClockEvent.fail.run c).2) r.clock }

/-! Every timer goes off once and then runs its steps once, so there is less to do with every event. -/

def inQueue : List (Slot Act) → Nat
  | [] => 0
  | d :: queue => 2 + ScriptStep.weights d.payload.2 + inQueue queue

def inHand : List (List ScriptStep) → Nat
  | [] => 0
  | steps :: left => 1 + ScriptStep.weights steps + inHand left

def brought : ClockEvent Act → Nat
  | .arm _ act => 2 + ScriptStep.weights act.2
  | _ => 0

def taken : Notice Act → Nat
  | .fired d => 2 + ScriptStep.weights d.payload.2
  | _ => 0

theorem queuePerm {queue queue' : List (Slot Act)} (perm : queue.Perm queue') : inQueue queue = inQueue queue' := by
  induction perm with
  | nil => rfl
  | cons d _ ih => rw [inQueue,inQueue,ih]
  | swap d e queue =>
    simp only [inQueue]
    omega
  | trans _ _ first second => exact first.trans second

theorem queueFiltered (queue : List (Slot Act)) (p : Slot Act → Bool) : inQueue (queue.filter p) ≤ inQueue queue := by
  induction queue with
  | nil => exact Nat.le_refl _
  | cons d rest ih =>
    rw [List.filter_cons,inQueue]
    split
    · rw [inQueue]
      omega
    · omega

theorem callQueue (a : Agenda Act) (delay : Int) (act : Act) :
    inQueue (a.callLater delay act).queue.toList ≤ 2 + ScriptStep.weights act.2 + inQueue a.queue.toList := by
  have entered (a : Agenda Act) : inQueue (a.enter delay act).queue.toList =
      2 + ScriptStep.weights act.2 + inQueue a.queue.toList := by
    unfold Agenda.enter
    rw [queuePerm (Heap.insertPerm _ _),inQueue]
  have pruned : inQueue a.prune.queue.toList ≤ inQueue a.queue.toList := by
    unfold Agenda.prune
    rw [queuePerm (Heap.ofArrayPerm _),Array.toList_filter]
    exact queueFiltered _ _
  unfold Agenda.callLater
  rw [entered]
  split <;> omega

theorem proceedQueue (v : Advance) (outer : List Advance) (a : Agenda Act) :
    inQueue (Clock.proceed v outer a).2.agenda.queue.toList + taken (Clock.proceed v outer a).1 ≤ inQueue a.queue.toList := by
  fun_induction Clock.proceed v outer a with
  | case1 a none => exact Nat.le_refl _
  | case2 a d b drawn cancelled ih =>
    rw [queuePerm (Agenda.drawnPerm drawn),inQueue]
    omega
  | case3 a d b drawn live =>
    rw [queuePerm (Agenda.drawnPerm drawn),inQueue]
    simp only [taken]
    omega

theorem runQueue (e : ClockEvent Act) (c : Clock Act) :
    inQueue (e.run c).2.agenda.queue.toList + taken (e.run c).1 ≤ inQueue c.agenda.queue.toList + brought e := by
  cases e with
  | arm delay act =>
    have armed := callQueue c.agenda delay act
    simp only [ClockEvent.run,taken,brought]
    omega
  | cancel stamp =>
    simp only [ClockEvent.run,taken,brought,Agenda.cancelQueue]
    exact Nat.le_refl _
  | advance ms => exact proceedQueue _ _ _
  | finish =>
    unfold ClockEvent.run
    dsimp only
    split
    · exact Nat.le_refl _
    · exact proceedQueue _ _ _
  | fail => exact Nat.le_refl _

theorem tellLess (r : Rehearsal) (e : ClockEvent Act) (left : List (List ScriptStep)) :
    inQueue (r.tell e left).2.1.scheduler.queue.toList + inHand (r.tell e left).2.2 ≤
      inQueue r.scheduler.queue.toList + brought e + inHand left := by
  have less := runQueue e r.clock
  unfold tell
  generalize e.run r.clock = told at less ⊢
  obtain ⟨n,clock⟩ := told
  cases n with
  | fired d =>
    simp only [taken,inHand,scheduler] at less ⊢
    omega
  | _ =>
    simp only [taken,scheduler] at less ⊢
    omega

theorem eventLess {r : Rehearsal} {s : ScriptStep} {e : ClockEvent Act} (meant : r.eventOf s = .ok e) :
    brought e < s.weight := by
  cases s with
  | call delay name steps =>
    cases meant
    simp only [brought,ScriptStep.weight]
    omega
  | cancel name =>
    unfold eventOf at meant
    dsimp only at meant
    split at meant
    · contradiction
    · cases meant
      simp only [brought,ScriptStep.weight]
      omega
  | advance ms =>
    cases meant
    simp only [brought,ScriptStep.weight]
    omega

/-- Runs the steps that are left, those of the timer that went off last before all others. The last list is that of the
caller; with every other one a timer is done. -/
def play (r : Rehearsal) (answer : Answer) (left : List (List ScriptStep)) : Except Fault Answer × Rehearsal :=
  match left with
  | [] => (.ok answer,r)
  | [[]] => (.ok answer,r)
  | [] :: steps :: more =>
    have := r.tellLess .finish (steps :: more)
    play (r.tell .finish (steps :: more)).2.1 (r.tell .finish (steps :: more)).1 (r.tell .finish (steps :: more)).2.2
  | (s :: rest) :: more =>
    match _h : r.eventOf s with
    | .error f => (.error f,r.breakOff)
    | .ok e =>
      have := r.tellLess e (rest :: more)
      play (r.tell e (rest :: more)).2.1 (r.tell e (rest :: more)).1 (r.tell e (rest :: more)).2.2
termination_by inQueue r.scheduler.queue.toList + inHand left
decreasing_by
  · simp only [brought,inHand,ScriptStep.weights] at this ⊢
    omega
  · have := eventLess _h
    simp only [inHand,ScriptStep.weights] at *
    omega

def run (r : Rehearsal) (s : ScriptStep) : Except Fault Answer × Rehearsal := r.play .none [[s]]

end Rehearsal

def survivors (timers : List (Int × Bool)) : List Nat :=
  (timers.zipIdx.filter fun ((delay,isCancelled),i) =>
    let (t,s) := Scheduler.callLater .start delay i
    let s := if isCancelled then s.cancel t.stamp else s
    match s.next? t.due with
    | some (t,_) => !t.isCancelled
    | none => false).map (·.2)

end FormGuard
