/-! Timers in virtual time. The queue holds the armed timers by due time, those of the same time in the order in which
they were armed; a cancelled timer stays in the queue until its time comes or until the queue is pruned. -/
namespace FormGuard

structure Timer (α : Type) where
  -- milliseconds on the clock
  due : Int
  -- the number of timers armed before
  stamp : Nat
  payload : α
  isCancelled : Bool
  deriving Repr

structure Scheduler (α : Type) where
  now : Int
  queue : List (Timer α)
  armed : Nat
  deriving Repr

namespace Scheduler

variable {α : Type}

def start : Scheduler α := ⟨0,[],0⟩

def insert (t : Timer α) : List (Timer α) → List (Timer α)
  | [] => [t]
  | u :: rest => if t.due < u.due then t :: u :: rest else u :: insert t rest

def live (s : Scheduler α) : List (Timer α) := s.queue.filter (!·.isCancelled)

def pending (s : Scheduler α) : Nat := s.live.length

def queued (s : Scheduler α) : Nat := s.queue.length

/-- Drops the cancelled timers once they are more than half of the queue. -/
def prune (s : Scheduler α) : Scheduler α :=
  if s.queue.length < 2 * (s.queue.countP (·.isCancelled)) then { s with queue := s.live } else s

def callLater (s : Scheduler α) (delay : Int) (payload : α) : Timer α × Scheduler α :=
  let s := s.prune
  let t : Timer α := ⟨s.now + max delay 0,s.armed,payload,false⟩
  (t,{ s with queue := insert t s.queue, armed := s.armed + 1 })

def cancel (s : Scheduler α) (stamp : Nat) : Scheduler α :=
  { s with queue := s.queue.map fun t => if t.stamp = stamp then { t with isCancelled := true } else t }

def next? (s : Scheduler α) (target : Int) : Option (Timer α × Scheduler α) :=
  match s.queue with
  | [] => none
  | t :: rest => if t.due ≤ target then some (t,{ s with now := t.due, queue := rest }) else none

theorem nextShorter {s s' : Scheduler α} {target : Int} {t : Timer α}
    (h : s.next? target = some (t,s')) : s.queue.length = s'.queue.length + 1 := by
  unfold next? at h
  split at h
  · contradiction
  · rename_i u rest hq
    split at h
    · cases h
      simp [hq]
    · contradiction

end Scheduler
end FormGuard
