import FormGuard.Schedule.Heap

/-! The books of a scheduler that is advanced by hand. Its queue is a heap, and every timer that was ever armed stays on
record under its stamp, so that it can be cancelled at any time. A cancelled timer stays in the queue; how many do is
counted, and once they are more than half of it the next arming drops them first. -/
namespace FormGuard

structure Appointment where
  due : Int
  isCancelled : Bool
  isQueued : Bool
  deriving DecidableEq, Repr

structure Agenda (α : Type) where
  now : Int
  queue : Array (Slot α)
  -- all that were ever armed, each at the place of its stamp
  timers : Array Appointment
  -- the count that is kept of the cancelled timers in the queue
  cancelled : Int
  deriving Repr

namespace Agenda

variable {α : Type}

def start : Agenda α := ⟨0,#[],#[],0⟩

def isCancelled (a : Agenda α) (stamp : Nat) : Bool := (a.timers[stamp]?).any (·.isCancelled)

def pending (a : Agenda α) : Nat := a.queue.countP (!a.isCancelled ·.stamp)

def queued (a : Agenda α) : Nat := a.queue.size

def unqueue (timers : Array Appointment) (stamp : Nat) : Array Appointment :=
  timers.modify stamp fun t => { t with isQueued := false }

def prune (a : Agenda α) : Agenda α :=
  { a with
    timers := (a.queue.filter (a.isCancelled ·.stamp)).foldl (fun timers d => unqueue timers d.stamp) a.timers
    queue := Heap.ofArray (a.queue.filter (!a.isCancelled ·.stamp))
    cancelled := 0 }

def enter (a : Agenda α) (delay : Int) (payload : α) : Agenda α :=
  let due := a.now + max delay 0
  { a with
    queue := Heap.insert a.queue ⟨due,a.timers.size,payload⟩
    timers := a.timers.push ⟨due,false,true⟩ }

def callLater (a : Agenda α) (delay : Int) (payload : α) : Agenda α :=
  (if a.queue.size < 2 * a.cancelled then a.prune else a).enter delay payload

def cancel (a : Agenda α) (stamp : Nat) : Agenda α :=
  match a.timers[stamp]? with
  | none => a
  | some t =>
    { a with
      cancelled := if !t.isCancelled && t.isQueued then a.cancelled + 1 else a.cancelled
      timers := a.timers.modify stamp fun t => { t with isCancelled := true } }

def draw? (a : Agenda α) (target : Int) : Option (Slot α × Agenda α) :=
  match Heap.takeFirst? a.queue with
  | none => none
  | some (d,rest) =>
    if d.due ≤ target then
      some (d,{
        now := d.due
        queue := rest
        timers := unqueue a.timers d.stamp
        cancelled := if a.isCancelled d.stamp then a.cancelled - 1 else a.cancelled })
    else none

theorem cancelQueue (a : Agenda α) (stamp : Nat) : (a.cancel stamp).queue = a.queue := by
  unfold cancel
  split <;> rfl

theorem drawnPerm {a b : Agenda α} {target : Int} {d : Slot α} (drawn : a.draw? target = some (d,b)) :
    a.queue.toList.Perm (d :: b.queue.toList) := by
  unfold draw? at drawn
  split at drawn
  · contradiction
  · rename_i d rest taken
    split at drawn
    · cases drawn
      exact (Heap.takeFirstPerm taken).2
    · contradiction

theorem drawnShorter {a b : Agenda α} {target : Int} {d : Slot α} (drawn : a.draw? target = some (d,b)) :
    b.queue.size < a.queue.size := by
  have same := (drawnPerm drawn).length_eq
  rw [Array.length_toList,List.length_cons,Array.length_toList] at same
  omega

end Agenda
end FormGuard
