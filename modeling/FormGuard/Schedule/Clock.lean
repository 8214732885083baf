import FormGuard.Schedule.Agenda

/-! A clock that is advanced by hand. While it advances, timers go off one after the other, and what a timer sets going may
arm and cancel timers and advance the clock itself before it is done. The clock is told of every such step; between the
steps it goes on by itself, up to the next timer that goes off or to the end of the innermost advance. -/
namespace FormGuard

structure Advance where
  target : Int
  fired : Nat
  deriving DecidableEq, Repr

structure Clock (α : Type) where
  agenda : Agenda α
  -- The innermost first. What the last timer of each has set going is not done yet.
  underway : List Advance
  deriving Repr

inductive ClockEvent (α : Type) where
  | arm (delay : Int) (payload : α)
  | cancel (stamp : Nat)
  | advance (ms : Int)
  | finish
  | fail
  deriving Repr

inductive Notice (α : Type) where
  | quiet
  | armed (stamp : Nat) (due : Int)
  | fired (d : Slot α)
  | returned (count : Nat)
  deriving Repr

namespace Clock

variable {α : Type}

def start : Clock α := ⟨.start,[]⟩

def proceed (v : Advance) (outer : List Advance) (a : Agenda α) : Notice α × Clock α :=
  match _h : a.draw? v.target with
  | none => (.returned v.fired,⟨{ a with now := v.target },outer⟩)
  | some (d,b) => if a.isCancelled d.stamp then proceed v outer b else (.fired d,⟨b,v :: outer⟩)
termination_by a.queue.size
decreasing_by exact Agenda.drawnShorter _h

end Clock

namespace ClockEvent

variable {α : Type}

def run : ClockEvent α → Clock α → Notice α × Clock α
  | arm delay payload,c =>
    (.armed c.agenda.timers.size (c.agenda.now + max delay 0),{ c with agenda := c.agenda.callLater delay payload })
  | cancel stamp,c => (.quiet,{ c with agenda := c.agenda.cancel stamp })
  | advance ms,c => Clock.proceed ⟨c.agenda.now + ms,0⟩ c.underway c.agenda
  | finish,c =>
    match c.underway with
    | [] => (.quiet,c)
    | v :: outer => Clock.proceed { v with fired := v.fired + 1 } outer c.agenda
  | fail,c => (.quiet,{ c with underway := c.underway.tail })

end ClockEvent
end FormGuard
