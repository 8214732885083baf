import FormGuard.Schedule.Script

/-! Runs of a clock that is advanced by hand, told from their end: the last event comes first. Between two events the books
change in four ways only, so a property of the books that these keep holds after every run. -/
namespace FormGuard
namespace Clock
variable {α : Type}

def after : List (ClockEvent α) → Clock α
  | [] => start
  | e :: before => (e.run (after before)).2

def notice : List (ClockEvent α) → Notice α
  | [] => .quiet
  | e :: before => (e.run (after before)).1

def armed : List (ClockEvent α) → List (Slot α)
  | [] => []
  | .arm delay payload :: before =>
    ⟨(after before).agenda.now + max delay 0,(armed before).length,payload⟩ :: armed before
  | _ :: before => armed before

def listed (fired : List (Slot α)) : Notice α → List (Slot α)
  | .fired d => d :: fired
  | _ => fired

def fired : List (ClockEvent α) → List (Slot α)
  | [] => []
  | e :: before => listed (fired before) (notice (e :: before))

theorem firedCases (e : ClockEvent α) (before : List (ClockEvent α)) :
    (∃ d, notice (e :: before) = .fired d ∧ fired (e :: before) = d :: fired before) ∨
      (∀ d, notice (e :: before) ≠ .fired d) ∧ fired (e :: before) = fired before := by
  rw [fired]
  cases notice (e :: before) <;> simp [listed]

inductive Skips (target : Int) : Agenda α → Agenda α → Prop where
  | done (a : Agenda α) : Skips target a a
  | one {a b c : Agenda α} {d : Slot α} (drawn : a.draw? target = some (d,b)) (cancelled : a.isCancelled d.stamp = true)
      (rest : Skips target b c) : Skips target a c

inductive Goes (v : Advance) (outer : List Advance) (a : Agenda α) : Notice α × Clock α → Prop where
  | ends {b : Agenda α} (skips : Skips v.target a b) (idle : b.draw? v.target = none) :
      Goes v outer a (.returned v.fired,⟨{ b with now := v.target },outer⟩)
  | fires {b c : Agenda α} {d : Slot α} (skips : Skips v.target a b) (drawn : b.draw? v.target = some (d,c))
      (live : b.isCancelled d.stamp = false) : Goes v outer a (.fired d,⟨c,v :: outer⟩)

theorem Goes.skip {v : Advance} {outer : List Advance} {a b : Agenda α} {d : Slot α} {p : Notice α × Clock α}
    (drawn : a.draw? v.target = some (d,b)) (cancelled : a.isCancelled d.stamp = true) (goes : Goes v outer b p) :
    Goes v outer a p := by
  cases goes with
  | ends skips idle => exact .ends (.one drawn cancelled skips) idle
  | fires skips next live => exact .fires (.one drawn cancelled skips) next live

theorem proceedGoes (v : Advance) (outer : List Advance) (a : Agenda α) : Goes v outer a (proceed v outer a) := by
  fun_induction proceed v outer a with
  | case1 a idle => exact .ends (.done a) idle
  | case2 a d b drawn cancelled ih => exact ih.skip drawn cancelled
  | case3 a d b drawn live => exact .fires (.done a) drawn (Bool.eq_false_iff.mpr live)

theorem advanceRun {c : Clock α} (rest : c.underway = []) (ms : Int) :
    (ClockEvent.advance ms).run c = proceed ⟨c.agenda.now + ms,0⟩ [] c.agenda := by
  unfold ClockEvent.run
  dsimp only
  rw [rest]

theorem finishRun {c : Clock α} {v : Advance} {outer : List Advance} (underway : c.underway = v :: outer) :
    ClockEvent.finish.run c = proceed { v with fired := v.fired + 1 } outer c.agenda := by
  unfold ClockEvent.run
  dsimp only
  rw [underway]

theorem finishIdle {c : Clock α} (rest : c.underway = []) : ClockEvent.finish.run c = (.quiet,c) := by
  unfold ClockEvent.run
  dsimp only
  rw [rest]

theorem runGoes (e : ClockEvent α) (c : Clock α) :
    (∃ v outer, Goes v outer c.agenda (e.run c)) ∨
      (∀ d, (e.run c).1 ≠ .fired d) ∧ ∀ n, (e.run c).1 ≠ .returned n := by
  cases e with
  | advance ms => exact .inl ⟨_,_,proceedGoes _ _ _⟩
  | finish =>
    cases underway : c.underway with
    | nil =>
      rw [finishIdle underway]
      exact .inr ⟨nofun,nofun⟩
    | cons v outer =>
      rw [finishRun underway]
      exact .inl ⟨_,_,proceedGoes _ _ _⟩
  | _ => exact .inr (by simp [ClockEvent.run])

structure Kept (P : Agenda α → Prop) : Prop where
  call {a : Agenda α} (delay : Int) (payload : α) : P a → P (a.callLater delay payload)
  cancel {a : Agenda α} (stamp : Nat) : P a → P (a.cancel stamp)
  draw {a b : Agenda α} {target : Int} {d : Slot α} : a.draw? target = some (d,b) → P a → P b
  stop {a : Agenda α} {target : Int} : a.draw? target = none → P a → P { a with now := target }

namespace Kept
variable {P : Agenda α → Prop} (kept : Kept P)
include kept

theorem skips {target : Int} {a b : Agenda α} (skips : Skips target a b) (h : P a) : P b := by
  induction skips with
  | done => exact h
  | one drawn _ _ ih => exact ih (kept.draw drawn h)

theorem goes {v : Advance} {outer : List Advance} {a : Agenda α} {p : Notice α × Clock α} (goes : Goes v outer a p)
    (h : P a) : P p.2.agenda := by
  cases goes with
  | ends skips idle => exact kept.stop idle (kept.skips skips h)
  | fires skips drawn _ => exact kept.draw drawn (kept.skips skips h)

theorem step (e : ClockEvent α) {c : Clock α} (h : P c.agenda) : P (e.run c).2.agenda := by
  cases e with
  | arm delay payload => exact kept.call delay payload h
  | cancel stamp => exact kept.cancel stamp h
  | advance ms => exact kept.goes (proceedGoes _ _ _) h
  | finish =>
    cases underway : c.underway with
    | nil =>
      rw [finishIdle underway]
      exact h
    | cons v outer =>
      rw [finishRun underway]
      exact kept.goes (proceedGoes _ _ _) h
  | fail => exact h

theorem run (start : P .start) (es : List (ClockEvent α)) : P (after es).agenda := by
  induction es with
  | nil => exact start
  | cons e before ih => exact kept.step e ih

end Kept
end Clock

namespace Rehearsal
open Clock

theorem tellClock (r : Rehearsal) (e : ClockEvent Act) (left : List (List ScriptStep)) :
    (r.tell e left).2.1.clock = (e.run r.clock).2 := by
  unfold tell
  generalize e.run r.clock = told
  obtain ⟨n,clock⟩ := told
  cases n <;> rfl

theorem failures (legs : List Advance) (es : List (ClockEvent Act)) :
    ∃ more, legs.foldl (fun c _ => (ClockEvent.fail.run c).2) (after es) = after (more ++ es) := by
  induction legs generalizing es with
  | nil => exact ⟨[],rfl⟩
  | cons v outer ih =>
    obtain ⟨more,post⟩ := ih (.fail :: es)
    exact ⟨more ++ [.fail],by rw [List.append_assoc]; exact post⟩

theorem played (r : Rehearsal) (answer : Answer) (left : List (List ScriptStep)) {es : List (ClockEvent Act)}
    (now : r.clock = after es) : ∃ more, (r.play answer left).2.clock = after (more ++ es) := by
  have told {r : Rehearsal} {es} (now : r.clock = after es) (e : ClockEvent Act) (left : List (List ScriptStep)) :
      (r.tell e left).2.1.clock = after (e :: es) := by
    rw [tellClock,now]
    rfl
  fun_induction play r answer left generalizing es with
  | case1 => exact ⟨[],now⟩
  | case2 => exact ⟨[],now⟩
  | case3 r answer steps more _ ih =>
    obtain ⟨rest,post⟩ := ih (told now _ _)
    exact ⟨rest ++ [.finish],by rw [List.append_assoc]; exact post⟩
  | case4 r answer s rest more f _ =>
    unfold breakOff
    rw [now]
    exact failures _ es
  | case5 r answer s rest more e _ _ ih =>
    obtain ⟨later,post⟩ := ih (told now _ _)
    exact ⟨later ++ [e],by rw [List.append_assoc]; exact post⟩

end Rehearsal
end FormGuard
