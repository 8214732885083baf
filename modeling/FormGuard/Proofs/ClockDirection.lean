import FormGuard.Proofs.TimerBooks
import Mathlib.Data.List.Pairwise

/-! Which way the clock goes. No timer in the queue is due before the clock's time, so a timer that goes off never sets the
clock back. What does is the end of an advance whose target is behind it, as a timer of it has advanced the clock further
itself. -/
namespace FormGuard
namespace Agenda
variable {α : Type} {a b : Agenda α} {target : Int} {d : Slot α}

theorem drawnEarliest (sound : a.Sound) (drawn : a.draw? target = some (d,b)) {e : Slot α}
    (member : e ∈ b.queue.toList) : d.Before e := by
  have behind := Heap.takenFirst sound.heap (drawnBooks drawn).1 member
  have stamps := (drawnPerm drawn).map (·.stamp)
  have fresh := (List.nodup_cons.mp (stamps.nodup_iff.mp sound.once)).1
  have other : d.stamp ≠ e.stamp := fun same => fresh (List.mem_map.mpr ⟨e,member,same.symm⟩)
  unfold Slot.Before at *
  omega

theorem idleLater (sound : a.Sound) (idle : a.draw? target = none) {e : Slot α} (member : e ∈ a.queue.toList) :
    target < e.due := by
  unfold draw? at idle
  split at idle
  · rename_i empty
    rw [Heap.takeFirstNone.mp empty] at member
    contradiction
  · rename_i first rest taken
    split at idle
    · contradiction
    · rename_i late
      rcases List.mem_cons.mp ((Heap.takeFirstPerm taken).2.mem_iff.mp member) with rfl | held
      · omega
      · have behind := Heap.takenFirst sound.heap taken held
        unfold Slot.Before at behind
        omega

theorem callNow (a : Agenda α) (delay : Int) (payload : α) : (a.callLater delay payload).now = a.now := by
  unfold callLater
  split <;> rfl

theorem cancelNow (a : Agenda α) (stamp : Nat) : (a.cancel stamp).now = a.now := by
  unfold cancel
  split <;> rfl

structure Timely (a : Agenda α) : Prop where
  sound : a.Sound
  ahead : ∀ d ∈ a.queue.toList, a.now ≤ d.due

namespace Timely

theorem start : (start : Agenda α).Timely := ⟨startSound,fun _ member => absurd member List.not_mem_nil⟩

theorem prune (h : a.Timely) : a.prune.Timely :=
  ⟨h.sound.prune,fun d member => h.ahead d (List.mem_filter.mp (a.pruneQueue.mem_iff.mp member)).1⟩

theorem enter (h : a.Timely) (delay : Int) (payload : α) : (a.enter delay payload).Timely := by
  refine ⟨h.sound.enter delay payload,?_⟩
  intro d member
  have same : (a.enter delay payload).now = a.now := rfl
  rcases List.mem_cons.mp ((a.enterQueue delay payload).mem_iff.mp member) with rfl | held
  · dsimp only
    omega
  · exact h.ahead d held

theorem draw (drawn : a.draw? target = some (d,b)) (h : a.Timely) : b.Timely := by
  refine ⟨h.sound.draw drawn,?_⟩
  intro e member
  have first := drawnEarliest h.sound drawn member
  rw [(drawnBooks drawn).2.2.1]
  unfold Slot.Before at first
  omega

theorem kept : Clock.Kept (Timely (α := α)) where
  call delay payload h := (tidied h h.prune).enter delay payload
  cancel {a} stamp h := by
    refine ⟨h.sound.cancel stamp,?_⟩
    rw [cancelQueue,cancelNow]
    exact h.ahead
  draw := draw
  stop idle h := ⟨h.sound.stop _,fun _ member => Int.le_of_lt (idleLater h.sound idle member)⟩

theorem drawnDue (drawn : a.draw? target = some (d,b)) (h : a.Timely) : a.now ≤ d.due :=
  h.ahead d ((drawnPerm drawn).mem_iff.mpr List.mem_cons_self)

end Timely
end Agenda

namespace Clock
variable {α : Type}

theorem timelyAfter (es : List (ClockEvent α)) : (after es).agenda.Timely := Agenda.Timely.kept.run .start es

theorem Skips.forward {target : Int} {a b : Agenda α} (skips : Skips target a b) (timely : a.Timely) : a.now ≤ b.now := by
  induction skips with
  | done => exact Int.le_refl _
  | one drawn _ _ ih =>
    have now := (Agenda.drawnBooks drawn).2.2.1
    have later := timely.drawnDue drawn
    have forward := ih (timely.draw drawn)
    omega

theorem Goes.clock {v : Advance} {outer : List Advance} {a : Agenda α} {p : Notice α × Clock α}
    (goes : Goes v outer a p) (timely : a.Timely) :
    (p.1 = .returned v.fired ∧ p.2.agenda.now = v.target ∧ p.2.underway = outer) ∨
      ∃ d, p.1 = .fired d ∧ p.2.agenda.now = d.due ∧ a.now ≤ d.due ∧ d.due ≤ v.target ∧ p.2.underway = v :: outer := by
  cases goes with
  | ends skips idle => exact .inl ⟨rfl,rfl,rfl⟩
  | fires skips drawn live =>
    obtain ⟨_,due,now,_⟩ := Agenda.drawnBooks drawn
    have later := (Agenda.Timely.kept.skips skips timely).drawnDue drawn
    have forward := skips.forward timely
    exact .inr ⟨_,rfl,now,by omega,due,rfl⟩

theorem Goes.back {v : Advance} {outer : List Advance} {a : Agenda α} {p : Notice α × Clock α} (goes : Goes v outer a p)
    (timely : a.Timely) : p.2.agenda.now < a.now ↔ v.target < a.now := by
  rcases goes.clock timely with ⟨_,now,_⟩ | ⟨d,_,now,later,due,_⟩ <;> omega

theorem stepBack (e : ClockEvent α) {c : Clock α} (timely : c.agenda.Timely) (amount : ∀ ms, e = .advance ms → 0 ≤ ms) :
    (e.run c).2.agenda.now < c.agenda.now ↔
      e = .finish ∧ ∃ v outer, c.underway = v :: outer ∧ v.target < c.agenda.now := by
  cases e with
  | arm delay payload => simp [ClockEvent.run,Agenda.callNow]
  | cancel stamp => simp [ClockEvent.run,Agenda.cancelNow]
  | advance ms =>
    have forward := amount ms rfl
    have back := (proceedGoes ⟨c.agenda.now + ms,0⟩ c.underway c.agenda).back timely
    simp only [ClockEvent.run,back,reduceCtorEq,false_and,iff_false]
    omega
  | finish =>
    cases underway : c.underway with
    | nil => simp [finishIdle underway]
    | cons v outer =>
      rw [finishRun underway,(proceedGoes _ outer c.agenda).back timely]
      simp
  | fail => simp [ClockEvent.run]

/-- The clock is behind the target of every advance under way, the inner ones behind those of the outer ones. -/
def Within (c : Clock α) : Prop := (c.agenda.now :: c.underway.map (·.target)).Pairwise (· ≤ ·)

def Forward (es : List (ClockEvent α)) : Prop :=
  ∀ earlier later, earlier <:+ later → later <:+ es → (after earlier).agenda.now ≤ (after later).agenda.now

def Nested (es : List (ClockEvent α)) : Prop :=
  ∀ ms before v outer, (.advance ms :: before) <:+ es → (after before).underway = v :: outer →
    (after before).agenda.now + ms ≤ v.target

theorem forwardStep (e : ClockEvent α) (before : List (ClockEvent α)) :
    Forward (e :: before) ↔ Forward before ∧ (after before).agenda.now ≤ (after (e :: before)).agenda.now := by
  constructor
  · intro forward
    refine ⟨?_,forward before (e :: before) (List.suffix_cons e before) (List.suffix_refl _)⟩
    exact fun earlier later first second => forward earlier later first (second.trans (List.suffix_cons e before))
  · rintro ⟨forward,step⟩ earlier later first second
    rcases List.suffix_cons_iff.mp second with rfl | inner
    · rcases List.suffix_cons_iff.mp first with rfl | inner
      · exact Int.le_refl _
      · exact Int.le_trans (forward earlier before inner (List.suffix_refl _)) step
    · exact forward earlier later first inner

theorem nestedNone : Nested ([] : List (ClockEvent α)) := fun _ _ _ _ inside => absurd (List.suffix_nil.mp inside) (by simp)

theorem nestedStep (e : ClockEvent α) (before : List (ClockEvent α)) :
    Nested (e :: before) ↔ Nested before ∧ ∀ ms v outer, e = .advance ms → (after before).underway = v :: outer →
      (after before).agenda.now + ms ≤ v.target := by
  constructor
  · intro nested
    refine ⟨fun ms earlier v outer inner => nested ms earlier v outer (inner.trans (List.suffix_cons e before)),?_⟩
    rintro ms v outer rfl
    exact nested ms before v outer (List.suffix_refl _)
  · rintro ⟨nested,step⟩ ms earlier v outer inner
    rcases List.suffix_cons_iff.mp inner with same | inner
    · cases same
      exact step ms v outer rfl
    · exact nested ms earlier v outer inner

theorem Goes.within {v : Advance} {outer : List Advance} {a : Agenda α} {p : Notice α × Clock α}
    (goes : Goes v outer a p) (timely : a.Timely) :
    p.2.Within ↔ (v.target :: outer.map (·.target)).Pairwise (· ≤ ·) := by
  unfold Within
  rcases goes.clock timely with ⟨_,now,underway⟩ | ⟨d,_,now,_,due,underway⟩
  · rw [now,underway]
  · rw [now,underway,List.map_cons,List.pairwise_cons_cons_iff_of_trans]
    exact and_iff_right due

theorem withinSooner {now ms : Int} (amount : 0 ≤ ms) (underway : List Advance) :
    ((now + ms) :: underway.map (·.target)).Pairwise (· ≤ ·) ↔
      (now :: underway.map (·.target)).Pairwise (· ≤ ·) ∧ ∀ v outer, underway = v :: outer → now + ms ≤ v.target := by
  cases underway with
  | nil => simp
  | cons v outer =>
    rw [List.map_cons,List.pairwise_cons_cons_iff_of_trans,List.pairwise_cons_cons_iff_of_trans]
    constructor
    · rintro ⟨first,targets⟩
      refine ⟨⟨by omega,targets⟩,?_⟩
      rintro _ _ ⟨⟩
      exact first
    · rintro ⟨⟨_,targets⟩,first⟩
      exact ⟨first v outer rfl,targets⟩

theorem withinStep (e : ClockEvent α) {c : Clock α} (timely : c.agenda.Timely) (whole : e ≠ .fail)
    (amount : ∀ ms, e = .advance ms → 0 ≤ ms) (forward : c.agenda.now ≤ (e.run c).2.agenda.now) :
    (e.run c).2.Within ↔
      c.Within ∧ ∀ ms v outer, e = .advance ms → c.underway = v :: outer → c.agenda.now + ms ≤ v.target := by
  cases e with
  | arm delay payload => simp [Within,ClockEvent.run,Agenda.callNow]
  | cancel stamp => simp [Within,ClockEvent.run,Agenda.cancelNow]
  | advance ms =>
    have goes := proceedGoes ⟨c.agenda.now + ms,0⟩ c.underway c.agenda
    unfold ClockEvent.run
    rw [goes.within timely,withinSooner (amount ms rfl)]
    refine and_congr Iff.rfl ⟨?_,fun nested v outer => nested ms v outer rfl⟩
    rintro nested _ v outer ⟨⟩
    exact nested v outer
  | finish =>
    cases underway : c.underway with
    | nil => simp [finishIdle underway]
    | cons v outer =>
      have goes := proceedGoes { v with fired := v.fired + 1 } outer c.agenda
      rw [finishRun underway] at forward ⊢
      have reached : c.agenda.now ≤ v.target := Int.not_lt.mp fun behind =>
        absurd ((goes.back timely).mpr behind) (Int.not_lt.mpr forward)
      rw [goes.within timely]
      unfold Within
      rw [underway,List.map_cons,List.pairwise_cons_cons_iff_of_trans]
      simp [reached]
  | fail => contradiction

theorem forwardWithin {e : ClockEvent α} {c : Clock α} (timely : c.agenda.Timely)
    (amount : ∀ ms, e = .advance ms → 0 ≤ ms) (within : c.Within) : c.agenda.now ≤ (e.run c).2.agenda.now := by
  by_contra back
  obtain ⟨_,v,outer,underway,behind⟩ := (stepBack e timely amount).mp (Int.not_le.mp back)
  unfold Within at within
  rw [underway,List.map_cons,List.pairwise_cons_cons_iff_of_trans] at within
  omega

structure Regular (es : List (ClockEvent α)) : Prop where
  amounts : ∀ ms, .advance ms ∈ es → 0 ≤ ms
  whole : .fail ∉ es

namespace Regular
variable {e : ClockEvent α} {es before : List (ClockEvent α)}

theorem earlier (regular : Regular (e :: before)) : Regular before :=
  ⟨fun ms member => regular.amounts ms (List.mem_cons_of_mem _ member),
    fun member => regular.whole (List.mem_cons_of_mem _ member)⟩

theorem amount (regular : Regular (e :: before)) (ms : Int) (own : e = .advance ms) : 0 ≤ ms :=
  regular.amounts ms (own ▸ List.mem_cons_self)

theorem ended (regular : Regular (e :: before)) : e ≠ .fail := fun own => regular.whole (own ▸ List.mem_cons_self)

theorem withinNested (regular : Regular es) (forward : Forward es) : (after es).Within ↔ Nested es := by
  induction es with
  | nil => exact iff_of_true (List.pairwise_singleton _ _) nestedNone
  | cons e before ih =>
    obtain ⟨earlier,step⟩ := (forwardStep e before).mp forward
    rw [nestedStep,← ih regular.earlier earlier]
    exact withinStep e (timelyAfter before) regular.ended regular.amount step

theorem nestedForward (regular : Regular es) (nested : Nested es) : Forward es := by
  induction es with
  | nil =>
    intro earlier later first second
    cases List.suffix_nil.mp second
    cases List.suffix_nil.mp first
    exact Int.le_refl _
  | cons e before ih =>
    have inner := ((nestedStep e before).mp nested).1
    have forward := ih regular.earlier inner
    have within := (regular.earlier.withinNested forward).mpr inner
    exact (forwardStep e before).mpr ⟨forward,forwardWithin (timelyAfter before) regular.amount within⟩

end Regular

theorem firedNow {e : ClockEvent α} {c : Clock α} {d : Slot α} (timely : c.agenda.Timely)
    (goesOff : (e.run c).1 = .fired d) : (e.run c).2.agenda.now = d.due ∧
      ∃ v outer, (e.run c).2.underway = v :: outer ∧ d.due ≤ v.target := by
  rcases runGoes e c with ⟨v,outer,goes⟩ | ⟨silent,_⟩
  · rcases goes.clock timely with ⟨ends,_⟩ | ⟨first,fires,now,_,due,underway⟩
    · rw [ends] at goesOff
      contradiction
    · rw [fires] at goesOff
      cases goesOff
      exact ⟨now,v,outer,underway,due⟩
  · exact absurd goesOff (silent d)

theorem firedPast {es : List (ClockEvent α)} (forward : Forward es) : ∀ d ∈ fired es, d.due ≤ (after es).agenda.now := by
  induction es with
  | nil => exact fun _ member => absurd member List.not_mem_nil
  | cons e before ih =>
    obtain ⟨earlier,step⟩ := (forwardStep e before).mp forward
    have past (d : Slot α) (member : d ∈ fired before) : d.due ≤ (after (e :: before)).agenda.now :=
      Int.le_trans (ih earlier d member) step
    rcases firedCases e before with ⟨first,noticed,same⟩ | ⟨_,same⟩
    · rw [same]
      intro d member
      rcases List.mem_cons.mp member with rfl | held
      · exact Int.le_of_eq (firedNow (timelyAfter before) noticed).1.symm
      · exact past d held
    · rw [same]
      exact past

/-- The clock goes back where a timer is done and the advance that goes on has a target behind the clock, and nowhere
else. A run without such a step is one in which every advance stays within the one that it is called in; no timer armed
in it is due before one that went off. -/
theorem clockDirection (es : List (ClockEvent α)) (regular : Regular es) :
    (∀ e before, es = e :: before → ((after es).agenda.now < (after before).agenda.now ↔
      e = .finish ∧ ∃ v outer, (after before).underway = v :: outer ∧ v.target < (after before).agenda.now)) ∧
    ((after es).underway = [] → (Forward es ↔ Nested es)) ∧
    (Forward es → ∀ later earlier delay payload, es = later ++ .arm delay payload :: earlier →
      ∀ d ∈ fired earlier, d.due ≤ (after earlier).agenda.now + max delay 0) := by
  refine ⟨?_,?_,?_⟩
  · rintro e before rfl
    exact stepBack e (timelyAfter before) regular.amount
  · intro rest
    refine ⟨fun forward => (regular.withinNested forward).mp ?_,regular.nestedForward⟩
    unfold Within
    rw [rest]
    exact List.pairwise_singleton _ _
  · rintro forward later earlier delay payload rfl d member
    have inner : Forward earlier := fun first second le inside =>
      forward first second le (inside.trans ((List.suffix_cons _ _).trans (List.suffix_append _ _)))
    have past := firedPast inner d member
    omega

theorem clockDirectionNested :
    Regular [.arm 1 (),.finish,.finish,.advance 3,.advance 10,.arm 5 ()] ∧
      Nested [.arm 1 (),.finish,.finish,.advance 3,.advance 10,.arm 5 ()] ∧
      Forward [.arm 1 (),.finish,.finish,.advance 3,.advance 10,.arm 5 ()] ∧
      ∀ d ∈ fired [.finish,.finish,.advance 3,.advance 10,.arm 5 ()], d.due ≤ 10 + 1 := by
  have regular : Regular [.arm 1 (),.finish,.finish,.advance 3,.advance 10,.arm 5 ()] := ⟨by simp,by simp⟩
  have outermost : (after [.arm 5 ()]).underway = [] := by decide +kernel
  have under : (after [.advance 10,.arm 5 ()]).underway = [⟨10,0⟩] ∧ (after [.advance 10,.arm 5 ()]).agenda.now = 5 := by
    decide +kernel
  have nested : Nested [.arm 1 (),.finish,.finish,.advance 3,.advance 10,.arm 5 ()] := by
    simp only [nestedStep,outermost,under]
    refine ⟨⟨⟨⟨⟨⟨nestedNone,?_⟩,?_⟩,?_⟩,?_⟩,?_⟩,?_⟩
    all_goals rintro ms v outer ⟨⟩ ⟨⟩
    decide
  have law := clockDirection _ regular
  have forward := (law.2.1 (by decide +kernel)).mpr nested
  have now : (after [.finish,.finish,.advance 3,.advance 10,.arm 5 ()]).agenda.now = 10 := by decide +kernel
  have later := law.2.2 forward [] _ 1 () rfl
  rw [now] at later
  exact ⟨regular,nested,forward,later⟩

/-- A timer due at 5 goes off in an advance to 10 and advances the clock to 105 itself; when it is done the clock shows
10 again. -/
theorem clockRunsBack : ¬ ∀ es : List (ClockEvent Unit), Regular es → (after es).underway = [] → Forward es := by
  intro forward
  have back := forward [.finish,.advance 100,.advance 10,.arm 5 ()] ⟨by simp,by simp⟩ (by decide +kernel)
    [.advance 100,.advance 10,.arm 5 ()] _ (List.suffix_cons _ _) (List.suffix_refl _)
  exact absurd back (by decide +kernel)

end Clock
end FormGuard
