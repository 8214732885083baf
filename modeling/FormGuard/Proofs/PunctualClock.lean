import FormGuard.Proofs.ClockDirection

/-! What a clock does with its timers where none of them advances it and nothing breaks off. The books are kept next to the
run: which timers were armed, which went off and which were cancelled. What left the queue went off or was cancelled, and
all that went off comes before all that is still in the queue. -/
namespace FormGuard
namespace Clock
variable {α : Type}

/-- Runs in which no timer that goes off advances the clock or breaks off. Amounts are not negative, and what is cancelled
was armed. -/
inductive Plain : List (ClockEvent α) → Prop where
  | start : Plain []
  | arm {before : List (ClockEvent α)} (plain : Plain before) (delay : Int) (payload : α) :
      Plain (.arm delay payload :: before)
  | cancel {before : List (ClockEvent α)} {stamp : Nat} (plain : Plain before) (known : stamp < (armed before).length) :
      Plain (.cancel stamp :: before)
  | advance {before : List (ClockEvent α)} {ms : Int} (plain : Plain before) (amount : 0 ≤ ms)
      (rest : (after before).underway = []) : Plain (.advance ms :: before)
  | finish {before : List (ClockEvent α)} (plain : Plain before) (busy : (after before).underway ≠ []) :
      Plain (.finish :: before)

structure Ledger (armed fired : List (Slot α)) (off : Nat → Prop) (a : Agenda α) : Prop where
  numbered : a.timers.size = armed.length
  struck : ∀ k, a.isCancelled k = true ↔ off k
  queued : ∀ d ∈ a.queue.toList, d ∈ armed
  genuine : ∀ d ∈ fired, d ∈ armed
  ordered : fired.Pairwise fun later earlier => earlier.Before later
  early : ∀ f ∈ fired, ∀ d ∈ a.queue.toList, f.Before d
  past : ∀ f ∈ fired, f.due ≤ a.now

def Settled (armed fired : List (Slot α)) (off : Nat → Prop) (a : Agenda α) : Prop :=
  ∀ d ∈ armed, d ∈ a.queue.toList ∨ d ∈ fired ∨ off d.stamp

section
variable {armed fired : List (Slot α)} {off : Nat → Prop} {a b : Agenda α} {target : Int} {d : Slot α}

theorem drawnMember (drawn : a.draw? target = some (d,b)) (e : Slot α) :
    e ∈ a.queue.toList ↔ e = d ∨ e ∈ b.queue.toList :=
  (Agenda.drawnPerm drawn).mem_iff.trans List.mem_cons

theorem prunedMember (a : Agenda α) (e : Slot α) :
    e ∈ a.prune.queue.toList ↔ e ∈ a.queue.toList ∧ a.isCancelled e.stamp = false := by
  rw [a.pruneQueue.mem_iff,List.mem_filter,Bool.not_eq_true']

theorem enteredMember (a : Agenda α) (delay : Int) (payload : α) (e : Slot α) :
    e ∈ (a.enter delay payload).queue.toList ↔
      e = ⟨a.now + max delay 0,a.timers.size,payload⟩ ∨ e ∈ a.queue.toList :=
  (a.enterQueue delay payload).mem_iff.trans List.mem_cons

namespace Ledger

theorem draw (h : Ledger armed fired off a) (drawn : a.draw? target = some (d,b)) : Ledger armed fired off b where
  numbered := by
    rw [(Agenda.drawnBooks drawn).2.2.2.1,Agenda.unqueue,Array.size_modify]
    exact h.numbered
  struck k := by
    rw [Agenda.drawnCancelled drawn]
    exact h.struck k
  queued e member := h.queued e ((drawnMember drawn e).mpr (.inr member))
  genuine := h.genuine
  ordered := h.ordered
  early f gone e member := h.early f gone e ((drawnMember drawn e).mpr (.inr member))
  past f gone := by
    have before := h.early f gone d ((drawnMember drawn d).mpr (.inl rfl))
    rw [(Agenda.drawnBooks drawn).2.2.1]
    unfold Slot.Before at before
    omega

theorem fire (h : Ledger armed fired off a) (sound : a.Sound) (drawn : a.draw? target = some (d,b)) :
    Ledger armed (d :: fired) off b := by
  have held := (drawnMember drawn d).mpr (.inl rfl)
  have rest := h.draw drawn
  refine ⟨rest.numbered,rest.struck,rest.queued,?_,?_,?_,?_⟩
  · exact List.forall_mem_cons.mpr ⟨h.queued d held,h.genuine⟩
  · exact List.pairwise_cons.mpr ⟨fun f gone => h.early f gone d held,h.ordered⟩
  · exact List.forall_mem_cons.mpr ⟨fun e member => Agenda.drawnEarliest sound drawn member,rest.early⟩
  · exact List.forall_mem_cons.mpr ⟨Int.le_of_eq (Agenda.drawnBooks drawn).2.2.1.symm,rest.past⟩

theorem stop (h : Ledger armed fired off a) (reached : a.now ≤ target) :
    Ledger armed fired off { a with now := target } :=
  ⟨h.numbered,h.struck,h.queued,h.genuine,h.ordered,h.early,fun f gone => Int.le_trans (h.past f gone) reached⟩

theorem prune (h : Ledger armed fired off a) : Ledger armed fired off a.prune where
  numbered := a.pruneSize.trans h.numbered
  struck k := by
    rw [Agenda.pruneCancelled]
    exact h.struck k
  queued e member := h.queued e ((prunedMember a e).mp member).1
  genuine := h.genuine
  ordered := h.ordered
  early f gone e member := h.early f gone e ((prunedMember a e).mp member).1
  past := h.past

theorem enter (h : Ledger armed fired off a) (delay : Int) (payload : α) (numbers : ∀ d ∈ armed, d.stamp < armed.length) :
    Ledger (⟨a.now + max delay 0,armed.length,payload⟩ :: armed) fired off (a.enter delay payload) where
  numbered := by
    rw [Agenda.enterTimers,Array.size_push,h.numbered,List.length_cons]
  struck k := by
    rw [← h.struck k]
    unfold Agenda.isCancelled
    rw [Agenda.enterTimers,Array.getElem?_push]
    split
    · rename_i own
      simp [own]
    · rfl
  queued e member := by
    rw [enteredMember,h.numbered] at member
    exact List.mem_cons.mpr (member.imp_right (h.queued e))
  genuine f gone := List.mem_cons_of_mem _ (h.genuine f gone)
  ordered := h.ordered
  early f gone e member := by
    rcases (enteredMember a delay payload e).mp member with rfl | held
    · have past := h.past f gone
      have earlier := numbers f (h.genuine f gone)
      rw [← h.numbered] at earlier
      unfold Slot.Before
      dsimp only
      omega
    · exact h.early f gone e held
  past := h.past

theorem cancel (h : Ledger armed fired off a) {stamp : Nat} (known : stamp < armed.length) :
    Ledger armed fired (fun k => k = stamp ∨ off k) (a.cancel stamp) where
  numbered := (a.cancelSize stamp).trans h.numbered
  struck k := by
    rw [Agenda.cancelCancelled,Bool.or_eq_true,h.struck k,decide_eq_true_iff,h.numbered,or_comm]
    refine or_congr_left ⟨fun own => own.1.symm,?_⟩
    rintro rfl
    exact ⟨rfl,known⟩
  queued := by
    rw [Agenda.cancelQueue]
    exact h.queued
  genuine := h.genuine
  ordered := h.ordered
  early := by
    rw [Agenda.cancelQueue]
    exact h.early
  past := by
    rw [Agenda.cancelNow]
    exact h.past

end Ledger

namespace Settled

theorem skip (h : Settled armed fired off a) (drawn : a.draw? target = some (d,b)) (gone : off d.stamp) :
    Settled armed fired off b := by
  intro e member
  rcases h e member with held | settled
  · rcases (drawnMember drawn e).mp held with rfl | held
    · exact .inr (.inr gone)
    · exact .inl held
  · exact .inr settled

theorem fire (h : Settled armed fired off a) (drawn : a.draw? target = some (d,b)) : Settled armed (d :: fired) off b := by
  intro e member
  rcases h e member with held | gone | gone
  · rcases (drawnMember drawn e).mp held with rfl | held
    · exact .inr (.inl List.mem_cons_self)
    · exact .inl held
  · exact .inr (.inl (List.mem_cons_of_mem _ gone))
  · exact .inr (.inr gone)

theorem prune (h : Settled armed fired off a) (ledger : Ledger armed fired off a) : Settled armed fired off a.prune := by
  intro e member
  rcases h e member with held | settled
  · cases gone : a.isCancelled e.stamp with
    | false => exact .inl ((prunedMember a e).mpr ⟨held,gone⟩)
    | true => exact .inr (.inr ((ledger.struck _).mp gone))
  · exact .inr settled

theorem enter (h : Settled armed fired off a) (ledger : Ledger armed fired off a) (delay : Int) (payload : α) :
    Settled (⟨a.now + max delay 0,armed.length,payload⟩ :: armed) fired off (a.enter delay payload) := by
  intro e member
  rw [enteredMember,ledger.numbered]
  rcases List.mem_cons.mp member with rfl | member
  · exact .inl (.inl rfl)
  · exact (h e member).imp_left .inr

theorem cancel (h : Settled armed fired off a) (stamp : Nat) :
    Settled armed fired (fun k => k = stamp ∨ off k) (a.cancel stamp) := by
  intro e member
  rw [Agenda.cancelQueue]
  exact (h e member).imp_right fun gone => gone.imp_right .inr

end Settled

theorem Skips.cancelled (skips : Skips target a b) (k : Nat) : b.isCancelled k = a.isCancelled k := by
  induction skips with
  | done => rfl
  | one drawn _ _ ih => exact ih.trans (Agenda.drawnCancelled drawn k)

theorem Skips.within (skips : Skips target a b) (within : a.now ≤ target) : b.now ≤ target := by
  induction skips with
  | done => exact within
  | one drawn _ _ ih =>
    obtain ⟨_,due,now,_⟩ := Agenda.drawnBooks drawn
    exact ih (by omega)

theorem Skips.booked (skips : Skips target a b) (ledger : Ledger armed fired off a) (settled : Settled armed fired off a) :
    Ledger armed fired off b ∧ Settled armed fired off b := by
  induction skips with
  | done => exact ⟨ledger,settled⟩
  | one drawn cancelled _ ih => exact ih (ledger.draw drawn) (settled.skip drawn ((ledger.struck _).mp cancelled))

theorem Goes.booked {v : Advance} {outer : List Advance} {p : Notice α × Clock α} (goes : Goes v outer a p)
    (timely : a.Timely) (within : a.now ≤ v.target) (ledger : Ledger armed fired off a)
    (settled : Settled armed fired off a) :
    Ledger armed (listed fired p.1) off p.2.agenda ∧ Settled armed (listed fired p.1) off p.2.agenda := by
  cases goes with
  | ends skips idle =>
    obtain ⟨ledger,settled⟩ := skips.booked ledger settled
    exact ⟨ledger.stop (skips.within within),settled⟩
  | fires skips drawn live =>
    obtain ⟨ledger,settled⟩ := skips.booked ledger settled
    exact ⟨ledger.fire (Agenda.Timely.kept.skips skips timely).sound drawn,settled.fire drawn⟩

theorem Goes.live {v : Advance} {outer : List Advance} {p : Notice α × Clock α} (goes : Goes v outer a p)
    (fires : p.1 = .fired d) : a.isCancelled d.stamp = false := by
  cases goes with
  | ends skips idle => contradiction
  | fires skips drawn live =>
    cases fires
    rw [← skips.cancelled]
    exact live

theorem Goes.reached {v : Advance} {outer : List Advance} {p : Notice α × Clock α} (goes : Goes v outer a p)
    (timely : a.Timely) {n : Nat} (returned : p.1 = .returned n) :
    ∀ d ∈ p.2.agenda.queue.toList, p.2.agenda.now < d.due := by
  cases goes with
  | ends skips idle => exact fun d member => Agenda.idleLater (Agenda.Timely.kept.skips skips timely).sound idle member
  | fires skips drawn live => contradiction

end

/-! The numbers of the timers. -/

theorem armedNumbers (es : List (ClockEvent α)) : ∀ d ∈ armed es, d.stamp < (armed es).length := by
  induction es with
  | nil => exact fun _ member => absurd member List.not_mem_nil
  | cons e before ih =>
    cases e with
    | arm delay payload =>
      refine List.forall_mem_cons.mpr ⟨Nat.lt_succ_self _,?_⟩
      exact fun d member => Nat.lt_succ_of_lt (ih d member)
    | _ => exact ih

theorem armedDistinct (es : List (ClockEvent α)) : ((armed es).map (·.stamp)).Nodup := by
  induction es with
  | nil => exact .nil
  | cons e before ih =>
    cases e with
    | arm delay payload =>
      refine List.nodup_cons.mpr ⟨?_,ih⟩
      intro member
      obtain ⟨d,held,own⟩ := List.mem_map.mp member
      have earlier := armedNumbers before d held
      rw [own] at earlier
      exact absurd earlier (Nat.lt_irrefl _)
    | _ => exact ih

structure Booked (es : List (ClockEvent α)) : Prop where
  ledger : Ledger (armed es) (fired es) (fun k => .cancel k ∈ es) (after es).agenda
  settled : Settled (armed es) (fired es) (fun k => .cancel k ∈ es) (after es).agenda
  single : (after es).underway.length ≤ 1
  within : ∀ v ∈ (after es).underway, (after es).agenda.now ≤ v.target

theorem startBooked : Booked ([] : List (ClockEvent α)) where
  ledger := by
    refine ⟨rfl,fun k => ?_,?_,?_,.nil,?_,?_⟩
    · simp [after,Clock.start,Agenda.start,Agenda.isCancelled]
    all_goals simp [after,Clock.start,Agenda.start,fired]
  settled _ member := absurd member List.not_mem_nil
  single := Nat.zero_le 1
  within _ member := absurd member List.not_mem_nil

theorem Goes.leg {v : Advance} {a : Agenda α} {p : Notice α × Clock α} (goes : Goes v [] a p) (timely : a.Timely) :
    p.2.underway.length ≤ 1 ∧ ∀ u ∈ p.2.underway, p.2.agenda.now ≤ u.target := by
  rcases goes.clock timely with ⟨_,_,underway⟩ | ⟨d,_,now,_,due,underway⟩
  · simp [underway]
  · simp [underway,now,due]

namespace Booked
variable {before : List (ClockEvent α)}

theorem arm (h : Booked before) (delay : Int) (payload : α) : Booked (.arm delay payload :: before) := by
  have off : (fun k => ClockEvent.cancel k ∈ .arm delay payload :: before) = fun k => .cancel k ∈ before := by simp
  have numbers := armedNumbers before
  have booked : Ledger (armed (.arm delay payload :: before)) (fired before) (fun k => .cancel k ∈ before)
        ((after before).agenda.callLater delay payload) ∧
      Settled (armed (.arm delay payload :: before)) (fired before) (fun k => .cancel k ∈ before)
        ((after before).agenda.callLater delay payload) :=
    Agenda.tidied (P := fun a => Ledger _ _ _ (a.enter delay payload) ∧ Settled _ _ _ (a.enter delay payload))
      ⟨h.ledger.enter delay payload numbers,h.settled.enter h.ledger delay payload⟩
      ⟨h.ledger.prune.enter delay payload numbers,(h.settled.prune h.ledger).enter h.ledger.prune delay payload⟩
  constructor
  · rw [off]
    exact booked.1
  · rw [off]
    exact booked.2
  · exact h.single
  · intro v member
    change ((after before).agenda.callLater delay payload).now ≤ v.target
    rw [Agenda.callNow]
    exact h.within v member

theorem cancel (h : Booked before) {stamp : Nat} (known : stamp < (armed before).length) :
    Booked (.cancel stamp :: before) := by
  have off : (fun k => ClockEvent.cancel k ∈ .cancel stamp :: before) =
      fun k => k = stamp ∨ .cancel k ∈ before := by
    simp
  constructor
  · rw [off]
    exact h.ledger.cancel known
  · rw [off]
    exact h.settled.cancel stamp
  · exact h.single
  · intro v member
    change ((after before).agenda.cancel stamp).now ≤ v.target
    rw [Agenda.cancelNow]
    exact h.within v member

theorem alone (h : Booked before) (busy : (after before).underway ≠ []) : ∃ v, (after before).underway = [v] := by
  have single := h.single
  cases underway : (after before).underway with
  | nil => exact absurd underway busy
  | cons v outer =>
    rw [underway] at single
    obtain rfl : outer = [] := by simpa using single
    exact ⟨v,rfl⟩

theorem proceed (h : Booked before) {e : ClockEvent α} {v : Advance} (within : (after before).agenda.now ≤ v.target)
    (quiet : armed (e :: before) = armed before) (other : ∀ k, .cancel k ≠ e)
    (run : e.run (after before) = Clock.proceed v [] (after before).agenda) : Booked (e :: before) := by
  have goes := proceedGoes v [] (after before).agenda
  have timely := timelyAfter before
  have off : (fun k => ClockEvent.cancel k ∈ e :: before) = fun k => .cancel k ∈ before := by simp [other]
  have booked := goes.booked timely within h.ledger h.settled
  have leg := goes.leg timely
  rw [← run] at booked leg
  constructor
  · rw [off,quiet]
    exact booked.1
  · rw [off,quiet]
    exact booked.2
  · exact leg.1
  · exact leg.2

end Booked

theorem Plain.booked {es : List (ClockEvent α)} (plain : Plain es) : Booked es := by
  induction plain with
  | start => exact startBooked
  | arm _ delay payload h => exact h.arm delay payload
  | cancel _ known h => exact h.cancel known
  | @advance before ms _ amount rest h =>
    refine h.proceed (v := ⟨(after before).agenda.now + ms,0⟩) ?_ rfl nofun (advanceRun rest ms)
    exact Int.le_add_of_nonneg_right amount
  | @finish before _ busy h =>
    obtain ⟨v,underway⟩ := h.alone busy
    refine h.proceed (v := { v with fired := v.fired + 1 }) ?_ rfl nofun (finishRun underway)
    exact h.within v (underway ▸ List.mem_cons_self)

theorem Plain.earlier {e : ClockEvent α} {before : List (ClockEvent α)} (plain : Plain (e :: before)) : Plain before := by
  cases plain <;> assumption

inductive Call (before : List (ClockEvent α)) (target : Int) (es : List (ClockEvent α)) : Prop where
  | underway (v : Advance) (only : (after es).underway = [v]) (aim : v.target = target)
      (count : (fired es).length = (fired before).length + (v.fired + 1)) (unanswered : ∀ n, notice es ≠ .returned n)
  | ends (rest : (after es).underway = [])
      (answer : ∀ n, notice es = .returned n →
        (after es).agenda.now = target ∧ (fired es).length = (fired before).length + n)

namespace Call
variable {before es : List (ClockEvent α)} {target : Int}

theorem proceed {e : ClockEvent α} {v : Advance} (aim : v.target = target)
    (count : (fired es).length = (fired before).length + v.fired)
    (run : e.run (after es) = Clock.proceed v [] (after es).agenda) : Call before target (e :: es) := by
  have clock := (proceedGoes v [] (after es).agenda).clock (timelyAfter es)
  rw [← run] at clock
  rcases clock with ⟨noticed,now,underway⟩ | ⟨d,noticed,_,_,_,underway⟩
  · refine .ends underway fun n returned => ⟨now.trans aim,?_⟩
    change notice (e :: es) = _ at noticed
    rw [noticed] at returned
    cases returned
    rw [fired,noticed]
    exact count
  · change notice (e :: es) = _ at noticed
    refine .underway v underway aim ?_ ?_
    · rw [fired,noticed]
      simp only [listed,List.length_cons,count]
      omega
    · rw [noticed]
      simp

theorem meanwhile {e : ClockEvent α} (call : Call before target es) (same : (e.run (after es)).2.underway = (after es).underway)
    (unanswered : ∀ n, notice (e :: es) ≠ .returned n) (listed : fired (e :: es) = fired es) :
    Call before target (e :: es) := by
  cases call with
  | underway v only aim count _ => exact .underway v (same.trans only) aim (listed ▸ count) unanswered
  | ends rest _ => exact .ends (same.trans rest) fun n returned => absurd returned (unanswered n)

end Call

theorem Plain.call {during before : List (ClockEvent α)} {ms : Int} (plain : Plain (during ++ .advance ms :: before))
    (last : ∀ e ∈ during, ∀ ms, e ≠ .advance ms) :
    Call before ((after before).agenda.now + ms) (during ++ .advance ms :: before) := by
  induction during with
  | nil =>
    rw [List.nil_append] at plain ⊢
    cases plain with
    | advance plain amount rest =>
      exact .proceed (v := ⟨(after before).agenda.now + ms,0⟩) rfl rfl (advanceRun rest ms)
  | cons e during ih =>
    have call := ih plain.earlier fun e member => last e (List.mem_cons_of_mem _ member)
    have first := last e List.mem_cons_self
    rw [List.cons_append] at plain ⊢
    cases plain with
    | arm => exact call.meanwhile rfl (by simp [notice,ClockEvent.run]) rfl
    | cancel => exact call.meanwhile rfl (by simp [notice,ClockEvent.run]) rfl
    | advance => exact absurd rfl (first _)
    | finish _ busy =>
      cases call with
      | ends rest _ => exact absurd rest busy
      | underway v only aim count _ =>
        exact .proceed (v := { v with fired := v.fired + 1 }) aim count (finishRun only)

structure Punctual (es : List (ClockEvent α)) : Prop where
  genuine : ∀ d ∈ fired es, d ∈ armed es
  once : ((fired es).map (·.stamp)).Nodup
  ordered : (fired es).Pairwise fun later earlier => earlier.Before later
  onTime : ∀ d, notice es = .fired d → (after es).agenda.now = d.due ∧
    ∃ v, (after es).underway = [v] ∧ d.due ≤ v.target
  past : ∀ d ∈ fired es, d.due ≤ (after es).agenda.now
  calledOff : ∀ later earlier stamp, es = later ++ .cancel stamp :: earlier →
    stamp ∉ (fired earlier).map (·.stamp) → stamp ∉ (fired es).map (·.stamp)
  reached : ∀ n, notice es = .returned n → ∀ d ∈ armed es, d.due ≤ (after es).agenda.now →
    d ∈ fired es ∨ .cancel d.stamp ∈ es
  returned : ∀ during before ms n, es = during ++ .advance ms :: before → (∀ e ∈ during, ∀ ms, e ≠ .advance ms) →
    notice es = .returned n →
      (after es).agenda.now = (after before).agenda.now + ms ∧ (fired es).length = (fired before).length + n

namespace Booked
variable {es : List (ClockEvent α)}

theorem once (h : Booked es) : ((fired es).map (·.stamp)).Nodup := by
  refine List.pairwise_map.mpr (h.ledger.ordered.imp_of_mem ?_)
  intro later earlier first second before same
  obtain rfl : later = earlier :=
    List.inj_on_of_nodup_map (armedDistinct es) (h.ledger.genuine _ first) (h.ledger.genuine _ second) same
  exact Slot.notBeforeSelf before

theorem onTime (h : Booked es) {d : Slot α} (noticed : notice es = .fired d) :
    (after es).agenda.now = d.due ∧ ∃ v, (after es).underway = [v] ∧ d.due ≤ v.target := by
  cases es with
  | nil => contradiction
  | cons e before =>
    obtain ⟨now,v,outer,underway,due⟩ := firedNow (timelyAfter before) noticed
    obtain ⟨u,only⟩ := h.alone (underway ▸ List.cons_ne_nil v outer)
    obtain ⟨rfl,rfl⟩ := List.cons.inj (underway.symm.trans only)
    exact ⟨now,v,only,due⟩

theorem reached (h : Booked es) {n : Nat} (answered : notice es = .returned n) {d : Slot α} (member : d ∈ armed es)
    (due : d.due ≤ (after es).agenda.now) : d ∈ fired es ∨ .cancel d.stamp ∈ es := by
  cases es with
  | nil => contradiction
  | cons e before =>
    rcases runGoes e (after before) with ⟨v,outer,goes⟩ | ⟨_,silent⟩
    · have left := goes.reached (timelyAfter before) answered d
      exact (h.settled d member).resolve_left fun held => Int.not_le.mpr (left held) due
    · exact absurd answered (silent n)

end Booked

theorem Plain.calledOff {later earlier : List (ClockEvent α)} {stamp : Nat}
    (plain : Plain (later ++ .cancel stamp :: earlier)) (waiting : stamp ∉ (fired earlier).map (·.stamp)) :
    stamp ∉ (fired (later ++ .cancel stamp :: earlier)).map (·.stamp) := by
  induction later with
  | nil => exact waiting
  | cons e later ih =>
    have before := ih plain.earlier
    rw [List.cons_append]
    rcases firedCases e (later ++ .cancel stamp :: earlier) with ⟨d,noticed,same⟩ | ⟨_,same⟩
    · rw [same,List.map_cons,List.mem_cons,not_or]
      refine ⟨?_,before⟩
      rintro rfl
      have gone := (plain.earlier.booked.ledger.struck d.stamp).mpr (by simp)
      rcases runGoes e (after (later ++ .cancel d.stamp :: earlier)) with ⟨v,outer,goes⟩ | ⟨silent,_⟩
      · exact Bool.false_ne_true ((goes.live noticed).symm.trans gone)
      · exact absurd noticed (silent d)
    · rw [same]
      exact before

theorem firedPunctual {es : List (ClockEvent α)} (plain : Plain es) : Punctual es where
  genuine := plain.booked.ledger.genuine
  once := plain.booked.once
  ordered := plain.booked.ledger.ordered
  onTime _ noticed := plain.booked.onTime noticed
  past := plain.booked.ledger.past
  calledOff := by
    rintro later earlier stamp rfl waiting
    exact plain.calledOff waiting
  reached _ answered _ member due := plain.booked.reached answered member due
  returned := by
    rintro during before ms n rfl last answered
    cases plain.call last with
    | underway _ _ _ _ unanswered => exact absurd answered (unanswered n)
    | ends _ answer => exact answer n answered

/-- Of two timers due at 5 the second is cancelled; an advance to 10 lets the first go off, and answers one. -/
theorem firedPunctualPair : Plain [.finish,.advance 10,.cancel 1,.arm 5 "second",.arm 5 "first"] ∧
    Punctual [.finish,.advance 10,.cancel 1,.arm 5 "second",.arm 5 "first"] := by
  have armed : Plain [.cancel 1,.arm 5 "second",.arm 5 "first"] :=
    .cancel (.arm (.arm .start 5 "first") 5 "second") (by decide)
  have plain : Plain [.finish,.advance 10,.cancel 1,.arm 5 "second",.arm 5 "first"] :=
    .finish (.advance armed (by decide) (by decide +kernel)) (by decide +kernel)
  exact ⟨plain,firedPunctual plain⟩

end Clock
end FormGuard
