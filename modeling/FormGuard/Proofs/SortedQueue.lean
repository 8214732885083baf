import FormGuard.Proofs.ClockDirection
import FormGuard.Proofs.TrackedTimers

/-! The scheduler that keeps its queue sorted shows all that the books with the heap tell: the same time, the same timers in
the queue with the same flags, and the same timer next, after whatever is done to both. -/
namespace FormGuard
namespace Scheduler
variable {α : Type}

def Earlier (t u : Timer α) : Prop := t.due < u.due ∨ t.due = u.due ∧ t.stamp < u.stamp

theorem insertSorted {t : Timer α} {queue : List (Timer α)} (sorted : queue.Pairwise Earlier)
    (last : ∀ u ∈ queue, u.stamp < t.stamp) : (insert t queue).Pairwise Earlier := by
  induction queue with
  | nil => exact List.pairwise_singleton _ _
  | cons u rest ih =>
    obtain ⟨first,others⟩ := List.pairwise_cons.mp sorted
    obtain ⟨younger,last⟩ := List.forall_mem_cons.mp last
    unfold insert
    split
    · rename_i early
      refine List.pairwise_cons.mpr ⟨List.forall_mem_cons.mpr ⟨.inl early,fun w member => ?_⟩,sorted⟩
      have behind := first w member
      unfold Earlier at behind ⊢
      omega
    · rename_i late
      refine List.pairwise_cons.mpr ⟨fun w member => ?_,ih others last⟩
      rcases List.mem_cons.mp ((insertPerm t rest).mem_iff.mp member) with rfl | inside
      · unfold Earlier
        omega
      · exact first w inside

end Scheduler

namespace Agenda
variable {α : Type} {a b : Agenda α} {s : Scheduler α}

def timer (a : Agenda α) (d : Slot α) : Timer α := ⟨d.due,d.stamp,d.payload,a.isCancelled d.stamp⟩

structure Shows (a : Agenda α) (s : Scheduler α) : Prop where
  now : s.now = a.now
  armed : s.armed = a.timers.size
  queue : s.queue.Perm (a.queue.toList.map a.timer)
  sorted : s.queue.Pairwise Scheduler.Earlier

theorem startShows : (start : Agenda α).Shows .start := ⟨rfl,rfl,.refl _,.nil⟩

theorem timerCongr {d : Slot α} (same : b.isCancelled d.stamp = a.isCancelled d.stamp) : b.timer d = a.timer d := by
  unfold timer
  rw [same]

namespace Shows

theorem queued (h : a.Shows s) : s.queued = a.queued := by
  have same := h.queue.length_eq
  rw [List.length_map,Array.length_toList] at same
  exact same

theorem pending (h : a.Shows s) : s.pending = a.pending := by
  have same := h.queue.countP_eq (fun t : Timer α => !t.isCancelled)
  rw [List.countP_map,List.countP_eq_length_filter] at same
  unfold Agenda.pending
  rw [← Array.countP_toList]
  exact same

theorem crowded (h : a.Shows s) (sound : a.Sound) :
    s.queue.length < 2 * s.queue.countP (·.isCancelled) ↔ (a.queue.size : Int) < 2 * a.cancelled := by
  have length := h.queued
  have count := h.queue.countP_eq (fun t : Timer α => t.isCancelled)
  rw [List.countP_map] at count
  have same : a.queue.toList.countP ((fun t : Timer α => t.isCancelled) ∘ a.timer) =
      a.queue.toList.countP (a.isCancelled ·.stamp) := rfl
  rw [sound.count]
  unfold Scheduler.queued Agenda.queued at length
  omega

theorem prune (h : a.Shows s) (sound : a.Sound) :
    (if a.queue.size < 2 * a.cancelled then a.prune else a).Shows s.prune := by
  unfold Scheduler.prune
  by_cases crowded : (a.queue.size : Int) < 2 * a.cancelled
  · rw [if_pos crowded,if_pos ((h.crowded sound).mpr crowded)]
    refine ⟨h.now,h.armed.trans a.pruneSize.symm,?_,h.sorted.sublist List.filter_sublist⟩
    have timers : a.prune.timer = a.timer := funext fun d => timerCongr (a.pruneCancelled d.stamp)
    have live : s.live.Perm ((a.queue.toList.map a.timer).filter (!·.isCancelled)) := h.queue.filter _
    rw [List.filter_map] at live
    rw [timers]
    exact live.trans (a.pruneQueue.map a.timer).symm
  · rw [if_neg crowded,if_neg fun few => crowded ((h.crowded sound).mp few)]
    exact h

theorem enter (h : a.Shows s) (sound : a.Sound) (delay : Int) (payload : α) :
    (a.enter delay payload).Shows { s with
      queue := Scheduler.insert ⟨s.now + max delay 0,s.armed,payload,false⟩ s.queue
      armed := s.armed + 1 } := by
  refine ⟨h.now,?_,?_,?_⟩
  · rw [enterTimers,Array.size_push,h.armed]
  · have entered := (a.enterQueue delay payload).map (a.enter delay payload).timer
    have others : a.queue.toList.map (a.enter delay payload).timer = a.queue.toList.map a.timer :=
      List.map_congr_left fun d member => timerCongr (sound.enterCancelled delay payload member)
    have own : (a.enter delay payload).timer ⟨a.now + max delay 0,a.timers.size,payload⟩ =
        ⟨s.now + max delay 0,s.armed,payload,false⟩ := by
      rw [timer,Sound.newLive,h.now,h.armed]
    rw [List.map_cons,others,own] at entered
    exact ((Scheduler.insertPerm _ _).trans (h.queue.cons _)).trans entered.symm
  · refine Scheduler.insertSorted h.sorted fun u member => ?_
    obtain ⟨d,held,rfl⟩ := List.mem_map.mp (h.queue.mem_iff.mp member)
    exact Nat.lt_of_lt_of_eq (sound.stampKnown held) h.armed.symm

theorem callLater (h : a.Shows s) (sound : a.Sound) (delay : Int) (payload : α) :
    (a.callLater delay payload).Shows (s.callLater delay payload).2 :=
  (h.prune sound).enter (tidied sound sound.prune) delay payload

theorem cancel (h : a.Shows s) (sound : a.Sound) (stamp : Nat) : (a.cancel stamp).Shows (s.cancel stamp) := by
  refine ⟨h.now.trans (a.cancelNow stamp).symm,h.armed.trans (a.cancelSize stamp).symm,?_,?_⟩
  · have marked := h.queue.map fun t => if t.stamp = stamp then { t with isCancelled := true } else t
    rw [List.map_map] at marked
    rw [cancelQueue]
    refine marked.trans (.of_eq (List.map_congr_left fun d member => ?_))
    have known := sound.stampKnown member
    unfold timer
    rw [cancelCancelled]
    by_cases own : d.stamp = stamp
    · subst own
      simp [known]
    · simp [own,Ne.symm own]
  · refine h.sorted.map _ fun t u earlier => ?_
    unfold Scheduler.Earlier at earlier ⊢
    split <;> split <;> exact earlier

theorem next (h : a.Shows s) (sound : a.Sound) (target : Int) :
    (a.draw? target = none ∧ s.next? target = none) ∨
      ∃ d b s', a.draw? target = some (d,b) ∧ s.next? target = some (a.timer d,s') ∧ b.Shows s' := by
  have same := h.queue
  have sorted := h.sorted
  cases taken : Heap.takeFirst? a.queue with
  | none =>
    rw [Heap.takeFirstNone.mp taken] at same
    have empty : s.queue = [] := List.perm_nil.mp same
    refine .inl ⟨?_,?_⟩
    · unfold draw?
      rw [taken]
    · unfold Scheduler.next?
      rw [empty]
  | some first =>
    obtain ⟨d,rest⟩ := first
    have perm := (Heap.takeFirstPerm taken).2
    cases listed : s.queue with
    | nil =>
      rw [listed] at same
      have none := (List.nil_perm.mp same)
      simp [List.map_eq_nil_iff.mp none] at perm
    | cons t others =>
      rw [listed] at same sorted
      have heads : t = a.timer d := by
        obtain ⟨e,inside,rfl⟩ := List.mem_map.mp (same.mem_iff.mp List.mem_cons_self)
        rcases List.mem_cons.mp (perm.mem_iff.mp inside) with rfl | behind
        · rfl
        · have held : a.timer d ∈ a.queue.toList.map a.timer :=
            List.mem_map_of_mem (perm.mem_iff.mpr List.mem_cons_self)
          rcases List.mem_cons.mp (same.mem_iff.mpr held) with own | later
          · exact own.symm
          · exact absurd ((List.pairwise_cons.mp sorted).1 _ later) (Heap.takenFirst sound.heap taken behind)
      subst heads
      have rests : others.Perm (rest.toList.map a.timer) := (same.trans (perm.map a.timer)).cons_inv
      by_cases due : d.due ≤ target
      · have drawn : a.draw? target = some (d,{
            now := d.due
            queue := rest
            timers := unqueue a.timers d.stamp
            cancelled := if a.isCancelled d.stamp then a.cancelled - 1 else a.cancelled }) := by
          unfold draw?
          rw [taken]
          exact if_pos due
        have next : s.next? target = some (a.timer d,{ s with now := d.due, queue := others }) := by
          unfold Scheduler.next?
          rw [listed]
          exact if_pos due
        refine .inr ⟨d,_,_,drawn,next,rfl,?_,?_,(List.pairwise_cons.mp sorted).2⟩
        · exact h.armed.trans Array.size_modify.symm
        · refine rests.trans (.of_eq (List.map_congr_left fun e _ => ?_))
          exact (timerCongr (drawnCancelled drawn e.stamp)).symm
      · refine .inl ⟨?_,?_⟩
        · unfold draw?
          rw [taken]
          exact if_neg due
        · unfold Scheduler.next?
          rw [listed]
          exact if_neg due

theorem stop (h : a.Shows s) (time : Int) : ({ a with now := time } : Agenda α).Shows { s with now := time } :=
  ⟨rfl,h.armed,h.queue,h.sorted⟩

end Shows

inductive Handled : Agenda α → Scheduler α → Prop where
  | start : Handled .start .start
  | call {a : Agenda α} {s : Scheduler α} (before : Handled a s) (delay : Int) (payload : α) :
      Handled (a.callLater delay payload) (s.callLater delay payload).2
  | cancel {a : Agenda α} {s : Scheduler α} (before : Handled a s) (stamp : Nat) :
      Handled (a.cancel stamp) (s.cancel stamp)
  | draw {a b : Agenda α} {s s' : Scheduler α} {target : Int} {d : Slot α} {t : Timer α} (before : Handled a s)
      (drawn : a.draw? target = some (d,b)) (next : s.next? target = some (t,s')) : Handled b s'
  | stop {a : Agenda α} {s : Scheduler α} (before : Handled a s) (time : Int) :
      Handled { a with now := time } { s with now := time }

theorem handledShows (handled : Handled a s) : a.Sound ∧ a.Shows s := by
  induction handled with
  | start => exact ⟨startSound,startShows⟩
  | call _ delay payload ih => exact ⟨ih.1.callLater delay payload,ih.2.callLater ih.1 delay payload⟩
  | cancel _ stamp ih => exact ⟨ih.1.cancel stamp,ih.2.cancel ih.1 stamp⟩
  | @draw a b s s' target d t _ drawn next ih =>
    refine ⟨ih.1.draw drawn,?_⟩
    rcases ih.2.next ih.1 target with ⟨idle,_⟩ | ⟨_,_,_,drawn',next',shows⟩
    · rw [idle] at drawn
      contradiction
    · cases drawn.symm.trans drawn'
      cases next.symm.trans next'
      exact shows
  | stop _ time ih => exact ⟨ih.1.stop time,ih.2.stop time⟩

theorem handledAlike (handled : Handled a s) (target : Int) :
    s.now = a.now ∧ s.pending = a.pending ∧ s.queued = a.queued ∧
      (s.next? target).map (·.1) = (a.draw? target).map fun drawn => a.timer drawn.1 := by
  obtain ⟨sound,same⟩ := handledShows handled
  refine ⟨same.now,same.pending,same.queued,?_⟩
  rcases same.next sound target with ⟨idle,none⟩ | ⟨d,b,s',drawn,next,_⟩
  · rw [idle,none]
    rfl
  · rw [drawn,next]
    rfl

end Agenda
end FormGuard
