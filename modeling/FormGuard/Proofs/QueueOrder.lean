import FormGuard.Proofs.TrackedTimers

/-! The queue of a session is in the order in which its timers are due, whatever happens, so the due time of a timer alone
decides where it stands among the others. A timer armed in the place of one that was due at the same time is as if it had been
there before. -/
namespace FormGuard
namespace Scheduler
variable {α : Type} {s : Scheduler α} {queue rest : List (Timer α)}

def InOrder (queue : List (Timer α)) : Prop := queue.Pairwise (·.due ≤ ·.due)

theorem insertPlace (ordered : InOrder queue) (t : Timer α) :
    insert t queue = queue.filter (·.due ≤ t.due) ++ t :: queue.filter (t.due < ·.due) := by
  induction queue with
  | nil => rfl
  | cons u others ih =>
    obtain ⟨first,behind⟩ := List.pairwise_cons.mp ordered
    unfold insert
    split
    · rename_i early
      have later : ∀ w ∈ u :: others, t.due < w.due :=
        List.forall_mem_cons.mpr ⟨early,fun w member => Int.lt_of_lt_of_le early (first w member)⟩
      have none : (u :: others).filter (·.due ≤ t.due) = [] :=
        List.filter_eq_nil_iff.mpr fun w member => by simpa using later w member
      rw [none,List.filter_eq_self.mpr fun w member => by simpa using later w member]
      rfl
    · rename_i late
      rw [ih behind,List.filter_cons_of_pos (by simpa using late),List.filter_cons_of_neg (by simpa using late)]
      rfl

theorem insertInOrder (ordered : InOrder queue) (t : Timer α) : InOrder (insert t queue) := by
  rw [insertPlace ordered]
  refine List.pairwise_append.mpr ⟨ordered.sublist List.filter_sublist,List.pairwise_cons.mpr ⟨fun u later => ?_,
    ordered.sublist List.filter_sublist⟩,fun u early w late => ?_⟩
  · exact Int.le_of_lt (of_decide_eq_true (List.mem_filter.mp later).2)
  · have before : u.due ≤ t.due := of_decide_eq_true (List.mem_filter.mp early).2
    rcases List.mem_cons.mp late with rfl | later
    · exact before
    · exact Int.le_trans before (Int.le_of_lt (of_decide_eq_true (List.mem_filter.mp later).2))

theorem pruneLive (s : Scheduler α) : s.prune.live = s.live := by
  unfold prune live
  split
  · exact List.filter_filter.trans (List.filter_congr fun t _ => Bool.and_self _)
  · rfl

theorem laterLive (ordered : InOrder s.queue) (delay : Int) (payload : α) :
    (s.callLater delay payload).2.live = s.live.filter (·.due ≤ s.now + max delay 0) ++
      ⟨s.now + max delay 0,s.armed,payload,false⟩ :: s.live.filter (s.now + max delay 0 < ·.due) := by
  have pruned : InOrder s.prune.queue := ordered.sublist s.pruneSublist
  have queue : (s.callLater delay payload).2.queue =
      insert ⟨s.prune.now + max delay 0,s.prune.armed,payload,false⟩ s.prune.queue := rfl
  have live (p : Timer α → Bool) : (s.prune.queue.filter p).filter (!·.isCancelled) = s.live.filter p := by
    rw [← pruneLive s]
    exact List.filter_comm _ _ _
  unfold Scheduler.live at live ⊢
  rw [queue,insertPlace pruned,List.filter_append,List.filter_cons_of_pos rfl,live,live,s.pruneNow,s.pruneArmed]

end Scheduler

namespace Session
open Scheduler (InOrder)
variable {s s' : Session}

theorem silencedInOrder (ordered : InOrder s.scheduler.queue) (name : String) : InOrder (s.silenced name).queue := by
  rw [silencedQueue]
  refine ordered.map _ fun t u earlier => ?_
  split <;> split <;> exact earlier

theorem drawnInOrder (ordered : InOrder s.scheduler.queue) {target t scheduler}
    (drawn : s.scheduler.next? target = some (t,scheduler)) : InOrder scheduler.queue := by
  rw [(Scheduler.drawnHead drawn).1] at ordered
  exact (List.pairwise_cons.mp ordered).2

theorem moveInOrder (move : s.Move s') (ordered : InOrder s.scheduler.queue) : InOrder s'.scheduler.queue := by
  cases move with
  | beside same =>
    rw [same.queue]
    exact ordered
  | enrol entry =>
    obtain ⟨_,_,_,_,_,rfl⟩ := enlisted entry
    exact silencedInOrder ordered _
  | excuse =>
    rw [noteEq]
    exact silencedInOrder ordered _
  | «show» =>
    rw [presentEq,noteEq]
    exact silencedInOrder ordered _
  | postpone =>
    rw [noteEq]
    exact Scheduler.insertInOrder ((silencedInOrder ordered _).sublist (Scheduler.pruneSublist _)) _
  | discard name =>
    rw [removeEq]
    exact silencedInOrder ordered name
  | reject e =>
    cases found : s.registry.find? e.field with
    | none =>
      rw [rejectAbsent found]
      exact ordered
    | some r =>
      rw [rejectEq found]
      exact silencedInOrder ordered _
  | abandon name =>
    cases found : s.registry.find? name with
    | none =>
      rw [abandonAbsent found]
      exact silencedInOrder ordered name
    | some r =>
      rw [abandonEq found]
      exact silencedInOrder ordered name
  | forget => exact ordered
  | lapse drawn => exact drawnInOrder ordered drawn
  | @ring _ t scheduler _ drawn _ rang =>
    have kept := expireScheduler { s with scheduler := scheduler } t.payload
    rw [rang] at kept
    exact kept ▸ drawnInOrder ordered drawn
  | @late a _ _ rang =>
    have kept := expireScheduler s a
    rw [rang] at kept
    exact kept ▸ ordered

theorem breakdownInOrder (broke : s.Breakdown s') (ordered : InOrder s.scheduler.queue) : InOrder s'.scheduler.queue := by
  cases broke with
  | enrol entry =>
    obtain ⟨_,_,_,_,_,rfl⟩ := enlisted entry
    exact silencedInOrder ordered _
  | retune entry =>
    obtain ⟨_,_,_,_,_,rfl⟩ := retuned entry
    exact silencedInOrder ordered _
  | note => exact ordered
  | @ring _ t scheduler _ _ drawn _ broke =>
    have kept := expireScheduler { s with scheduler := scheduler } t.payload
    rw [broke] at kept
    exact kept ▸ drawnInOrder ordered drawn
  | @late a _ _ _ broke =>
    have kept := expireScheduler s a
    rw [broke] at kept
    exact kept ▸ ordered

theorem movesInOrder (moves : s.Moves s') (ordered : InOrder s.scheduler.queue) : InOrder s'.scheduler.queue := by
  induction moves with
  | refl => exact ordered
  | tail _ step ih => exact moveInOrder step ih

theorem eventInOrder {e : SessionEvent} (possible : e.Possible s) (ordered : InOrder s.scheduler.queue) :
    InOrder (e.run s).2.scheduler.queue := by
  cases eventEffect possible with
  | leads leads =>
    cases leads with
    | moves moves => exact movesInOrder moves ordered
    | breakdown _ moves broke => exact breakdownInOrder broke (movesInOrder moves ordered)
  | retunes _ _ entry _ post =>
    rw [post]
    obtain ⟨_,_,_,_,_,rfl⟩ := retuned entry
    exact silencedInOrder ordered _

theorem runInOrder {opening : Session} {past} (opened : opening.Opened) (run : opening.Run past s) :
    InOrder s.scheduler.queue := by
  induction run with
  | start =>
    rw [opened.scheduler]
    exact .nil
  | next _ e possible ih => exact eventInOrder possible ih

end Session
end FormGuard
