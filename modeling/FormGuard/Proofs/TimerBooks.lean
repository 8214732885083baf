import FormGuard.Proofs.ClockRuns
import FormGuard.Proofs.HeapOrder
import Mathlib.Data.List.Nodup
import Mathlib.Data.List.Count

/-! The books of timers are sound after every run: the queue is a heap that holds each timer at most once, a timer's flag
says whether it is there, and the count of the cancelled ones is exact. So the queue is never cleared too late: after
each arming less than half of it is cancelled. -/
namespace FormGuard
namespace Agenda
variable {α : Type}

structure Sound (a : Agenda α) : Prop where
  heap : Heap.Ordered 0 a.queue
  once : (a.queue.toList.map (·.stamp)).Nodup
  known : ∀ d ∈ a.queue.toList, ∃ t, a.timers[d.stamp]? = some t ∧ t.due = d.due
  flags : ∀ k t, a.timers[k]? = some t → (t.isQueued = true ↔ k ∈ a.queue.toList.map (·.stamp))
  count : a.cancelled = a.queue.toList.countP (a.isCancelled ·.stamp)

theorem startSound : (start : Agenda α).Sound where
  heap k _ inside := absurd inside (Nat.not_lt_zero k)
  once := .nil
  known _ member := absurd member List.not_mem_nil
  flags k t found := by
    have none : (start : Agenda α).timers[k]? = none := Array.getElem?_empty
    rw [none] at found
    contradiction
  count := rfl

/-! Flags of the timers on record. -/

theorem unqueueAt (timers : Array Appointment) (stamp k : Nat) :
    (unqueue timers stamp)[k]? =
      (timers[k]?).map fun t => { t with isQueued := t.isQueued && !decide (stamp = k) } := by
  unfold unqueue
  rw [Array.getElem?_modify]
  split <;> cases timers[k]? <;> simp_all

theorem unqueueAllAt (timers : Array Appointment) (ds : List (Slot α)) (k : Nat) :
    (ds.foldl (fun timers d => unqueue timers d.stamp) timers)[k]? =
      (timers[k]?).map fun t => { t with isQueued := t.isQueued && !decide (k ∈ ds.map (·.stamp)) } := by
  induction ds generalizing timers with
  | nil => simp
  | cons d rest ih =>
    rw [List.foldl_cons,ih,unqueueAt]
    cases timers[k]? with
    | none => rfl
    | some t =>
      by_cases own : d.stamp = k
      · simp [own]
      · simp [own,Ne.symm own]

theorem unqueueAllSize (timers : Array Appointment) (ds : List (Slot α)) :
    (ds.foldl (fun timers d => unqueue timers d.stamp) timers).size = timers.size := by
  induction ds generalizing timers with
  | nil => rfl
  | cons d rest ih =>
    rw [List.foldl_cons,ih]
    exact Array.size_modify

theorem isCancelledCongr {a b : Agenda α} {k : Nat}
    (same : (b.timers[k]?).map (·.isCancelled) = (a.timers[k]?).map (·.isCancelled)) : b.isCancelled k = a.isCancelled k := by
  unfold isCancelled
  cases before : a.timers[k]? <;> cases now : b.timers[k]? <;> simp_all

theorem pruneTimers (a : Agenda α) (k : Nat) :
    a.prune.timers[k]? = (a.timers[k]?).map fun t =>
      { t with isQueued := t.isQueued &&
        !decide (k ∈ (a.queue.toList.filter (a.isCancelled ·.stamp)).map (·.stamp)) } := by
  unfold prune
  dsimp only
  rw [← Array.foldl_toList,Array.toList_filter,unqueueAllAt]

theorem pruneSize (a : Agenda α) : a.prune.timers.size = a.timers.size := by
  unfold prune
  dsimp only
  rw [← Array.foldl_toList,unqueueAllSize]

theorem pruneCancelled (a : Agenda α) (k : Nat) : a.prune.isCancelled k = a.isCancelled k := by
  apply isCancelledCongr
  rw [pruneTimers,Option.map_map]
  rfl

theorem pruneQueue (a : Agenda α) : a.prune.queue.toList.Perm (a.queue.toList.filter (!a.isCancelled ·.stamp)) := by
  unfold prune
  dsimp only
  rw [← Array.toList_filter]
  exact Heap.ofArrayPerm _

theorem cancelTimers (a : Agenda α) (stamp k : Nat) :
    (a.cancel stamp).timers[k]? =
      (a.timers[k]?).map fun t => { t with isCancelled := t.isCancelled || decide (stamp = k) } := by
  unfold cancel
  cases found : a.timers[stamp]? with
  | none =>
    dsimp only
    by_cases own : stamp = k
    · subst own
      simp [found]
    · cases a.timers[k]? <;> simp [own]
  | some t =>
    dsimp only
    rw [Array.getElem?_modify]
    split <;> cases a.timers[k]? <;> simp_all

theorem cancelSize (a : Agenda α) (stamp : Nat) : (a.cancel stamp).timers.size = a.timers.size := by
  unfold cancel
  split
  · rfl
  · exact Array.size_modify

theorem cancelCancelled (a : Agenda α) (stamp k : Nat) :
    (a.cancel stamp).isCancelled k = (a.isCancelled k || decide (stamp = k ∧ k < a.timers.size)) := by
  unfold isCancelled
  rw [cancelTimers]
  by_cases inside : k < a.timers.size
  · simp [inside]
  · simp [inside]

theorem tidied {P : Agenda α → Prop} {a : Agenda α} (now : P a) (pruned : P a.prune) :
    P (if a.queue.size < 2 * a.cancelled then a.prune else a) := by
  split
  · exact pruned
  · exact now

theorem enterTimers (a : Agenda α) (delay : Int) (payload : α) :
    (a.enter delay payload).timers = a.timers.push ⟨a.now + max delay 0,false,true⟩ := rfl

theorem enterQueue (a : Agenda α) (delay : Int) (payload : α) :
    (a.enter delay payload).queue.toList.Perm (⟨a.now + max delay 0,a.timers.size,payload⟩ :: a.queue.toList) :=
  Heap.insertPerm _ _

namespace Sound
variable {a b : Agenda α}

theorem stampKnown (h : a.Sound) {d : Slot α} (member : d ∈ a.queue.toList) : d.stamp < a.timers.size := by
  obtain ⟨t,found,_⟩ := h.known d member
  exact (Array.getElem?_eq_some_iff.mp found).1

theorem prune (h : a.Sound) : a.prune.Sound where
  heap := Heap.ofArrayOrdered _
  once := (a.pruneQueue.map _).nodup_iff.mpr (h.once.sublist (List.filter_sublist.map _))
  known d member := by
    obtain ⟨t,found,due⟩ := h.known d (List.mem_filter.mp (a.pruneQueue.mem_iff.mp member)).1
    rw [pruneTimers,found]
    exact ⟨_,rfl,due⟩
  flags k t found := by
    rw [pruneTimers] at found
    obtain ⟨u,before,rfl⟩ := Option.map_eq_some_iff.mp found
    have flag := h.flags k u before
    have same (d : Slot α) (own : d.stamp = k) : a.isCancelled d.stamp = a.isCancelled k := by rw [own]
    rw [(a.pruneQueue.map _).mem_iff]
    simp only [Bool.and_eq_true,flag,List.mem_map,List.mem_filter,Bool.not_eq_true',decide_eq_false_iff_not]
    constructor
    · rintro ⟨⟨d,member,own⟩,kept⟩
      refine ⟨d,⟨member,?_⟩,own⟩
      by_contra gone
      exact kept ⟨d,⟨member,by simpa using gone⟩,own⟩
    · rintro ⟨d,⟨member,live⟩,own⟩
      refine ⟨⟨d,member,own⟩,?_⟩
      rintro ⟨e,⟨_,gone⟩,other⟩
      rw [same e other,← same d own,live] at gone
      contradiction
  count := by
    have none : a.prune.queue.toList.countP (a.prune.isCancelled ·.stamp) = 0 := by
      refine List.countP_eq_zero.mpr fun d member => ?_
      rw [pruneCancelled]
      simpa using (List.mem_filter.mp (a.pruneQueue.mem_iff.mp member)).2
    rw [none]
    rfl

theorem enterCancelled (h : a.Sound) (delay : Int) (payload : α) {d : Slot α} (member : d ∈ a.queue.toList) :
    (a.enter delay payload).isCancelled d.stamp = a.isCancelled d.stamp := by
  apply isCancelledCongr
  rw [enterTimers,Array.getElem?_push,if_neg (Nat.ne_of_lt (h.stampKnown member))]

theorem newLive (a : Agenda α) (delay : Int) (payload : α) :
    (a.enter delay payload).isCancelled a.timers.size = false := by
  unfold isCancelled
  rw [enterTimers,Array.getElem?_push,if_pos rfl]
  rfl

theorem enter (h : a.Sound) (delay : Int) (payload : α) : (a.enter delay payload).Sound where
  heap := Heap.insertOrdered h.heap _
  once := by
    rw [((a.enterQueue delay payload).map _).nodup_iff,List.map_cons,List.nodup_cons]
    refine ⟨?_,h.once⟩
    intro member
    obtain ⟨d,held,own⟩ := List.mem_map.mp member
    have earlier := h.stampKnown held
    rw [own] at earlier
    exact absurd earlier (Nat.lt_irrefl _)
  known d member := by
    rw [enterTimers,Array.getElem?_push]
    rcases List.mem_cons.mp ((a.enterQueue delay payload).mem_iff.mp member) with rfl | held
    · exact ⟨_,if_pos rfl,rfl⟩
    · rw [if_neg (Nat.ne_of_lt (h.stampKnown held))]
      exact h.known d held
  flags k t found := by
    rw [enterTimers,Array.getElem?_push] at found
    rw [((a.enterQueue delay payload).map _).mem_iff,List.map_cons,List.mem_cons]
    split at found
    · rename_i own
      cases found
      simp [own]
    · rename_i other
      simp [other,h.flags k t found]
  count := by
    rw [(a.enterQueue delay payload).countP_eq,List.countP_cons_of_neg (by simp [newLive])]
    rw [List.countP_congr fun d member => by rw [h.enterCancelled delay payload member]]
    exact h.count

theorem callLater (h : a.Sound) (delay : Int) (payload : α) : (a.callLater delay payload).Sound :=
  (tidied h h.prune).enter delay payload

theorem countMarked {stamps : List Nat} (once : stamps.Nodup) (p : Nat → Bool) (k : Nat) :
    stamps.countP (fun j => p j || decide (k = j)) = stamps.countP p + if !p k && decide (k ∈ stamps) then 1 else 0 := by
  induction stamps with
  | nil => simp
  | cons j rest ih =>
    obtain ⟨fresh,distinct⟩ := List.nodup_cons.mp once
    rw [List.countP_cons,List.countP_cons,ih distinct]
    by_cases own : k = j
    · subst own
      cases p k <;> simp [fresh]
    · simp [own]
      omega

theorem cancel (h : a.Sound) (stamp : Nat) : (a.cancel stamp).Sound where
  heap := by
    rw [cancelQueue]
    exact h.heap
  once := by
    rw [cancelQueue]
    exact h.once
  known d member := by
    rw [cancelQueue] at member
    obtain ⟨t,found,due⟩ := h.known d member
    rw [cancelTimers,found]
    exact ⟨_,rfl,due⟩
  flags k t found := by
    rw [cancelTimers] at found
    obtain ⟨u,before,rfl⟩ := Option.map_eq_some_iff.mp found
    rw [cancelQueue]
    exact h.flags k u before
  count := by
    have marked : (a.cancel stamp).queue.toList.countP ((a.cancel stamp).isCancelled ·.stamp) =
        (a.queue.toList.map (·.stamp)).countP fun j => a.isCancelled j || decide (stamp = j) := by
      rw [cancelQueue,List.countP_map]
      refine List.countP_congr fun d member => ?_
      simp [cancelCancelled,h.stampKnown member]
    have old : a.queue.toList.countP (a.isCancelled ·.stamp) = (a.queue.toList.map (·.stamp)).countP a.isCancelled := by
      rw [List.countP_map]
      rfl
    rw [marked,countMarked h.once,← old]
    have count := h.count
    unfold Agenda.cancel
    cases found : a.timers[stamp]? with
    | none =>
      have absent : stamp ∉ a.queue.toList.map (·.stamp) := by
        intro member
        obtain ⟨d,held,rfl⟩ := List.mem_map.mp member
        obtain ⟨t,known,_⟩ := h.known d held
        rw [found] at known
        contradiction
      simp [absent,count]
    | some t =>
      have flag : t.isQueued = decide (stamp ∈ a.queue.toList.map (·.stamp)) := by
        simpa using Bool.eq_iff_iff.mpr ((h.flags stamp t found).trans decide_eq_true_iff.symm)
      have gone : a.isCancelled stamp = t.isCancelled := by
        unfold isCancelled
        rw [found]
        rfl
      rw [gone,← flag]
      dsimp only
      split <;> simp_all

end Sound

theorem drawnBooks {a b : Agenda α} {target : Int} {d : Slot α} (drawn : a.draw? target = some (d,b)) :
    Heap.takeFirst? a.queue = some (d,b.queue) ∧ d.due ≤ target ∧ b.now = d.due ∧
      b.timers = unqueue a.timers d.stamp ∧
      b.cancelled = if a.isCancelled d.stamp then a.cancelled - 1 else a.cancelled := by
  unfold draw? at drawn
  split at drawn
  · contradiction
  · rename_i first rest taken
    split at drawn
    · rename_i due
      cases drawn
      exact ⟨taken,due,rfl,rfl,rfl⟩
    · contradiction

theorem drawnCancelled {a b : Agenda α} {target : Int} {d : Slot α} (drawn : a.draw? target = some (d,b)) (k : Nat) :
    b.isCancelled k = a.isCancelled k := by
  apply isCancelledCongr
  rw [(drawnBooks drawn).2.2.2.1,unqueueAt,Option.map_map]
  rfl

namespace Sound
variable {a b : Agenda α}

theorem draw {target : Int} {d : Slot α} (drawn : a.draw? target = some (d,b)) (h : a.Sound) : b.Sound := by
  obtain ⟨taken,_,_,timers,cancelled⟩ := drawnBooks drawn
  have perm := drawnPerm drawn
  have stamps := perm.map (·.stamp)
  rw [List.map_cons] at stamps
  have distinct := List.nodup_cons.mp (stamps.nodup_iff.mp h.once)
  exact {
    heap := Heap.takeFirstOrdered h.heap taken
    once := distinct.2
    known := by
      intro e member
      obtain ⟨t,found,due⟩ := h.known e (perm.mem_iff.mpr (List.mem_cons_of_mem _ member))
      rw [timers,unqueueAt,found]
      exact ⟨_,rfl,due⟩
    flags := by
      intro k t found
      rw [timers,unqueueAt] at found
      obtain ⟨u,before,rfl⟩ := Option.map_eq_some_iff.mp found
      have flag := h.flags k u before
      rw [stamps.mem_iff,List.mem_cons] at flag
      simp only [Bool.and_eq_true,flag,Bool.not_eq_true',decide_eq_false_iff_not]
      constructor
      · rintro ⟨own | held,other⟩
        · exact absurd own.symm other
        · exact held
      · intro held
        refine ⟨.inr held,?_⟩
        rintro rfl
        exact distinct.1 held
    count := by
      have count := h.count
      rw [perm.countP_eq,List.countP_cons] at count
      have same : b.queue.toList.countP (b.isCancelled ·.stamp) = b.queue.toList.countP (a.isCancelled ·.stamp) :=
        List.countP_congr fun e _ => by rw [drawnCancelled drawn]
      rw [cancelled,same,count]
      split <;> simp }

theorem stop (h : a.Sound) (time : Int) : ({ a with now := time } : Agenda α).Sound := ⟨h.heap,h.once,h.known,h.flags,h.count⟩

theorem kept : Clock.Kept (Sound (α := α)) where
  call delay payload h := h.callLater delay payload
  cancel stamp h := h.cancel stamp
  draw drawn h := h.draw drawn
  stop _ h := h.stop _

/-! What is not cancelled is pending. -/

theorem pendingQueued (h : a.Sound) : (a.queued : Int) = a.pending + a.cancelled := by
  have parts := List.length_eq_countP_add_countP (fun d : Slot α => a.isCancelled d.stamp) (l := a.queue.toList)
  simp only [Bool.not_eq_true,Bool.decide_eq_false] at parts
  rw [h.count]
  unfold queued pending
  rw [← Array.countP_toList,← Array.length_toList]
  omega

theorem enterBounded (h : a.Sound) (delay : Int) (payload : α) (few : 2 * a.cancelled ≤ a.queued) :
    ((a.enter delay payload).queued : Int) ≤ 2 * (a.enter delay payload).pending - 1 := by
  have parts := (h.enter delay payload).pendingQueued
  have longer : (a.enter delay payload).queued = a.queued + 1 := by
    simpa [queued] using (a.enterQueue delay payload).length_eq
  have same : (a.enter delay payload).cancelled = a.cancelled := rfl
  omega

theorem callBounded (h : a.Sound) (delay : Int) (payload : α) :
    ((a.callLater delay payload).queued : Int) ≤ 2 * (a.callLater delay payload).pending - 1 := by
  unfold Agenda.callLater
  split
  · have none : a.prune.cancelled = 0 := rfl
    exact h.prune.enterBounded delay payload (by omega)
  · rename_i few
    exact h.enterBounded delay payload (Int.not_lt.mp few)

end Sound
end Agenda

namespace Clock
variable {α : Type}

theorem soundAfter (es : List (ClockEvent α)) : (after es).agenda.Sound := Agenda.Sound.kept.run Agenda.startSound es

theorem booksSound (es : List (ClockEvent α)) :
    (after es).agenda.Sound ∧ ∀ delay payload,
      ((after (.arm delay payload :: es)).agenda.queued : Int) ≤
        2 * (after (.arm delay payload :: es)).agenda.pending - 1 :=
  ⟨soundAfter es,fun delay payload => (soundAfter es).callBounded delay payload⟩

end Clock
end FormGuard
