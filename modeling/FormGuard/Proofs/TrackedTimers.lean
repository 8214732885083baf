import FormGuard.Proofs.SessionMoves
import Mathlib.Data.List.Nodup

/-! The timers that a session tracks. A tracked timer stands in the queue and waits for its field as it is registered,
and the field is pending; where cancelling is obeyed every live timer of the queue is tracked. Each way of losing or
gaining a timer that the operations have keeps this. -/
namespace FormGuard
namespace Scheduler
variable {α : Type}

theorem insertPerm (t : Timer α) (queue : List (Timer α)) : (insert t queue).Perm (t :: queue) := by
  induction queue with
  | nil => exact .refl _
  | cons u rest ih =>
    unfold insert
    split
    · exact .refl _
    · exact (ih.cons u).trans (.swap t u rest)

theorem pruneArmed (s : Scheduler α) : s.prune.armed = s.armed := by
  unfold prune
  split <;> rfl

theorem pruneNow (s : Scheduler α) : s.prune.now = s.now := by
  unfold prune
  split <;> rfl

theorem pruneSublist (s : Scheduler α) : s.prune.queue.Sublist s.queue := by
  unfold prune
  split
  · exact List.filter_sublist
  · exact .refl _

theorem livePruned {s : Scheduler α} {t} (member : t ∈ s.queue) (live : t.isCancelled = false) :
    t ∈ s.prune.queue := by
  unfold prune
  split
  · exact List.mem_filter.mpr ⟨member,by simp [live]⟩
  · exact member

theorem drawnHead {s s' : Scheduler α} {target t} (drawn : s.next? target = some (t,s')) :
    s.queue = t :: s'.queue ∧ s'.armed = s.armed := by
  unfold next? at drawn
  split at drawn
  · contradiction
  · rename_i first rest queue
    split at drawn
    · cases drawn
      exact ⟨queue,rfl⟩
    · contradiction

theorem drawnClock {s s' : Scheduler α} {target t} (drawn : s.next? target = some (t,s')) : s'.now = t.due := by
  unfold next? at drawn
  split at drawn
  · contradiction
  · split at drawn
    · cases drawn
      rfl
    · contradiction

end Scheduler

namespace Session

structure WaitsFor (s : Session) (name : String) (r : Record) (t : Timer Alarm) : Prop where
  queued : t ∈ s.scheduler.queue
  live : t.isCancelled = false
  field : t.payload.field = name
  stamp : t.payload.stamp = r.stamp
  epoch : t.payload.epoch = s.epoch

structure Timed (s : Session) : Prop where
  tracked {name k} : s.timers.get? name = some k →
    ∃ r t, s.registry.find? name = some r ∧ r.state = .pending ∧ s.WaitsFor name r t ∧ t.stamp = k
  queued : ∀ t ∈ s.scheduler.queue, t.stamp < s.scheduler.armed
  distinct : (s.scheduler.queue.map (·.stamp)).Nodup
  obeyed : s.obeysCancel = true →
    ∀ t ∈ s.scheduler.queue, t.isCancelled = false → s.timers.get? t.payload.field = some t.stamp

namespace Timed
variable {s s' : Session} {name : String}

theorem unique (h : s.Timed) {t u} (ht : t ∈ s.scheduler.queue) (hu : u ∈ s.scheduler.queue)
    (same : t.stamp = u.stamp) : t = u :=
  List.inj_on_of_nodup_map h.distinct ht hu same

theorem same (h : s.Timed) (registry : s'.registry = s.registry) (timers : s'.timers = s.timers)
    (queue : s'.scheduler.queue = s.scheduler.queue) (armed : s'.scheduler.armed = s.scheduler.armed)
    (epoch : s'.epoch = s.epoch) (obeys : s'.obeysCancel = s.obeysCancel) : s'.Timed where
  tracked entry := by
    rw [timers] at entry
    obtain ⟨r,t,found,pending,waits,stamp⟩ := h.tracked entry
    refine ⟨r,t,by rw [registry]; exact found,pending,?_,stamp⟩
    exact ⟨by rw [queue]; exact waits.queued,waits.live,waits.field,waits.stamp,by rw [epoch]; exact waits.epoch⟩
  queued := by rw [queue,armed]; exact h.queued
  distinct := by rw [queue]; exact h.distinct
  obeyed := by rw [obeys,queue,timers]; exact h.obeyed

theorem seen (h : s.Timed) {r : Record} (r' : Record) (found : s.registry.find? name = some r)
    (state : r'.state = r.state) (stamp : r'.stamp = r.stamp)
    (registry : ∀ m, s'.registry.find? m = if m = name then some r' else s.registry.find? m)
    (timers : s'.timers = s.timers) (scheduler : s'.scheduler = s.scheduler) (epoch : s'.epoch = s.epoch)
    (obeys : s'.obeysCancel = s.obeysCancel) : s'.Timed where
  tracked := by
    intro m k entry
    rw [timers] at entry
    obtain ⟨r₁,t,found₁,pending,waits,number⟩ := h.tracked entry
    have queued : t ∈ s'.scheduler.queue := by rw [scheduler]; exact waits.queued
    have current : t.payload.epoch = s'.epoch := by rw [epoch]; exact waits.epoch
    by_cases own : m = name
    · subst own
      rw [found] at found₁
      cases found₁
      refine ⟨r',t,by rw [registry,if_pos rfl],state.trans pending,?_,number⟩
      exact ⟨queued,waits.live,waits.field,waits.stamp.trans stamp.symm,current⟩
    · exact ⟨r₁,t,by rw [registry,if_neg own]; exact found₁,pending,
        ⟨queued,waits.live,waits.field,waits.stamp,current⟩,number⟩
  queued := by rw [scheduler]; exact h.queued
  distinct := by rw [scheduler]; exact h.distinct
  obeyed := by rw [obeys,scheduler,timers]; exact h.obeyed

end Timed

theorem silencedNow (s : Session) (name : String) : (s.silenced name).now = s.scheduler.now := by
  unfold silenced
  split
  · rfl
  · split <;> rfl

theorem silencedQueue (s : Session) (name : String) :
    (s.silenced name).queue = s.scheduler.queue.map fun t =>
      if s.obeysCancel = true ∧ s.timers.get? name = some t.stamp then { t with isCancelled := true } else t := by
  unfold silenced
  cases s.timers.get? name with
  | none => simp
  | some stamp =>
    cases s.obeysCancel with
    | false => simp
    | true =>
      refine List.map_congr_left fun t _ => ?_
      simp [eq_comm]

namespace Timed
variable {s s' : Session} {name : String}

theorem hit (h : s.Timed) {t name} (queued : t ∈ s.scheduler.queue)
    (tracked : s.timers.get? name = some t.stamp) : t.payload.field = name := by
  obtain ⟨_,u,_,_,waits,same⟩ := h.tracked tracked
  rw [h.unique queued waits.queued same.symm]
  exact waits.field

theorem silence (h : s.Timed) (others : ∀ m, m ≠ name → s'.registry.find? m = s.registry.find? m)
    (timers : s'.timers = s.timers.drop name) (queue : s'.scheduler.queue = (s.silenced name).queue)
    (armed : s'.scheduler.armed = s.scheduler.armed) (epoch : s'.epoch = s.epoch)
    (obeys : s'.obeysCancel = s.obeysCancel) : s'.Timed where
  tracked := by
    intro m k entry
    rw [timers,Table.getAfterDrop] at entry
    split at entry
    · contradiction
    · rename_i other
      obtain ⟨r,t,found,pending,waits,stamp⟩ := h.tracked entry
      refine ⟨r,t,by rw [others m other]; exact found,pending,⟨?_,waits.live,waits.field,waits.stamp,?_⟩,stamp⟩
      · rw [queue,silencedQueue]
        refine List.mem_map.mpr ⟨t,waits.queued,if_neg fun hit => other ?_⟩
        rw [← waits.field,h.hit waits.queued hit.2]
      · rw [epoch]; exact waits.epoch
  queued := by
    intro u member
    rw [queue,silencedQueue] at member
    obtain ⟨t,ht,rfl⟩ := List.mem_map.mp member
    rw [armed]
    have bound := h.queued t ht
    split <;> exact bound
  distinct := by
    rw [queue,silencedQueue,List.map_map]
    have stamps : ((·.stamp) ∘ fun t : Timer Alarm =>
        if s.obeysCancel = true ∧ s.timers.get? name = some t.stamp then { t with isCancelled := true } else t) =
        (·.stamp) := by
      funext t
      simp only [Function.comp]
      split <;> rfl
    rw [stamps]
    exact h.distinct
  obeyed := by
    intro obedient u member live
    rw [queue,silencedQueue] at member
    rw [obeys] at obedient
    obtain ⟨t,ht,rfl⟩ := List.mem_map.mp member
    split at live
    · contradiction
    · rename_i missed
      rw [if_neg missed,timers,Table.getAfterDrop]
      have own := h.obeyed obedient t ht live
      refine (if_neg fun same => ?_).trans own
      rw [same] at own
      exact missed ⟨obedient,own⟩

theorem arm (h : s.Timed) {r v} (found : s.registry.find? r.name = some r) (pending : r.state = .pending)
    (idle : s.timers.get? r.name = none) : (s.arm r v).Timed := by
  let t : Timer Alarm :=
    ⟨s.scheduler.prune.now + max r.typingLimit.ms 0,s.scheduler.prune.armed,⟨r.stamp,r.name,v,s.epoch⟩,false⟩
  have fresh : t.stamp = s.scheduler.armed := Scheduler.pruneArmed _
  have queue : (s.arm r v).scheduler.queue.Perm (t :: s.scheduler.prune.queue) := Scheduler.insertPerm _ _
  have timers : (s.arm r v).timers = s.timers.put r.name t.stamp := rfl
  have earlier : ∀ u ∈ s.scheduler.prune.queue, u.stamp < t.stamp := by
    intro u member
    rw [fresh]
    exact h.queued u (s.scheduler.pruneSublist.subset member)
  refine ⟨?_,?_,?_,?_⟩
  · intro m k entry
    rw [timers,Table.getAfterPut] at entry
    split at entry
    · rename_i same
      cases entry
      rw [same]
      exact ⟨r,t,found,pending,⟨queue.mem_iff.mpr (by simp),rfl,rfl,rfl,rfl⟩,rfl⟩
    · obtain ⟨r',u,found',pending',waits,stamp⟩ := h.tracked entry
      have member := Scheduler.livePruned waits.queued waits.live
      exact ⟨r',u,found',pending',
        ⟨queue.mem_iff.mpr (List.mem_cons_of_mem _ member),waits.live,waits.field,waits.stamp,waits.epoch⟩,stamp⟩
  · intro u member
    have armed : (s.arm r v).scheduler.armed = t.stamp + 1 := rfl
    rw [armed]
    rcases List.mem_cons.mp (queue.mem_iff.mp member) with rfl | inside
    · omega
    · have := earlier u inside
      omega
  · rw [(queue.map _).nodup_iff,List.map_cons,List.nodup_cons]
    refine ⟨fun member => ?_,h.distinct.sublist (s.scheduler.pruneSublist.map _)⟩
    obtain ⟨u,inside,same⟩ := List.mem_map.mp member
    have := earlier u inside
    omega
  · intro obedient u member live
    rw [timers,Table.getAfterPut]
    rcases List.mem_cons.mp (queue.mem_iff.mp member) with rfl | inside
    · exact if_pos rfl
    · have own := h.obeyed obedient u (s.scheduler.pruneSublist.subset inside) live
      refine (if_neg fun same => ?_).trans own
      rw [same,idle] at own
      contradiction

theorem leaves (h : s.Timed) {t} (queue : s.scheduler.queue = t :: s'.scheduler.queue)
    (armed : s'.scheduler.armed = s.scheduler.armed) (epoch : s'.epoch = s.epoch)
    (gone : s'.timers.get? t.payload.field ≠ some t.stamp)
    (kept : ∀ {m k}, s'.timers.get? m = some k →
      s.timers.get? m = some k ∧ s'.registry.find? m = s.registry.find? m)
    (obeyed : s'.obeysCancel = true → ∀ u ∈ s'.scheduler.queue, u.isCancelled = false →
      s'.timers.get? u.payload.field = some u.stamp) : s'.Timed where
  tracked := by
    intro m k entry
    obtain ⟨before,registry⟩ := kept entry
    obtain ⟨r,u,found,pending,waits,stamp⟩ := h.tracked before
    refine ⟨r,u,by rw [registry]; exact found,pending,
      ⟨?_,waits.live,waits.field,waits.stamp,by rw [epoch]; exact waits.epoch⟩,stamp⟩
    have member := waits.queued
    rw [queue] at member
    rcases List.mem_cons.mp member with rfl | inside
    · rw [waits.field,stamp] at gone
      exact absurd entry gone
    · exact inside
  queued u member := by
    rw [armed]
    exact h.queued u (by rw [queue]; exact List.mem_cons_of_mem _ member)
  distinct := by
    have stamps := h.distinct
    rw [queue,List.map_cons] at stamps
    exact (List.nodup_cons.mp stamps).2
  obeyed := obeyed

theorem passed (h : s.Timed) {t} (queue : s.scheduler.queue = t :: s'.scheduler.queue)
    (untracked : s.timers.get? t.payload.field ≠ some t.stamp) (registry : s'.registry = s.registry)
    (timers : s'.timers = s.timers) (armed : s'.scheduler.armed = s.scheduler.armed)
    (epoch : s'.epoch = s.epoch) (obeys : s'.obeysCancel = s.obeysCancel) : s'.Timed := by
  refine h.leaves queue armed epoch (by rwa [timers]) (fun entry => ⟨by rwa [← timers],by rw [registry]⟩) ?_
  intro obedient u member live
  rw [timers]
  exact h.obeyed (by rwa [← obeys]) u (by rw [queue]; exact List.mem_cons_of_mem _ member) live

theorem drawn (h : s.Timed) {t} (queue : s.scheduler.queue = t :: s'.scheduler.queue)
    (live : t.isCancelled = false)
    (others : ∀ m, m ≠ t.payload.field → s'.registry.find? m = s.registry.find? m)
    (timers : s'.timers = s.timers.drop t.payload.field)
    (armed : s'.scheduler.armed = s.scheduler.armed) (epoch : s'.epoch = s.epoch)
    (obeys : s'.obeysCancel = s.obeysCancel) : s'.Timed := by
  refine h.leaves queue armed epoch (by simp [timers,Table.getDropped]) ?_ ?_
  · intro m k entry
    rw [timers,Table.getAfterDrop] at entry
    split at entry
    · contradiction
    · rename_i other
      exact ⟨entry,others m other⟩
  · intro obedient u member waiting
    rw [obeys] at obedient
    have own := h.obeyed obedient u (by rw [queue]; exact List.mem_cons_of_mem _ member) waiting
    rw [timers,Table.getAfterDrop]
    refine (if_neg fun same => ?_).trans own
    -- The timer that leaves was tracked for this field, so the two would bear the same number.
    have first := h.obeyed obedient t (by rw [queue]; simp) live
    rw [same,first] at own
    have stamps := h.distinct
    rw [queue,List.map_cons] at stamps
    exact (List.nodup_cons.mp stamps).1 (List.mem_map.mpr ⟨u,member,(Option.some.inj own).symm⟩)

theorem released (h : s.Timed) (free : s.obeysCancel = false)
    (others : ∀ m, m ≠ name → s'.registry.find? m = s.registry.find? m)
    (timers : s'.timers = s.timers.drop name) (queue : s'.scheduler.queue = s.scheduler.queue)
    (armed : s'.scheduler.armed = s.scheduler.armed) (epoch : s'.epoch = s.epoch)
    (obeys : s'.obeysCancel = s.obeysCancel) : s'.Timed := by
  have silent : (s.silenced name).queue = s.scheduler.queue := by
    rw [silencedQueue]
    simp [free]
  exact h.silence others timers (by rw [queue,silent]) armed epoch obeys

end Timed

theorem postponedTimer (s : Session) {name : String} {r : Record} (named : r.name = name) (o : FieldOutcome) (v : Value) :
    let s' := (((s.note name r o).clearMessage name).store { r.withVerdict o with state := .pending }).arm
      { r.withVerdict o with state := .pending } v
    ⟨s.scheduler.now + max r.typingLimit.ms 0,s.scheduler.armed,⟨r.stamp,name,v,s.epoch⟩,false⟩ ∈ s'.scheduler.queue ∧
      s'.timers = (s.timers.drop name).put name s.scheduler.armed := by
  have now : (s.silenced name).prune.now = s.scheduler.now := (Scheduler.pruneNow _).trans (silencedNow s name)
  have armed : (s.silenced name).prune.armed = s.scheduler.armed :=
    (Scheduler.pruneArmed _).trans (silencedArmed s name)
  rw [noteEq,← now,← armed,← named]
  exact ⟨(Scheduler.insertPerm _ _).mem_iff.mpr List.mem_cons_self,rfl⟩

end Session
end FormGuard
