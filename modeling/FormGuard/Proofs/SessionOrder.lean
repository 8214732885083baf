import FormGuard.Proofs.FiledRecords
import FormGuard.Proofs.TrackedTimers

/-! What holds of every session that anything at all has happened to, breakdowns and late alarms included: its records
and entries are filed and its timers tracked. -/
namespace FormGuard
namespace Session

structure Ordered (s : Session) : Prop extends s.Filed, s.Timed

theorem Judges.others {s s' r o state} (judged : Judges s s' r o state) :
    ∀ m, m ≠ r.name → s'.registry.find? m = s.registry.find? m :=
  fun m other => (judged.registry m).trans (if_neg other)

theorem Marks.others {s s' name r state dirty touched} (marked : Marks s s' name r state dirty touched) :
    ∀ m, m ≠ r.name → s'.registry.find? m = s.registry.find? m :=
  fun m other => (marked.registry m).trans (if_neg other)

theorem enlistedProper {s s' : Session} {attributes r} (h : s.Filed) (entry : s.enlist attributes = (.ok r,s')) :
    s'.Proper r.name r ∧ (s.catalog.SameBook s'.catalog ∧ s'.catalog.Remembers) ∧ s'.made = s.made + 1 := by
  obtain ⟨stamp,_,p,pipeline,read,rfl⟩ := enlisted entry
  have kept := Catalog.parseKeeps h.remembers r.rules
  have made : r.stamp < s.made + 1 := by omega
  refine ⟨⟨rfl,made,p,pipeline,?_⟩,kept,rfl⟩
  exact (Catalog.parseSameBook h.remembers kept.2 kept.1 r.rules).trans read

theorem reboundSame (r : Record) (rules : String) : (r.rebind rules).name = r.name ∧
    (r.rebind rules).stamp = r.stamp ∧ (r.rebind rules).state = r.state ∧ (r.rebind rules).rules = rules := by
  unfold Record.rebind
  split
  · rename_i same
    exact ⟨rfl,rfl,rfl,same.symm⟩
  · exact ⟨rfl,rfl,rfl,rfl⟩

theorem retunedProper {s s' : Session} {name rules r} (h : s.Filed) (entry : s.retune name rules = (.ok r,s')) :
    s'.Proper name r ∧ (s.catalog.SameBook s'.catalog ∧ s'.catalog.Remembers) ∧ s'.made = s.made := by
  obtain ⟨r₀,p,found,read,rfl,rfl⟩ := retuned entry
  have kept := Catalog.parseKeeps h.remembers rules
  have before := h.proper found
  obtain ⟨named,stamp,_,spelled⟩ := reboundSame r₀ rules
  have made : (r₀.rebind rules).stamp < s.made := by
    rw [stamp]
    exact before.made
  have again : ((s.catalog.parse rules).2.parse (r₀.rebind rules).rules).1 = .ok p := by
    rw [spelled]
    exact (Catalog.parseSameBook h.remembers kept.2 kept.1 rules).trans read
  exact ⟨⟨named.trans before.named,made,p,rfl,again⟩,kept,rfl⟩

namespace Ordered
variable {s s' : Session}

theorem beside (h : s.Ordered) (same : s.Beside s') : s'.Ordered where
  toFiled := h.toFiled.beside same
  toTimed := h.toTimed.same same.registry same.timers same.queue same.armed same.epoch same.obeysCancel

theorem enlisted (h : s.Ordered) {attributes r} (entry : s.enlist attributes = (.ok r,s')) : s'.Ordered := by
  obtain ⟨proper,book,made⟩ := enlistedProper h.toFiled entry
  obtain ⟨_,_,_,_,_,rfl⟩ := Session.enlisted entry
  refine ⟨h.put book (by omega) proper (fun m => Registry.findUpsert) ?_,?_⟩
  · exact h.summary.same (Summary.attachEntries _ _)
  · exact h.toTimed.silence (fun m other => Registry.findUpsert.trans (if_neg other)) rfl rfl
      (silencedArmed s _) rfl rfl

theorem retuned (h : s.Ordered) {name rules r} (entry : s.retune name rules = (.ok r,s')) : s'.Ordered := by
  obtain ⟨proper,book,made⟩ := retunedProper h.toFiled entry
  have named := proper.named
  obtain ⟨_,_,_,_,_,rfl⟩ := Session.retuned entry
  have registry (m : String) : ((s.registry.upsert r).find? m) = if m = name then some r else s.registry.find? m := by
    rw [Registry.findUpsert,named]
  refine ⟨h.put book (by omega) proper registry (h.summary.same rfl),?_⟩
  exact h.toTimed.silence (fun m other => (registry m).trans (if_neg other)) rfl rfl (silencedArmed s _) rfl rfl

theorem accept (h : s.Ordered) {r} (found : s.registry.find? r.name = some r) (o : FieldOutcome) :
    (s.accept r o).Ordered := by
  have registry (m : String) : (s.accept r o).registry.find? m =
      if m = r.name then some (r.withVerdict o) else s.registry.find? m := Registry.findUpsert
  have still : (s.accept r o).Proper r.name r := (h.proper found).still rfl rfl
  have own : (s.accept r o).Proper r.name (r.withVerdict o) := still.like rfl rfl rfl rfl
  refine ⟨h.put (h.book rfl) (Nat.le_refl _) own registry (h.summary.upsert _),?_⟩
  exact h.toTimed.seen (r.withVerdict o) found rfl rfl registry rfl rfl rfl rfl

theorem marked (h : s.Ordered) {name r event} (found : s.registry.find? name = some r) :
    (s.store (mark r event)).Ordered := by
  have registry (m : String) : (s.store (mark r event)).registry.find? m =
      if m = name then some (mark r event) else s.registry.find? m := by
    refine Registry.findUpsert.trans ?_
    rw [markName,(h.proper found).named]
  refine ⟨h.toFiled.marks (markMarks found) rfl rfl,?_⟩
  exact h.toTimed.seen (mark r event) found (markState r event) (markStamp r event) registry rfl rfl rfl rfl

theorem judged (h : s.Ordered) {name r₀ event o state} (found : s.registry.find? name = some r₀)
    (judged : Judges s s' (mark r₀ event) o state) (catalog : s'.catalog = s.catalog) (made : s'.made = s.made)
    (timers : s'.timers = s.timers.drop name) (queue : s'.scheduler.queue = (s.silenced name).queue)
    (armed : s'.scheduler.armed = s.scheduler.armed) (epoch : s'.epoch = s.epoch)
    (obeys : s'.obeysCancel = s.obeysCancel) : s'.Ordered := by
  have proper := h.proper found
  have named : (mark r₀ event).name = name := (markName r₀ event).trans proper.named
  have still : s'.Proper name r₀ := proper.still catalog made
  have own : s'.Proper (mark r₀ event).name (mark r₀ event) := by
    rw [named]
    exact still.like (markName r₀ event) (markStamp r₀ event) (markRules r₀ event) (markPipeline r₀ event)
  refine ⟨h.toFiled.judges judged own (h.book catalog) (Nat.le_of_eq made.symm),?_⟩
  exact h.toTimed.silence (fun m other => judged.others m (by rwa [named])) timers queue armed epoch obeys

theorem removed (h : s.Ordered) (name : String) : (s.remove name).Ordered := by
  rw [removeEq]
  refine ⟨⟨h.remembers,h.keyed,?_,h.summary.clear name⟩,?_⟩
  · intro m r found
    have entry : (s.registry.remove name).find? m = some r := found
    rw [Registry.findRemove] at entry
    split at entry
    · contradiction
    · exact (h.proper entry).still rfl rfl
  · exact h.toTimed.silence (fun m other => Registry.findRemove.trans (if_neg other)) rfl rfl
      (silencedArmed s name) rfl rfl

theorem cancelled (h : s.Ordered) (name : String) :
    { s with timers := s.timers.drop name, scheduler := s.silenced name }.Ordered where
  toFiled := h.toFiled.untouched rfl rfl rfl rfl
  toTimed := h.toTimed.silence (fun _ _ => rfl) rfl rfl (silencedArmed s name) rfl rfl

theorem restated (h : s.Ordered) {name r state dirty touched} (marked : Marks s s' name r state dirty touched)
    (catalog : s'.catalog = s.catalog) (made : s'.made = s.made)
    (timers : s'.timers = s.timers.drop name) (queue : s'.scheduler.queue = (s.silenced name).queue)
    (armed : s'.scheduler.armed = s.scheduler.armed) (epoch : s'.epoch = s.epoch)
    (obeys : s'.obeysCancel = s.obeysCancel) : s'.Ordered := by
  have named := (h.proper marked.found).named
  refine ⟨h.toFiled.marks marked catalog made,?_⟩
  exact h.toTimed.silence (fun m other => marked.others m (by rwa [named])) timers queue armed epoch obeys

theorem rejected (h : s.Ordered) (e : SummaryEntry) : (s.reject e).Ordered := by
  cases found : s.registry.find? e.field with
  | none =>
    rw [rejectAbsent found]
    exact h
  | some r =>
    have marked := rejectMarks found
    rw [rejectEq found] at marked ⊢
    exact h.restated marked rfl rfl rfl rfl (silencedArmed s _) rfl rfl

theorem abandoned (h : s.Ordered) (name : String) : (s.abandon name).Ordered := by
  cases found : s.registry.find? name with
  | none =>
    rw [abandonAbsent found]
    exact h.cancelled name
  | some r =>
    have marked := abandonMarks found (h.proper found).named
    rw [abandonEq found] at marked ⊢
    exact h.restated marked rfl rfl rfl rfl (silencedArmed s _) rfl rfl

theorem forgotten (h : s.Ordered) (idle : s.timers = []) :
    { s with epoch := s.epoch + 1, registry := [], summary := .empty }.Ordered := by
  refine ⟨⟨h.remembers,h.keyed,fun found => ?_,?_⟩,⟨fun entry => ?_,h.queued,h.distinct,h.obeyed⟩⟩
  · contradiction
  · exact ⟨fun found => by contradiction,List.nodup_nil⟩
  · have none : s.timers.get? _ = some _ := entry
    rw [idle] at none
    contradiction

theorem filedHeard (h : s.Filed) {a : Alarm} {r o} (found : s.registry.find? a.field = some r)
    (answered : (s.untrack a.field).judge r a.value = .ok o) :
    (((s.untrack a.field).accept r o).present (r.withVerdict o) o).Filed := by
  have judged := heardJudges answered
  have named := (h.proper found).named
  rw [presentEq] at judged ⊢
  refine h.judges judged ?_ (h.book rfl) (Nat.le_refl _)
  rw [named]
  exact (h.proper found).still rfl rfl

theorem rang (h : s.Ordered) {target t scheduler} (drawn : s.scheduler.next? target = some (t,scheduler))
    (live : t.isCancelled = false) : ({ s with scheduler := scheduler }.expire t.payload).2.Ordered := by
  obtain ⟨queue,armed⟩ := Scheduler.drawnHead drawn
  -- A timer whose time has come is out of the queue before it goes off.
  have filed : Filed { s with scheduler := scheduler } := h.toFiled.untouched rfl rfl rfl rfl
  have outcomes := rung { s with scheduler := scheduler } t.payload
  generalize { s with scheduler := scheduler }.expire t.payload = answer at outcomes
  cases outcomes with
  | stale stale =>
    refine ⟨filed,h.toTimed.passed queue (fun tracked => ?_) rfl rfl armed rfl rfl⟩
    obtain ⟨r,u,found,_,waits,stamp⟩ := h.tracked tracked
    have same : t = u := h.unique (by rw [queue]; simp) waits.queued stamp.symm
    exact stale r found ⟨same ▸ waits.epoch,same ▸ waits.stamp⟩
  | broken found _ _ failed =>
    refine ⟨filed.untouched rfl rfl rfl rfl,?_⟩
    exact h.toTimed.drawn queue live (fun _ _ => rfl) rfl armed rfl rfl
  | @heard r o found _ _ answered =>
    have judged := heardJudges answered
    have own := filedHeard filed found answered
    have named := (filed.proper found).named
    rw [presentEq] at judged own ⊢
    exact ⟨own,h.toTimed.drawn queue live (fun m other => judged.others m (by rwa [named])) rfl armed rfl rfl⟩

theorem rangLate (h : s.Ordered) (free : s.obeysCancel = false) (a : Alarm) : (s.expire a).2.Ordered := by
  have outcomes := rung s a
  generalize s.expire a = answer at outcomes
  cases outcomes with
  | stale => exact h
  | broken =>
    refine ⟨h.toFiled.untouched rfl rfl rfl rfl,?_⟩
    exact h.toTimed.released free (fun _ _ => rfl) rfl rfl rfl rfl rfl
  | @heard r o found _ _ answered =>
    have judged := heardJudges answered
    have own := filedHeard h.toFiled found answered
    have named := (h.proper found).named
    rw [presentEq] at judged own ⊢
    exact ⟨own,h.toTimed.released free (fun m other => judged.others m (by rwa [named])) rfl rfl rfl rfl rfl⟩

theorem move (h : s.Ordered) (move : s.Move s') : s'.Ordered := by
  cases move with
  | beside same => exact h.beside same
  | enrol entry answered =>
    refine (h.enlisted entry).accept ?_ _
    obtain ⟨_,_,_,_,_,rfl⟩ := Session.enlisted entry
    exact Registry.findUpserted
  | @excuse name _ _ _ _ found answered =>
    have judged := settleJudges s name .valid answered
    rw [noteEq] at judged ⊢
    exact h.judged found judged rfl rfl rfl rfl (silencedArmed s _) rfl rfl
  | @«show» name _ _ _ _ found answered =>
    have judged := showJudges s name answered
    rw [presentEq,noteEq] at judged ⊢
    exact h.judged found judged rfl rfl rfl rfl (silencedArmed s _) rfl rfl
  | @postpone name r v event o found answered =>
    have judged := settleJudges s name .pending answered
    rw [noteEq] at judged ⊢
    have settled := h.judged found judged rfl rfl rfl rfl (silencedArmed s _) rfl rfl
    refine ⟨settled.toFiled.untouched rfl rfl rfl rfl,settled.toTimed.arm ?_ rfl ?_⟩
    · exact (judged.registry _).trans (if_pos rfl)
    · have named : (mark r event).name = name := (markName r event).trans (h.proper found).named
      exact (Table.getAfterDrop s.timers name _).trans (if_pos named)
  | discard name => exact h.removed name
  | reject e => exact h.rejected e
  | abandon name => exact h.abandoned name
  | forget idle => exact h.forgotten idle
  | lapse drawn dead =>
    obtain ⟨queue,armed⟩ := Scheduler.drawnHead drawn
    refine ⟨h.toFiled.untouched rfl rfl rfl rfl,h.toTimed.passed queue (fun tracked => ?_) rfl rfl armed rfl rfl⟩
    obtain ⟨_,u,_,_,waits,stamp⟩ := h.tracked tracked
    have same := h.unique (by rw [queue]; simp) waits.queued stamp.symm
    have live := waits.live
    rw [← same,dead] at live
    contradiction
  | ring drawn live rang =>
    have after := h.rang drawn live
    rwa [rang] at after
  | @late a _ free rang =>
    have after := h.rangLate free a
    rwa [rang] at after

theorem moves (h : s.Ordered) (moves : s.Moves s') : s'.Ordered := by
  induction moves with
  | refl => exact h
  | tail _ step ih => exact ih.move step

theorem breakdown (h : s.Ordered) (broke : s.Breakdown s') : s'.Ordered := by
  cases broke with
  | enrol entry => exact h.enlisted entry
  | retune entry => exact h.retuned entry
  | note found => exact h.marked found
  | ring drawn live broke =>
    have after := h.rang drawn live
    rwa [broke] at after
  | @late a _ _ free broke =>
    have after := h.rangLate free a
    rwa [broke] at after

theorem event (h : s.Ordered) {e : SessionEvent} (possible : e.Possible s) : (e.run s).2.Ordered := by
  cases eventEffect possible with
  | leads leads =>
    cases leads with
    | moves moves => exact h.moves moves
    | breakdown _ moves broke => exact (h.moves moves).breakdown broke
  | retunes _ _ entry answered post =>
    rw [post]
    refine (h.retuned entry).accept ?_ _
    obtain ⟨_,_,_,_,_,rfl⟩ := Session.retuned entry
    exact Registry.findUpserted

end Ordered

theorem openedOrdered {s : Session} (opened : s.Opened) : s.Ordered := by
  obtain ⟨⟨document,shape,read⟩,registry,summary,timers,scheduler,_,_⟩ := opened
  refine ⟨⟨?_,Catalog.documentKeyed shape read,?_,?_⟩,⟨?_,?_,?_,?_⟩⟩
  · intro name d found
    unfold Catalog.ofDocument at read
    split at read
    · cases h : s.catalog
      rw [h] at read found
      cases read
      contradiction
    · contradiction
  · intro name r found
    rw [registry] at found
    contradiction
  · rw [summary]
    exact ⟨fun found => by contradiction,List.nodup_nil⟩
  · intro name k entry
    rw [timers] at entry
    contradiction
  all_goals simp [scheduler,Scheduler.start]

theorem orderedRun {opening : Session} {past s} (ordered : opening.Ordered) (run : opening.Run past s) : s.Ordered := by
  induction run with
  | start => exact ordered
  | next _ e possible ih => exact ih.event possible

theorem runOrdered {opening : Session} {past s} (opened : opening.Opened) (run : opening.Run past s) :
    s.Ordered := orderedRun (openedOrdered opened) run

end Session
end FormGuard
