import FormGuard.Proofs.FormCheck

/-! Stepping back in a form. The fields of the form that failed their last verdict go out of all that is kept of fields, the rest of
the page stays as it was, and no field of the form stands in the way any longer. -/
namespace FormGuard

namespace Table
variable {α : Type}

def without (t : Table α) (names : List String) : Table α := t.filter fun e => e.1 ∉ names

theorem withoutNone (t : Table α) : t.without [] = t := List.filter_eq_self.mpr (by simp)

theorem withoutOne (t : Table α) (name : String) : t.without [name] = t.drop name :=
  List.filter_congr fun e _ => by by_cases same : e.1 = name <;> simp [same]

theorem withoutBoth (t : Table α) (names later : List String) : (t.without names).without later = t.without (names ++ later) := by
  unfold without
  rw [List.filter_filter]
  refine List.filter_congr fun e _ => ?_
  by_cases first : e.1 ∈ names <;> simp [first]

end Table

namespace Session
variable {s s' t : Session}

theorem Timed.silencedLives (h : s.Timed) (obeys : s.obeysCancel = true) (name : String) :
    (s.silenced name).live = s.scheduler.live.filter fun t => t.payload.field ≠ name := by
  have hits {t} (queued : t ∈ s.scheduler.queue) (waits : t.isCancelled = false) :
      s.timers.get? name = some t.stamp ↔ t.payload.field = name :=
    ⟨h.hit queued,fun own => own ▸ h.obeyed obeys t queued waits⟩
  unfold Scheduler.live
  rw [silencedQueue,List.filter_map,List.filter_filter]
  have kept : ∀ t ∈ s.scheduler.queue, ((!·.isCancelled) ∘ fun t : Timer Alarm =>
      if s.obeysCancel = true ∧ s.timers.get? name = some t.stamp then { t with isCancelled := true } else t) t =
      (decide (t.payload.field ≠ name) && !t.isCancelled) := by
    intro t queued
    cases waits : t.isCancelled with
    | true =>
      rw [Function.comp_apply]
      split <;> simp [waits]
    | false => by_cases own : t.payload.field = name <;> simp [hits queued waits,own,obeys,waits]
  rw [List.filter_congr kept]
  refine (List.map_congr_left fun t member => ?_).trans (List.map_id _)
  obtain ⟨queued,stays⟩ := List.mem_filter.mp member
  have stays : t.payload.field ≠ name ∧ t.isCancelled = false := by simpa using stays
  exact if_neg fun hit => stays.1 ((hits queued stays.2).mp hit.2)

structure Loses (s : Session) (names : List String) (s' : Session) : Prop where
  registry : s'.registry = s.registry.without names
  entries : s'.summary.entries = s.summary.entries.without names
  attached : s'.summary.attached = s.summary.attached
  timers : s'.timers = s.timers.without names
  live : s.obeysCancel = true → s'.scheduler.live = s.scheduler.live.filter fun t => t.payload.field ∉ names
  deaf : s.obeysCancel = false → s'.scheduler = s.scheduler
  clock : s'.scheduler.now = s.scheduler.now
  messages : s'.display.messages = s.display.messages.without names
  events : s'.display.events = s.display.events ++ names.map fun name => .cleared (.text name)
  rest : s' = { s with
    registry := s'.registry
    summary := s'.summary
    timers := s'.timers
    scheduler := s'.scheduler
    display := s'.display }

theorem Loses.none (s : Session) : s.Loses [] s :=
  ⟨(Table.withoutNone _).symm,(Table.withoutNone _).symm,rfl,(Table.withoutNone _).symm,fun _ => (List.filter_eq_self.mpr (by simp)).symm,
    fun _ => rfl,rfl,(Table.withoutNone _).symm,(List.append_nil _).symm,rfl⟩

theorem removeLoses (h : s.Timed) (name : String) : s.Loses [name] (s.remove name) := by
  rw [removeEq]
  have deaf (free : s.obeysCancel = false) : s.silenced name = s.scheduler := by
    unfold silenced
    split <;> simp [free]
  refine ⟨(Table.withoutOne _ _).symm,(Table.withoutOne _ _).symm,rfl,(Table.withoutOne _ _).symm,fun obeys => ?_,deaf,
    silencedNow s name,(Table.withoutOne _ _).symm,rfl,rfl⟩
  rw [h.silencedLives obeys]
  exact List.filter_congr fun t _ => by simp

theorem Loses.append {names later : List String} (first : s.Loses names s') (second : s'.Loses later t) :
    s.Loses (names ++ later) t := by
  have obeys : s'.obeysCancel = s.obeysCancel := by rw [first.rest]
  refine ⟨?_,?_,second.attached.trans first.attached,?_,fun heard => ?_,fun free => ?_,second.clock.trans first.clock,?_,?_,?_⟩
  · rw [second.registry,first.registry,Table.withoutBoth]
  · rw [second.entries,first.entries,Table.withoutBoth]
  · rw [second.timers,first.timers,Table.withoutBoth]
  · rw [second.live (obeys.trans heard),first.live heard,List.filter_filter]
    exact List.filter_congr fun t _ => by simp [Bool.and_comm]
  · exact (second.deaf (obeys.trans free)).trans (first.deaf free)
  · rw [second.messages,first.messages,Table.withoutBoth]
  · rw [second.events,first.events,List.map_append,List.append_assoc]
  · rw [second.rest,first.rest]

theorem discardsLose (ordered : s.Ordered) (names : List String) : s.Loses names (names.foldl remove s) := by
  induction names generalizing s with
  | nil => exact .none s
  | cons name rest ih => exact (removeLoses ordered.toTimed name).append (ih (ordered.removed name))

structure SteppedBack (past : List Moment) (form : Option String) (s : Session) (names : List String) (s' : Session) : Prop where
  failed (name) : name ∈ names ↔ ∃ r, s.registry.find? name = some r ∧ r.BelongsTo form ∧ ¬ Passed past name
  inOrder : names.Sublist (s.summary.all.map (·.field))
  distinct : names.Nodup
  loses : s.Loses names s'
  free : s'.check form = (.ok true,s')

theorem formSublist (s : Summary) (form : Option String) : (s.ofForm form).Sublist s.all := by
  cases form with
  | none => exact .refl _
  | some f => exact List.filter_sublist

theorem failedFields {past : List Moment} {form : Option String} (ordered : s.Ordered) (agrees : s.Agrees)
    (judged : Judged (verdicts past) s) (name : String) : name ∈ (s.summary.ofForm form).map (·.field) ↔
      ∃ r, s.registry.find? name = some r ∧ r.BelongsTo form ∧ ¬ Passed past name := by
  rw [obstacleNames ordered agrees,List.mem_map]
  constructor
  · rintro ⟨r,member,rfl⟩
    exact ⟨r,(obstacleIff ordered agrees judged).mp member⟩
  · rintro ⟨r,found,belongs,failed⟩
    have named := (ordered.proper found).named
    subst named
    exact ⟨r,(obstacleIff ordered agrees judged).mpr ⟨found,belongs,failed⟩,rfl⟩

theorem Loses.leavesFree {form : Option String} (filed : s.summary.Filed)
    (loses : s.Loses ((s.summary.ofForm form).map (·.field)) s') : s'.summary.ofForm form = [] := by
  refine List.eq_nil_iff_forall_not_mem.mpr fun e member => ?_
  obtain ⟨listed,belongs⟩ := Summary.memForm.mp member
  obtain ⟨⟨name,_⟩,inside,rfl⟩ := List.mem_map.mp listed
  rw [loses.entries] at inside
  obtain ⟨before,stays⟩ := List.mem_filter.mp inside
  have own := filed.field (getOfMem filed.distinct before)
  have entered := Summary.memForm.mpr ⟨List.mem_map_of_mem before,belongs⟩
  have gone : name ∉ (s.summary.ofForm form).map (·.field) := of_decide_eq_true stays
  exact gone (List.mem_map.mpr ⟨_,entered,own⟩)

theorem steppedBack {past : List Moment} {form : Option String} (ordered : s.Ordered) (agrees : s.Agrees)
    (judged : Judged (verdicts past) s) (attached : s.summary.isAttached form = true) :
    SteppedBack past form s ((s.summary.ofForm form).map (·.field)) (((s.summary.ofForm form).map (·.field)).foldl remove s) := by
  have loses := discardsLose ordered ((s.summary.ofForm form).map (·.field))
  refine ⟨failedFields ordered agrees judged,(formSublist _ form).map _,ordered.summary.fields form,loses,?_⟩
  unfold check
  rw [Summary.sameAttached loses.attached,attached,loses.leavesFree ordered.summary]
  rfl

/-- Stepping back takes out exactly the fields of the form that failed their last verdict, in the order of the summary, and
leaves everything else as it was; the check of the form that follows succeeds. -/
theorem aheadCleared {opening : Session} {past s} (opened : opening.Opened) (run : opening.Run past s) (smooth : Smooth past)
    {form : Option String} (attached : s.summary.isAttached form = true) :
    ∃ names s', s.clearAhead form = (.ok names,s') ∧ SteppedBack past form s names s' := by
  refine ⟨_,_,if_pos attached,?_⟩
  exact steppedBack (runOrdered opened run) (runAgrees opened run smooth) (runJudged opened run smooth) attached

def halfwayPast : List SessionEvent :=
  [.validate (.text "y") (.text "a") .null,.add (.text "y") (.text "letter"),.add (.text "x") (.text "letter")]

theorem halfwayCleared : ∃ past s s', (smallPage true).Opened ∧ (smallPage true).Run past s ∧ Smooth past ∧
    s.summary.isAttached none = true ∧ s.clearAhead none = (.ok ["x"],s') ∧ SteppedBack past none s ["x"] s' ∧
    s'.registry.names = ["y"] ∧ s'.timers.names = ["y"] := by
  have run : (smallPage true).Run _ ((smallPage true).live halfwayPast).2 := liveRun (.inr (by simp [halfwayPast]))
  have smooth : Smooth ((smallPage true).live halfwayPast).1 := by decide +kernel
  have attached : ((smallPage true).live halfwayPast).2.summary.isAttached none = true := by decide +kernel
  have wrong : (((smallPage true).live halfwayPast).2.clearAhead none).1.toOption = some ["x"] := by decide +kernel
  have fields : ((smallPage true).live halfwayPast).2.registry.names = ["x","y"] := by decide +kernel
  have timers : ((smallPage true).live halfwayPast).2.timers.names = ["y"] := by decide +kernel
  obtain ⟨names,s',done,back⟩ := aheadCleared (smallOpened true) run smooth attached
  obtain rfl : names = ["x"] := by
    rw [done] at wrong
    exact Option.some.inj wrong
  refine ⟨_,_,s',smallOpened true,run,smooth,attached,done,back,?_,?_⟩
  · rw [back.loses.registry,Table.withoutOne,Table.namesDrop,fields]
    rfl
  · rw [back.loses.timers,Table.withoutOne,Table.namesDrop,timers]
    rfl

end Session
end FormGuard
