import FormGuard.Proofs.SummaryAgreement

/-! The state of a field against what there is: a timer for it, an entry of it. Every operation keeps the two together
but one: other rules for a field call its timer off and may turn its verdict round, and leave the state standing. -/
namespace FormGuard

structure Record.Fits (r : Record) (timer : Option Nat) : Prop where
  pending : r.state = .pending → timer ≠ none
  valid : r.state = .valid → r.isValid = true
  invalid : r.state = .invalid → r.isValid = false

namespace Session

def Steady (s : Session) : Prop := ∀ name r, s.registry.find? name = some r → r.Fits (s.timers.get? name)

/-- A pending field is one that a live timer is armed for, a valid one has no entry and an invalid one has one. -/
def Faithful (s : Session) : Prop := ∀ name r, s.registry.find? name = some r →
  (r.state = .pending ↔ ∃ t ∈ s.scheduler.live, t.payload.field = name) ∧
  (r.state = .valid → s.summary.get? name = none) ∧
  (r.state = .invalid → ∃ e, s.summary.get? name = some e)

theorem memLive {s : Session} {t} :
    t ∈ s.scheduler.live ↔ t ∈ s.scheduler.queue ∧ t.isCancelled = false := by
  unfold Scheduler.live
  rw [List.mem_filter]
  simp

theorem Timed.trackedLive {s : Session} (h : s.Timed) (obeys : s.obeysCancel = true) {name} :
    (∃ t ∈ s.scheduler.live, t.payload.field = name) ↔ s.timers.get? name ≠ none := by
  constructor
  · rintro ⟨t,member,rfl⟩ absent
    obtain ⟨queued,live⟩ := memLive.mp member
    rw [h.obeyed obeys t queued live] at absent
    contradiction
  · intro present
    obtain ⟨k,entry⟩ := Option.ne_none_iff_exists'.mp present
    obtain ⟨_,t,_,_,waits,_⟩ := h.tracked entry
    exact ⟨t,memLive.mpr ⟨waits.queued,waits.live⟩,waits.field⟩

theorem Timed.trackedPending {s : Session} (h : s.Timed) {name r} (found : s.registry.find? name = some r)
    (tracked : s.timers.get? name ≠ none) : r.state = .pending := by
  obtain ⟨k,entry⟩ := Option.ne_none_iff_exists'.mp tracked
  obtain ⟨r',_,found',pending,_⟩ := h.tracked entry
  rw [found] at found'
  cases found'
  exact pending

theorem Agrees.entryIff {s : Session} (h : s.Agrees) {name r} (found : s.registry.find? name = some r) :
    (∃ e, s.summary.get? name = some e) ↔ r.isValid = false := by
  rw [h.entry,found]
  cases valid : r.isValid <;> simp [Record.entry?,valid]

theorem faithfulIff {s : Session} (ordered : s.Ordered) (agrees : s.Agrees) (obeys : s.obeysCancel = true) :
    s.Faithful ↔ s.Steady := by
  constructor
  · intro faithful name r found
    obtain ⟨pending,valid,invalid⟩ := faithful name r found
    refine ⟨fun state => ?_,fun state => ?_,fun state => ?_⟩
    · exact (ordered.trackedLive obeys).mp (pending.mp state)
    · by_contra bad
      obtain ⟨e,entry⟩ := (agrees.entryIff found).mpr (by simpa using bad)
      rw [valid state] at entry
      contradiction
    · exact (agrees.entryIff found).mp (invalid state)
  · intro steady name r found
    obtain ⟨pending,valid,invalid⟩ := steady name r found
    refine ⟨⟨fun state => ?_,fun live => ?_⟩,fun state => ?_,fun state => ?_⟩
    · exact (ordered.trackedLive obeys).mpr (pending state)
    · exact ordered.trackedPending found ((ordered.trackedLive obeys).mp live)
    · have none : ¬ ∃ e, s.summary.get? name = some e := by
        rw [agrees.entryIff found,valid state]
        simp
      exact Option.eq_none_iff_forall_ne_some.mpr fun e entry => none ⟨e,entry⟩
    · exact (agrees.entryIff found).mpr (invalid state)

theorem fitsVerdict (r : Record) (o : FieldOutcome) (timer : Option Nat) :
    ({ r.withVerdict o with state := verdictState o } : Record).Fits timer := by
  unfold verdictState Record.withVerdict
  cases o.valid <;> constructor <;> simp

namespace Steady
variable {s s' : Session}

theorem update (h : s.Steady) {name r}
    (registry : ∀ m, s'.registry.find? m = if m = name then some r else s.registry.find? m)
    (timers : ∀ m, m ≠ name → s'.timers.get? m = s.timers.get? m) (fits : r.Fits (s'.timers.get? name)) :
    s'.Steady := by
  intro m r' found
  rw [registry] at found
  split at found
  · rename_i own
    cases found
    rwa [own]
  · rename_i other
    rw [timers m other]
    exact h m r' found

theorem same (h : s.Steady) (registry : s'.registry = s.registry) (timers : s'.timers = s.timers) : s'.Steady := by
  intro m r found
  rw [registry] at found
  rw [timers]
  exact h m r found

theorem dropped (h : s.Steady) {name} (gone : s'.registry.find? name = none)
    (registry : ∀ m, m ≠ name → s'.registry.find? m = s.registry.find? m)
    (timers : s'.timers = s.timers.drop name) : s'.Steady := by
  intro m r found
  have other : m ≠ name := by
    intro same
    rw [same,gone] at found
    contradiction
  rw [timers,Table.getBesideDropped other]
  exact h m r (by rwa [← registry m other])

theorem silenced (h : s.Steady) {name : String} {r r' : Record} (named : r.name = name)
    (registry : ∀ m, s'.registry.find? m = if m = r.name then some r' else s.registry.find? m)
    (timers : s'.timers = s.timers.drop name) (fits : r'.Fits none) : s'.Steady := by
  subst named
  refine h.update registry (fun m other => ?_) ?_
  · rw [timers]
    exact Table.getBesideDropped other
  · rw [timers,Table.getDropped]
    exact fits

theorem enrolled (h : s.Steady) {s₁ attributes r o} (entry : s.enlist attributes = (.ok r,s₁))
    (answered : s₁.judge r (s₁.source.value r.name) = .ok o) : (s₁.accept r o).Steady := by
  have judged := enrolJudges entry answered
  obtain ⟨_,_,_,_,_,rfl⟩ := enlisted entry
  exact h.silenced rfl judged.registry rfl ⟨nofun,nofun,nofun⟩

theorem rejected (h : s.Steady) (ordered : s.Ordered) (agrees : s.Agrees) {e} (entered : e ∈ s.summary.all) :
    (s.reject e).Steady := by
  cases found : s.registry.find? e.field with
  | none =>
    rw [rejectAbsent found]
    exact h
  | some r =>
    have marked := rejectMarks found
    have bad : r.isValid = false := (agrees.entryIff found).mp ⟨e,(Summary.memAll ordered.summary).mp entered⟩
    rw [rejectEq found] at marked ⊢
    exact h.silenced (ordered.proper found).named marked.registry rfl ⟨nofun,nofun,fun _ => bad⟩

theorem abandoned (h : s.Steady) (filed : s.Filed) (name : String) : (s.abandon name).Steady := by
  cases found : s.registry.find? name with
  | none =>
    rw [abandonAbsent found]
    exact h.dropped found (fun _ _ => rfl) rfl
  | some r =>
    have named := (filed.proper found).named
    have marked := abandonMarks found named
    obtain ⟨_,valid,invalid⟩ := h name r found
    rw [abandonEq found] at marked ⊢
    refine h.silenced named marked.registry rfl ?_
    by_cases waits : r.state = .pending
    · rw [if_pos waits]
      exact ⟨nofun,nofun,nofun⟩
    · rw [if_neg waits]
      exact ⟨fun pending => absurd pending waits,valid,invalid⟩

theorem rang (h : s.Steady) (filed : s.Filed) {a s'} (rang : s.expire a = (.ok (),s')) : s'.Steady := by
  have outcomes := rung s a
  rw [rang] at outcomes
  cases outcomes with
  | stale => exact h
  | @heard r o found _ _ answered =>
    have judged := heardJudges answered
    rw [presentEq] at judged ⊢
    exact h.silenced (filed.proper found).named judged.registry rfl (fitsVerdict r o none)

theorem move (h : s.Steady) (ordered : s.Ordered) (agrees : s.Agrees) (obeys : s.obeysCancel = true)
    (move : s.Move s') : s'.Steady := by
  have named {name r} (event) (found : s.registry.find? name = some r) : (mark r event).name = name :=
    (markName r event).trans (ordered.proper found).named
  cases move with
  | beside same => exact h.same same.registry same.timers
  | enrol entry answered => exact h.enrolled entry answered
  | @excuse name r v event o found answered optional empty =>
    have judged := settleJudges s name .valid answered
    have passed : o.valid = true := by
      obtain ⟨p,pipeline,_⟩ := (ordered.proper found).read
      exact excusedValid answered ((markPipeline r event).trans pipeline) (by rwa [markRequired]) empty
    rw [noteEq] at judged ⊢
    exact h.silenced (named event found) judged.registry rfl ⟨nofun,fun _ => passed,nofun⟩
  | @«show» name r v event o found answered =>
    have judged := showJudges s name answered
    rw [presentEq,noteEq] at judged ⊢
    exact h.silenced (named event found) judged.registry rfl (fitsVerdict _ o none)
  | @postpone name r v event o found answered =>
    have judged := settleJudges s name .pending answered
    rw [noteEq] at judged ⊢
    refine h.update judged.registry (fun m other => ?_) ⟨fun _ => ?_,nofun,nofun⟩
    · refine (Table.getBesidePut other).trans (Table.getBesideDropped ?_)
      rwa [← named event found]
    · exact Table.getPut.trans_ne (by simp)
  | discard name =>
    rw [removeEq]
    exact h.dropped Table.getDropped (fun m other => Table.getBesideDropped other) rfl
  | reject e entered => exact h.rejected ordered agrees entered
  | abandon name => exact h.abandoned ordered.toFiled name
  | forget => exact fun _ _ found => by contradiction
  | lapse => exact h.same rfl rfl
  | @ring _ t scheduler _ _ _ rang =>
    have filed : Filed { s with scheduler := scheduler } := ordered.toFiled.untouched rfl rfl rfl rfl
    have steady : Steady { s with scheduler := scheduler } := h.same rfl rfl
    exact steady.rang filed rang
  | late free => simp [obeys] at free

theorem moves (h : s.Steady) (ordered : s.Ordered) (agrees : s.Agrees) (obeys : s.obeysCancel = true)
    (moves : s.Moves s') : s'.Steady := by
  induction moves with
  | refl => exact h
  | tail before step ih =>
    exact ih.move (ordered.moves before) (agrees.moves ordered before) ((movesObey before).trans obeys) step

end Steady
end Session

def FieldState.Suits (state : FieldState) (o : FieldOutcome) : Prop :=
  state ≠ .pending ∧ (state = .valid → o.valid = true) ∧ (state = .invalid → o.valid = false)

instance (state : FieldState) (o : FieldOutcome) : Decidable (state.Suits o) := by
  unfold FieldState.Suits
  infer_instance

namespace Moment

/-- Other rules for a field find a state that suits their verdict. -/
def KeepsState (m : Moment) : Prop :=
  match m.event,m.event.question? m.before with
  | .rebind _ _,some q =>
    match q.answer with
    | .ok o => q.record.state.Suits o
    | .error _ => True
  | _,_ => True

instance (m : Moment) : Decidable m.KeepsState := by
  unfold KeepsState
  split
  · split <;> infer_instance
  · infer_instance

theorem keepsStateIff {m : Moment} : m.KeepsState ↔ ∀ name rules q o,
    m.event = .rebind (.text name) rules → m.event.question? m.before = some q → q.answer = .ok o →
    q.record.state.Suits o := by
  obtain ⟨s,e⟩ := m
  constructor
  · rintro keeps name rules q o same asked answered
    dsimp only at same asked
    subst same
    unfold KeepsState at keeps
    dsimp only at keeps
    rw [asked] at keeps
    dsimp only at keeps
    rw [answered] at keeps
    exact keeps
  · intro keeps
    unfold KeepsState
    dsimp only at keeps ⊢
    split
    · rename_i name rules q asked
      split
      · rename_i o answered
        cases name with
        | text name => exact keeps name rules q o rfl asked answered
        | _ => contradiction
      · trivial
    · trivial

end Moment

namespace Session

theorem retunedSteady {s s₁ : Session} {name rules r o} (h : s.Steady) (filed : s.Filed)
    (entry : s.retune name rules = (.ok r,s₁)) (answered : s₁.judge r (s₁.source.value r.name) = .ok o) :
    (s₁.accept r o).Steady ↔ r.state.Suits o := by
  have judged := retuneJudges entry answered
  have named := (retunedProper filed entry).1.named
  have timers : (s₁.accept r o).timers = s.timers.drop name := by
    obtain ⟨_,_,_,_,_,rfl⟩ := retuned entry
    rfl
  have own : (s₁.accept r o).timers.get? r.name = none := by
    rw [timers,named]
    exact Table.getDropped
  constructor
  · intro steady
    obtain ⟨pending,valid,invalid⟩ := steady r.name _ ((judged.registry r.name).trans (if_pos rfl))
    exact ⟨fun waits => pending waits own,valid,invalid⟩
  · intro suits
    exact h.silenced named judged.registry timers ⟨fun waits => absurd waits suits.1,suits.2.1,suits.2.2⟩

theorem steadyEvent {s : Session} {e : SessionEvent} (h : s.Steady) (ordered : s.Ordered) (agrees : s.Agrees)
    (obeys : s.obeysCancel = true) (possible : e.Possible s) (smooth : ¬ e.BreaksDown s) :
    (e.run s).2.Steady ↔ Moment.KeepsState ⟨s,e⟩ := by
  by_cases rebinds : ∃ name given q o,
      e = .rebind (.text name) given ∧ e.question? s = some q ∧ q.answer = .ok o
  · obtain ⟨name,given,q,o,rfl,asked,answered⟩ := rebinds
    obtain ⟨rules,spelled,entry,value⟩ := rebindAsked asked
    rw [rebindAnswered asked answered]
    have judged : q.session.judge q.record (q.session.source.value q.record.name) = .ok o := by
      rw [← value]
      exact answered
    rw [retunedSteady h ordered.toFiled entry judged,Moment.keepsStateIff]
    constructor
    · rintro suits _ _ q' o' _ asked' answered'
      cases asked.symm.trans asked'
      cases answered.symm.trans answered'
      exact suits
    · exact fun keeps => keeps name given q o rfl asked answered
  · refine iff_of_true ?_ (Moment.keepsStateIff.mpr fun name given q o same asked answered =>
      absurd ⟨name,given,q,o,same,asked,answered⟩ rebinds)
    cases eventEffect possible with
    | leads leads =>
      cases leads with
      | moves moves => exact h.moves ordered agrees obeys moves
      | breakdown failed => exact absurd failed smooth
    | @retunes name given rules r s₁ o same spelled entry answered post =>
      refine absurd ⟨name,given,⟨s₁,r,s₁.source.value r.name⟩,o,same,?_,answered⟩ rebinds
      rw [same,SessionEvent.rebindQuestion spelled,entry]
      rfl

/-- States are right all along a run exactly when no rules were given to a field whose state did not suit them. -/
theorem statesFaithful {opening : Session} {past s} (opened : opening.Opened) (obeys : opening.obeysCancel = true)
    (run : opening.Run past s) (smooth : Smooth past) :
    (∀ t ∈ s.scheduler.live, ∃ r, s.registry.find? t.payload.field = some r ∧ r.state = .pending) ∧
    (((∀ m ∈ past, m.before.Faithful) ∧ s.Faithful) ↔ ∀ m ∈ past, m.KeepsState) := by
  refine ⟨fun t live => ?_,?_⟩
  · have ordered := runOrdered opened run
    obtain ⟨queued,waiting⟩ := memLive.mp live
    have tracked := ordered.obeyed ((runObeys run).trans obeys) t queued waiting
    obtain ⟨r,_,found,pending,_⟩ := ordered.tracked tracked
    exact ⟨r,found,pending⟩
  · induction run with
    | start =>
      refine iff_of_true ⟨by simp,fun name r found => ?_⟩ (by simp)
      rw [opened.registry] at found
      contradiction
    | @next past s before e possible ih =>
      have ordered := runOrdered opened before
      have agrees := runAgrees opened before smooth.tail
      have obedient := (runObeys before).trans obeys
      have ordered' := ordered.event possible
      have agrees' := agrees.event ordered possible smooth.head
      have obedient' := (eventObeys possible).trans obedient
      have step (faithful : s.Faithful) : (e.run s).2.Faithful ↔ Moment.KeepsState ⟨s,e⟩ := by
        rw [faithfulIff ordered' agrees' obedient']
        exact steadyEvent ((faithfulIff ordered agrees obedient).mp faithful) ordered agrees obedient possible smooth.head
      simp only [List.forall_mem_cons]
      constructor
      · rintro ⟨⟨now,earlier⟩,after⟩
        exact ⟨(step now).mp after,(ih smooth.tail).mp ⟨earlier,now⟩⟩
      · rintro ⟨keeps,earlier⟩
        obtain ⟨faithful,now⟩ := (ih smooth.tail).mpr earlier
        exact ⟨⟨now,faithful⟩,(step now).mpr keeps⟩

def sameRulesPast : List SessionEvent :=
  [.rebind (.text "x") (.text "letter"),.validate (.text "x") (.text "b") (.text "blur"),
    .add (.text "x") (.text "letter")]

theorem sameRulesFaithful : ((smallPage true).live sameRulesPast).2.Faithful := by
  have run : (smallPage true).Run _ ((smallPage true).live sameRulesPast).2 :=
    liveRun (.inr (by simp [sameRulesPast]))
  have faithful := statesFaithful (smallOpened true) rfl run (by decide +kernel)
  exact (faithful.2.mpr (by decide +kernel)).2

def earlyRulesPast : List SessionEvent :=
  [.rebind (.text "x") (.text "letter"),.validate (.text "x") (.text "b") .null,
    .add (.text "x") (.text "letter")]

theorem pendingWithoutTimer : ∃ opening past s, Opened opening ∧ opening.obeysCancel = true ∧
    opening.Run past s ∧ Smooth past ∧ ¬ s.Faithful := by
  have run : (smallPage true).Run _ ((smallPage true).live earlyRulesPast).2 :=
    liveRun (.inr (by simp [earlyRulesPast]))
  have state : (((smallPage true).live earlyRulesPast).2.registry.find? "x").map (·.state) = some .pending := by
    decide +kernel
  have idle : ((smallPage true).live earlyRulesPast).2.scheduler.live.length = 0 := by decide +kernel
  obtain ⟨r,found,pending⟩ := Option.map_eq_some_iff.mp state
  refine ⟨_,_,_,smallOpened true,rfl,run,by decide +kernel,fun faithful => ?_⟩
  obtain ⟨t,live,_⟩ := (faithful "x" r found).1.mp pending
  rw [List.length_eq_zero_iff.mp idle] at live
  exact List.not_mem_nil live

end Session
end FormGuard
