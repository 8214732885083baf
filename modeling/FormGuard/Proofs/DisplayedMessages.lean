import FormGuard.Proofs.RecordHistory

/-! What is displayed against what is invalid. Whatever judges a field for the user also shows or clears its message, and
so does whatever removes it. Three things do not: a field registered in the place of another, other rules for a
field, and the page forgotten; they leave the message that they find. -/
namespace FormGuard

def Record.shown? (r : Record) : Option String := if r.state = .invalid then some r.message else none

namespace Session

def ShowsRight (s : Session) (name : String) : Prop :=
  s.display.messages.get? name = (s.registry.find? name).bind Record.shown?

end Session

structure Moment.KeepsDisplay (name : String) (m : Moment) : Prop where
  added : ∀ attributes rules r, m.event = .add attributes rules → (m.before.addGiven attributes rules).1 = .ok r →
    r.name = name → m.before.display.messages.get? name = none
  rebound : ∀ rules r r', m.event = .rebind (.text name) rules → m.before.registry.find? name = some r →
    r.state = .invalid → (m.before.rebindGiven (.text name) rules).1 = .ok r' → r'.message = r.message
  reset : m.event.resets m.before = true → m.before.display.messages.get? name = none

namespace Session

section Shows
variable {s s' : Session} {name : String}

theorem ShowsRight.same (h : s.ShowsRight name) (registry : s'.registry.find? name = s.registry.find? name)
    (messages : s'.display.messages.get? name = s.display.messages.get? name) : s'.ShowsRight name := by
  unfold ShowsRight
  rw [registry,messages]
  exact h

theorem settledShown {r : Record} {o : FieldOutcome} (handled : r.isHandled = true) :
    shownOf r o = ({ r.withVerdict o with state := verdictState o } : Record).shown? := by
  unfold Record.isHandled at handled
  unfold shownOf Record.shown? verdictState Record.withVerdict
  cases valid : o.valid <;> simp [handled]

theorem settleBeside (d : Display) (r : Record) (o : FieldOutcome) {m : String} (other : m ≠ r.name) :
    (d.settle r o).messages.get? m = d.messages.get? m := by
  unfold Display.settle
  split
  · exact Table.getBesidePut other
  · exact Table.getBesideDropped other

theorem Judges.shows {r o state} (h : s.ShowsRight name) (judged : Judges s s' r o state)
    (own : s'.display.messages.get? r.name = ({ r.withVerdict o with state := state } : Record).shown?)
    (others : ∀ m, m ≠ r.name → s'.display.messages.get? m = s.display.messages.get? m) : s'.ShowsRight name := by
  by_cases same : name = r.name
  · unfold ShowsRight
    rw [judged.registry,if_pos same,same,own]
    rfl
  · exact h.same (judged.others name same) (others name same)

theorem Judges.hides {r o state} (h : s.ShowsRight name) (judged : Judges s s' r o state) (unsettled : state ≠ .invalid)
    (messages : s'.display.messages = s.display.messages.drop r.name) : s'.ShowsRight name := by
  refine judged.shows h ?_ fun m other => ?_
  · rw [messages,Table.getDropped]
    exact (if_neg unsettled).symm
  · rw [messages,Table.getBesideDropped other]

theorem Judges.settles {r o} (h : s.ShowsRight name) (judged : Judges s s' r o (verdictState o))
    (handled : r.isHandled = true) (display : s'.display = s.display.settle r o) : s'.ShowsRight name := by
  refine judged.shows h ?_ fun m other => ?_
  · rw [display,shownSettled]
    exact settledShown handled
  · rw [display,settleBeside _ _ _ other]

theorem Marks.shows {r state dirty touched} {field : String} (h : s.ShowsRight name) (named : r.name = field)
    (marked : Marks s s' field r state dirty touched)
    (own : name = field → s'.display.messages.get? name =
      ({ r with state := state, dirty := dirty, touched := touched } : Record).shown?)
    (others : name ≠ field → s'.display.messages.get? name = s.display.messages.get? name) : s'.ShowsRight name := by
  by_cases same : name = field
  · unfold ShowsRight
    rw [own same,marked.registry,if_pos (same.trans named.symm)]
    rfl
  · exact h.same ((marked.registry name).trans (if_neg fun own => same (own.trans named))) (others same)

theorem QuietStep.shows (h : s.ShowsRight name) (ordered : s.Ordered) (agrees : s.Agrees) (step : s.QuietStep s') :
    s'.ShowsRight name := by
  cases step with
  | aside same => exact h.same (by rw [same.registry]) (by rw [same.messages])
  | discard field =>
    rw [removeEq]
    by_cases same : name = field
    · unfold ShowsRight
      subst same
      have gone : (s.registry.remove name).find? name = none := Registry.findRemove.trans (if_pos rfl)
      dsimp only
      rw [gone]
      exact Table.getDropped
    · exact h.same (Registry.findRemove.trans (if_neg same)) (Table.getBesideDropped same)
  | reject e entered =>
    have entry := (Summary.memAll ordered.summary).mp entered
    rw [agrees.entry] at entry
    obtain ⟨r,found,said⟩ := Option.bind_eq_some_iff.mp entry
    have named := (ordered.proper found).named
    have message : e.message = r.message := by
      unfold Record.entry? at said
      split at said <;> cases said
      rfl
    refine (rejectMarks found).shows h named (fun same => ?_) fun other => ?_
    · rw [rejectEq found,same,← named,message]
      exact Table.getPut
    · rw [rejectEq found,named]
      exact Table.getBesidePut other
  | abandon field =>
    cases found : s.registry.find? field with
    | none =>
      rw [abandonAbsent found]
      exact h
    | some r =>
      have named := (ordered.proper found).named
      refine (abandonMarks found named).shows h named (fun same => ?_) fun other => ?_
      · have before := h
        unfold ShowsRight at before
        rw [abandonEq found,before,same,found]
        by_cases waits : r.state = .pending <;> simp [Record.shown?,waits]
      · rw [abandonEq found]

theorem Quiet.shows (h : s.ShowsRight name) (ordered : s.Ordered) (agrees : s.Agrees) (quiet : s.Quiet s') :
    s'.ShowsRight name := by
  induction quiet with
  | refl => exact h
  | tail before step ih =>
    exact step.shows ih (ordered.moves (Quiet.moves before)) (agrees.moves ordered (Quiet.moves before))

theorem validatedShows {field v event state} (h : s.ShowsRight name) (filed : s.Filed)
    (ok : s.validate field v event = (.ok state,s')) : s'.ShowsRight name := by
  have outcomes := noted s field v event
  rw [ok] at outcomes
  have named {r} (found : s.registry.find? field = some r) : (mark r event).name = field :=
    (markName r event).trans (filed.proper found).named
  cases outcomes with
  | excused found answered =>
    refine (settleJudges s field .valid answered).hides h (by simp) ?_
    rw [noteEq,named found]
    rfl
  | @shown r o found answered =>
    refine (showJudges s field answered).settles h (Record.markedHandled r event) ?_
    rw [presentEq,noteEq]
    rfl
  | postponed found answered =>
    refine ((settleJudges s field .pending answered).arm _ _).hides h (by simp) ?_
    rw [noteEq,named found]
    rfl

theorem expiredShows {a : Alarm} (h : s.ShowsRight name) (grounds : s.Grounds a) (done : (s.expire a).1 = .ok ()) :
    (s.expire a).2.ShowsRight name := by
  have outcomes := rung s a
  generalize s.expire a = answer at outcomes done
  cases outcomes with
  | stale => exact h
  | broken => contradiction
  | heard found epoch stamp answered =>
    -- A timer is armed for a field that has been handled, so a bad verdict on its value is shown and not only kept.
    refine (heardJudges answered).settles h (grounds.handled ⟨found,epoch,stamp⟩) ?_
    rw [presentEq]
    rfl

theorem Tick.shows {target} (h : s.ShowsRight name) (grounded : s.Grounded) (tick : Tick target s s') :
    s'.ShowsRight name := by
  cases tick with
  | lapse => exact h
  | @ring t scheduler _ drawn _ rang =>
    obtain ⟨queue,_⟩ := Scheduler.drawnHead drawn
    have grounds : s.Grounds t.payload := grounded t (by rw [queue]; exact List.mem_cons_self)
    have before : ShowsRight { s with scheduler := scheduler } name := h
    have after := expiredShows before (grounds.later (drawnFollows drawn)) (congrArg Prod.fst rang)
    rwa [rang] at after

theorem Ticks.shows {target} (h : s.ShowsRight name) (ordered : s.Ordered) (grounded : s.Grounded)
    (ticks : Ticks target s s') : s'.ShowsRight name := by
  induction ticks with
  | refl => exact h
  | tail before tick ih => exact tick.shows ih ((movesFollow ordered (Ticks.moves before)).grounded grounded)

theorem keepsOther {e : SessionEvent} (adds : ∀ attributes rules, e ≠ .add attributes rules)
    (rebinds : ∀ rules, e ≠ .rebind (.text name) rules) (kept : e.resets s = false) :
    Moment.KeepsDisplay name ⟨s,e⟩ where
  added := fun _ _ _ adding => absurd adding (adds _ _)
  rebound := fun _ _ _ rebinding => absurd rebinding (rebinds _)
  reset := fun resets => absurd (resets.symm.trans kept) (by simp)

theorem keepsSilent {e : SessionEvent} (unasked : e.question? s = none) (kept : e.resets s = false) :
    Moment.KeepsDisplay name ⟨s,e⟩ where
  added := fun _ _ _ adding ok => absurd (adding ▸ unasked) (addAsks ok)
  rebound := fun _ _ _ rebinding _ _ ok => absurd (rebinding ▸ unasked) (rebindAsks ok)
  reset := fun resets => absurd (resets.symm.trans kept) (by simp)

theorem keepsAdded {attributes rules} (kept : ∀ r, (s.addGiven attributes rules).1 = .ok r → r.name = name →
    s.display.messages.get? name = none) : Moment.KeepsDisplay name ⟨s,.add attributes rules⟩ where
  added := by
    rintro _ _ r ⟨⟩ ok
    exact kept r ok
  rebound := by
    rintro _ _ _ ⟨⟩
  reset := fun resets => by contradiction

theorem keepsRebound {field given} (kept : field = name → ∀ r r', s.registry.find? name = some r →
    r.state = .invalid → (s.rebindGiven (.text name) given).1 = .ok r' → r'.message = r.message) :
    Moment.KeepsDisplay name ⟨s,.rebind (.text field) given⟩ where
  added := by
    rintro _ _ _ ⟨⟩
  rebound := by
    rintro _ r r' ⟨⟩
    exact kept rfl r r'
  reset := fun resets => by contradiction

theorem enrolShows {attributes rules fields r s₁ o} (h : s.ShowsRight name)
    (given : attributesGiven attributes rules = .ok fields) (entry : s.enlist fields = (.ok r,s₁))
    (answered : s₁.judge r (s₁.source.value r.name) = .ok o) :
    (s₁.accept r o).ShowsRight name ↔ Moment.KeepsDisplay name ⟨s,.add attributes rules⟩ := by
  have ok := addAnswered given entry answered
  have judged := enrolJudges entry answered
  have messages : (s₁.accept r o).display = s.display := by
    obtain ⟨_,_,_,_,_,rfl⟩ := enlisted entry
    rfl
  by_cases same : r.name = name
  · have right : (s₁.accept r o).ShowsRight name ↔ s.display.messages.get? name = none := by
      unfold ShowsRight
      rw [judged.registry,if_pos same.symm,messages]
      exact Iff.rfl
    rw [right]
    refine ⟨fun none => keepsAdded fun _ _ _ => none,fun keeps => ?_⟩
    exact keeps.added _ _ _ rfl (congrArg Prod.fst ok) same
  · refine iff_of_true ?_ (keepsAdded fun r' done named => ?_)
    · exact h.same (judged.others name fun own => same own.symm) (by rw [messages])
    · cases (congrArg Prod.fst ok).symm.trans done
      exact absurd named same

theorem retuneShows {field given rules r s₁ o} (h : s.ShowsRight name) (filed : s.Filed)
    (spelled : rulesOf given = .ok rules) (entry : s.retune field rules = (.ok r,s₁))
    (answered : s₁.judge r (s₁.source.value r.name) = .ok o) :
    (s₁.accept r o).ShowsRight name ↔ Moment.KeepsDisplay name ⟨s,.rebind (.text field) given⟩ := by
  have ok := reboundAnswered spelled entry answered
  have judged := retuneJudges entry answered
  have named := (retunedProper filed entry).1.named
  have messages : (s₁.accept r o).display = s.display := by
    obtain ⟨_,_,_,_,_,rfl⟩ := retuned entry
    rfl
  obtain ⟨r₀,p,found,_,bound,_⟩ := retuned entry
  have state : r.state = r₀.state := by
    rw [bound]
    exact (reboundSame r₀ rules).2.2.1
  by_cases same : field = name
  · subst same
    have right : (s₁.accept r o).ShowsRight field ↔
        (r₀.state = .invalid → (r.withVerdict o).message = r₀.message) := by
      unfold ShowsRight at h ⊢
      rw [judged.registry,if_pos named.symm,messages,h,found]
      by_cases invalid : r₀.state = .invalid <;> simp [Record.shown?,state,invalid,eq_comm]
    rw [right]
    refine ⟨fun kept => keepsRebound fun _ r₁ r' found' invalid done => ?_,fun keeps invalid => ?_⟩
    · cases found.symm.trans found'
      cases (congrArg Prod.fst ok).symm.trans done
      exact kept invalid
    · exact keeps.rebound _ _ _ rfl found invalid (congrArg Prod.fst ok)
  · refine iff_of_true ?_ (keepsRebound fun own => absurd own same)
    exact h.same (judged.others name fun own => same (named.symm.trans own.symm)) (by rw [messages])

theorem eventShows {e : SessionEvent} (h : s.ShowsRight name) (ordered : s.Ordered) (agrees : s.Agrees)
    (grounded : s.Grounded) (genuine : ∀ a, e = .late a → s.Grounds a) (smooth : ¬ e.BreaksDown s)
    (course : Course e s s') : s'.ShowsRight name ↔ Moment.KeepsDisplay name ⟨s,e⟩ := by
  cases course with
  | silent unasked _ kept quiet => exact iff_of_true (quiet.shows h ordered agrees) (keepsSilent unasked kept)
  | resets resets clears =>
    have right : s'.ShowsRight name ↔ s.display.messages.get? name = none := by
      unfold ShowsRight
      rw [clears.registry,clears.display]
      exact Iff.rfl
    rw [right]
    refine ⟨fun none => ⟨fun _ _ _ _ _ _ => none,fun _ _ _ rebinding => ?_,fun _ => none⟩,fun keeps => keeps.reset resets⟩
    dsimp only at rebinding
    rw [rebinding] at resets
    contradiction
  | enrols adding given entry answered =>
    subst adding
    exact enrolShows h given entry answered
  | retunes rebinding spelled entry answered =>
    subst rebinding
    exact retuneShows h ordered.toFiled spelled entry answered
  | enters entering ok =>
    subst entering
    exact iff_of_true (validatedShows h ordered.toFiled ok) (keepsOther (by simp) (by simp) rfl)
  | elapses passing ok =>
    subst passing
    obtain ⟨_,ticks,_,rfl⟩ := advancedTicks ok
    exact iff_of_true ((ticks.shows h ordered grounded).same rfl rfl) (keepsOther (by simp) (by simp) rfl)
  | @late a _ sounding _ ok =>
    subst sounding
    have after := expiredShows h (genuine a rfl) (congrArg Prod.fst ok)
    rw [ok] at after
    exact iff_of_true after (keepsOther (by simp) (by simp) rfl)
  | breaks broke => exact absurd broke smooth

end Shows

def Genuine : List Moment → Prop
  | [] => True
  | m :: older => (∀ a, m.event = .late a → ∃ k ∈ older, k.Arms a) ∧ Genuine older

/-- All along a run a field shows what is wrong with it and nothing else exactly when no message of it was displayed when
it was registered or the page forgotten, and no other rules changed the message of the field as it stood invalid. -/
theorem displayFollows {opening : Session} {past s} (opened : opening.Opened) (run : opening.Run past s)
    (smooth : Smooth past) (genuine : Genuine past) (name : String) :
    (∀ m ∈ past, m.before.ShowsRight name) ∧ s.ShowsRight name ↔ ∀ m ∈ past, m.KeepsDisplay name := by
  induction run with
  | start =>
    refine iff_of_true ⟨by simp,?_⟩ (by simp)
    unfold ShowsRight
    rw [opened.registry,opened.display]
    rfl
  | @next past s before e possible ih =>
    have ordered := runOrdered opened before
    have agrees := runAgrees opened before smooth.tail
    have grounds (a : Alarm) (sounding : e = .late a) : s.Grounds a :=
      armedGrounds opened before (genuine.1 a sounding)
    have step (h : s.ShowsRight name) : (e.run s).2.ShowsRight name ↔ Moment.KeepsDisplay name ⟨s,e⟩ :=
      eventShows h ordered agrees (runGrounded opened before) grounds smooth.head (eventCourse possible)
    simp only [List.forall_mem_cons]
    constructor
    · rintro ⟨⟨now,earlier⟩,after⟩
      exact ⟨(step now).mp after,(ih smooth.tail genuine.2).mp ⟨earlier,now⟩⟩
    · rintro ⟨keeps,earlier⟩
      obtain ⟨right,now⟩ := (ih smooth.tail genuine.2).mpr earlier
      exact ⟨⟨now,right⟩,(step now).mpr keeps⟩

def blurred : SessionEvent := .validate (.text "x") (.text "b") (.text "blur")

theorem blurredShown : ∃ opening past s, Opened opening ∧ opening.Run past s ∧ Smooth past ∧ Genuine past ∧
    s.ShowsRight "x" ∧ s.display.messages.get? "x" = some "NO_A" := by
  have run := smallFieldRun true
  have opened := smallOpened true
  have calm : blurred.breaks (smallField true) = false := by decide +kernel
  have shown : (blurred.run (smallField true)).2.display.messages.get? "x" = some "NO_A" := by decide +kernel
  generalize smallField true = s at *
  have later : (smallPage true).Run _ (blurred.run s).2 := .next run blurred nofun
  have smooth : Smooth [⟨s,blurred⟩,⟨smallPage true,smallEntry⟩] := .next calm (smallSmooth true)
  have genuine : Genuine [⟨s,blurred⟩,⟨smallPage true,smallEntry⟩] := by
    simp [Genuine,blurred,smallEntry]
  have keeps : ∀ m ∈ [⟨s,blurred⟩,⟨smallPage true,smallEntry⟩], Moment.KeepsDisplay "x" m := by
    simp only [List.forall_mem_cons]
    exact ⟨keepsOther (by simp [blurred]) (by simp [blurred]) rfl,keepsAdded fun _ _ _ => rfl,by simp⟩
  exact ⟨_,_,_,opened,later,smooth,genuine,((displayFollows opened later smooth genuine "x").mpr keeps).2,shown⟩

theorem shownWhenForgotten : ∃ opening past s, Opened opening ∧ opening.obeysCancel = true ∧ opening.Run past s ∧
    Smooth past ∧ s.registry.find? "x" = none ∧ s.display.messages.get? "x" = some "NO_A" ∧ ¬ s.ShowsRight "x" := by
  have run := smallFieldRun true
  have calm : blurred.breaks (smallField true) = false := by decide +kernel
  have shown : (SessionEvent.reset.run (blurred.run (smallField true)).2).2.display.messages.get? "x" = some "NO_A" := by
    decide +kernel
  generalize smallField true = s at *
  have later : (smallPage true).Run _ (SessionEvent.reset.run (blurred.run s).2).2 :=
    .next (.next run blurred nofun) .reset nofun
  have smooth : Smooth [⟨(blurred.run s).2,.reset⟩,⟨s,blurred⟩,⟨smallPage true,smallEntry⟩] :=
    .next rfl (.next calm (smallSmooth true))
  refine ⟨_,_,_,smallOpened true,rfl,later,smooth,rfl,shown,fun right => ?_⟩
  cases shown.symm.trans right

end Session
end FormGuard
