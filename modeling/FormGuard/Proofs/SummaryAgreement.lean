import FormGuard.Proofs.SessionOrder

/-! The summary agrees with the registry: a field has an entry exactly when it is registered and invalid, and the entry
says of the field what its record says. No move breaks this, late alarms included; only an evaluation that breaks
down between the registration of a field and its verdict does. -/
namespace FormGuard

def Record.entry? (r : Record) : Option SummaryEntry :=
  if r.isValid then none else some ⟨r.name,r.message,r.friendlyName,r.form⟩

namespace Session

structure Agrees (s : Session) : Prop where
  entry (name) : s.summary.get? name = (s.registry.find? name).bind Record.entry?
  message {name r} : s.registry.find? name = some r → (r.isValid = true ↔ r.message = "")

theorem judgedField {q : Session} {r v o p} (answered : q.judge r v = .ok o) (pipeline : r.pipeline = some p) :
    ∃ ctx, evaluateField q.translator q.strictDates q.lastMessageOnly p v ctx = .ok o := by
  unfold judge pipelineOf at answered
  rw [pipeline] at answered
  exact ⟨_,answered⟩

theorem judgedMessage {q : Session} {r v o p} (answered : q.judge r v = .ok o) (pipeline : r.pipeline = some p)
    (keyed : p.Keyed) : o.valid = true ↔ (r.withVerdict o).message = "" := by
  obtain ⟨ctx,judged⟩ := judgedField answered pipeline
  unfold Record.withVerdict
  cases valid : o.valid with
  | true => simp
  | false => simpa using invalidMessageFilled judged keyed valid

theorem excusedValid {q : Session} {r v o p} (answered : q.judge r v = .ok o) (pipeline : r.pipeline = some p)
    (optional : r.isRequired = false) (empty : isEmpty v = true) : o.valid = true := by
  obtain ⟨ctx,judged⟩ := judgedField answered pipeline
  unfold Record.isRequired at optional
  rw [pipeline] at optional
  exact emptyOptionalValid judged (by simpa using optional) empty

theorem Filed.pipelineKeyed {s : Session} (h : s.Filed) {name r} (proper : s.Proper name r) :
    ∃ p, r.pipeline = some p ∧ p.Keyed := by
  obtain ⟨p,pipeline,read⟩ := proper.read
  exact ⟨p,pipeline,parsedKeyed h.remembers h.keyed read⟩

namespace Agrees
variable {s s' : Session}

theorem same (h : s.Agrees) (registry : s'.registry = s.registry)
    (entries : s'.summary.entries = s.summary.entries) : s'.Agrees where
  entry name := by
    have before := h.entry name
    unfold Summary.get? at before ⊢
    rw [entries,registry,before]
  message found := h.message (by rwa [registry] at found)

theorem judges (h : s.Agrees) {r o state p} (judged : Judges s s' r o state) (pipeline : r.pipeline = some p)
    (keyed : p.Keyed) : s'.Agrees := by
  obtain ⟨q,v,answered⟩ := judged.judged
  have filled := judgedMessage answered pipeline keyed
  constructor
  · intro name
    have entries : s'.summary.get? name =
        (s.summary.upsert ⟨r.name,(r.withVerdict o).message,r.friendlyName,r.form⟩).get? name := by
      unfold Summary.get?
      rw [judged.entries]
    rw [entries,Summary.getUpsert,judged.registry]
    split
    · cases valid : o.valid with
      | true => simp [Record.entry?,Record.withVerdict,valid]
      | false =>
        have message : (r.withVerdict o).message ≠ "" := fun none => by simp [filled.mpr none] at valid
        rw [if_neg message]
        simp [Record.entry?,Record.withVerdict,valid]
    · exact h.entry name
  · intro name r' found
    rw [judged.registry] at found
    split at found
    · cases found
      exact filled
    · exact h.message found

theorem marks (h : s.Agrees) {name r state dirty touched} (marked : Marks s s' name r state dirty touched)
    (named : r.name = name) : s'.Agrees := by
  subst named
  constructor
  · intro m
    have before := h.entry m
    unfold Summary.get? at before ⊢
    rw [marked.entries,before,marked.registry]
    split
    · rename_i own
      rw [own,marked.found]
      rfl
    · rfl
  · intro m r' found
    rw [marked.registry] at found
    have known := h.message marked.found
    split at found
    · cases found
      exact known
    · exact h.message found

theorem removed (h : s.Agrees) (name : String) : (s.remove name).Agrees := by
  rw [removeEq]
  constructor
  · intro m
    have entry : (s.summary.clear name).get? m = if m = name then none else s.summary.get? m :=
      Table.getAfterDrop s.summary.entries name m
    refine entry.trans ?_
    rw [Registry.findRemove]
    split
    · rfl
    · exact h.entry m
  · intro m r found
    have before : (s.registry.remove name).find? m = some r := found
    rw [Registry.findRemove] at before
    split at before
    · contradiction
    · exact h.message before

theorem rang (h : s.Agrees) (filed : s.Filed) (a : Alarm) : (s.expire a).2.Agrees := by
  have outcomes := rung s a
  generalize s.expire a = answer at outcomes
  cases outcomes with
  | stale => exact h
  | broken => exact h.same rfl rfl
  | heard found _ _ answered =>
    obtain ⟨p,pipeline,keyed⟩ := filed.pipelineKeyed (filed.proper found)
    exact h.judges (heardJudges answered) pipeline keyed

theorem move (h : s.Agrees) (ordered : s.Ordered) (move : s.Move s') : s'.Agrees := by
  have marked {name r event} (found : s.registry.find? name = some r) :
      ∃ p, (mark r event).pipeline = some p ∧ p.Keyed := by
    obtain ⟨p,pipeline,keyed⟩ := ordered.pipelineKeyed (ordered.proper found)
    exact ⟨p,(markPipeline r event).trans pipeline,keyed⟩
  cases move with
  | beside same => exact h.same same.registry same.entries
  | enrol entry answered =>
    have proper := (enlistedProper ordered.toFiled entry).1
    obtain ⟨p,pipeline,keyed⟩ := (ordered.enlisted entry).pipelineKeyed proper
    exact h.judges (enrolJudges entry answered) pipeline keyed
  | excuse found answered =>
    obtain ⟨p,pipeline,keyed⟩ := marked found
    exact h.judges (settleJudges s _ .valid answered) pipeline keyed
  | «show» found answered =>
    obtain ⟨p,pipeline,keyed⟩ := marked found
    exact h.judges (showJudges s _ answered) pipeline keyed
  | postpone found answered =>
    obtain ⟨p,pipeline,keyed⟩ := marked found
    exact h.judges ((settleJudges s _ .pending answered).arm _ _) pipeline keyed
  | discard name => exact h.removed name
  | reject e =>
    cases found : s.registry.find? e.field with
    | none =>
      rw [rejectAbsent found]
      exact h
    | some r => exact h.marks (rejectMarks found) (ordered.proper found).named
  | abandon name =>
    cases found : s.registry.find? name with
    | none =>
      rw [abandonAbsent found]
      exact h.same rfl rfl
    | some r =>
      have named := (ordered.proper found).named
      exact h.marks (abandonMarks found named) named
  | forget => exact ⟨fun _ => rfl,fun found => by contradiction⟩
  | lapse => exact h.same rfl rfl
  | @ring _ t scheduler _ _ _ rang =>
    have filed : Filed { s with scheduler := scheduler } := ordered.toFiled.untouched rfl rfl rfl rfl
    have agrees : Agrees { s with scheduler := scheduler } := h.same rfl rfl
    have after := agrees.rang filed t.payload
    rwa [rang] at after
  | @late a _ _ rang =>
    have after := h.rang ordered.toFiled a
    rwa [rang] at after

theorem moves (h : s.Agrees) (ordered : s.Ordered) (moves : s.Moves s') : s'.Agrees := by
  induction moves with
  | refl => exact h
  | tail before step ih => exact ih.move (ordered.moves before) step

theorem event (h : s.Agrees) (ordered : s.Ordered) {e : SessionEvent} (possible : e.Possible s)
    (smooth : ¬ e.BreaksDown s) : (e.run s).2.Agrees := by
  cases eventEffect possible with
  | leads leads =>
    cases leads with
    | moves moves => exact h.moves ordered moves
    | breakdown failed => exact absurd failed smooth
  | retunes _ _ entry answered post =>
    have proper := (retunedProper ordered.toFiled entry).1
    obtain ⟨p,pipeline,keyed⟩ := (ordered.retuned entry).pipelineKeyed proper
    rw [post]
    exact h.judges (retuneJudges entry answered) pipeline keyed

end Agrees

theorem runAgrees {opening : Session} {past s} (opened : opening.Opened) (run : opening.Run past s)
    (smooth : Smooth past) : s.Agrees := by
  induction run with
  | start =>
    refine ⟨fun name => ?_,fun found => ?_⟩
    · rw [opened.summary,opened.registry]
      rfl
    · rw [opened.registry] at found
      contradiction
  | next before e possible ih => exact (ih smooth.tail).event (runOrdered opened before) possible smooth.head

theorem summaryFollowsRegistry {opening : Session} {past s} (opened : opening.Opened)
    (run : opening.Run past s) (smooth : Smooth past) (name : String) :
    ((∃ e, s.summary.get? name = some e) ↔ ∃ r, s.registry.find? name = some r ∧ r.isValid = false) ∧
    (∀ e, s.summary.get? name = some e → ∃ r, s.registry.find? name = some r ∧ r.message ≠ "" ∧
      e = ⟨name,r.message,r.friendlyName,r.form⟩) ∧
    (∀ r, s.registry.find? name = some r → r.isValid = true → r.message = "") ∧
    (∀ e, e ∈ s.summary.all ↔ s.summary.get? e.field = some e) := by
  have agrees := runAgrees opened run smooth
  have ordered := runOrdered opened run
  have entry := agrees.entry name
  refine ⟨?_,?_,fun r found valid => (agrees.message found).mp valid,fun e => Summary.memAll ordered.summary⟩
  · rw [entry]
    cases s.registry.find? name with
    | none => simp
    | some r => cases valid : r.isValid <;> simp [Record.entry?,valid]
  · intro e found
    rw [entry] at found
    obtain ⟨r,registered,said⟩ := Option.bind_eq_some_iff.mp found
    unfold Record.entry? at said
    split at said
    · contradiction
    · rename_i bad
      cases said
      refine ⟨r,registered,fun none => bad ((agrees.message registered).mpr none),?_⟩
      rw [(ordered.proper registered).named]

def lateAlarmPast : List SessionEvent :=
  [.late ⟨0,"x",.text "b",0⟩,.validate (.text "x") (.text "a") (.text "blur"),
    .validate (.text "x") (.text "b") .null,.add (.text "x") (.text "letter")]

theorem summaryFollowsLateAlarm :
    ((smallPage false).live lateAlarmPast).2.summary.all = [⟨"x","NO_A","",none⟩] ∧
    ∃ r, ((smallPage false).live lateAlarmPast).2.registry.find? "x" = some r ∧ r.isValid = false := by
  have entered : ((smallPage false).live lateAlarmPast).2.summary.get? "x" = some ⟨"x","NO_A","",none⟩ := by
    decide +kernel
  have run : (smallPage false).Run _ ((smallPage false).live lateAlarmPast).2 := liveRun (.inl rfl)
  have follows := summaryFollowsRegistry (smallOpened false) run (by decide +kernel) "x"
  exact ⟨by decide +kernel,follows.1.mp ⟨_,entered⟩⟩

end Session
end FormGuard
