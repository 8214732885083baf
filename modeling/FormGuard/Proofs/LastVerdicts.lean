import FormGuard.Proofs.SessionOrder
import FormGuard.Proofs.TimePassing

/-! The verdicts that a session has come to, whatever led to them: a field registered, other rules for it, a value given
to it, a timer. While nothing breaks down, a record that is registered bears the latest verdict on its field. -/
namespace FormGuard

def Question.verdict? (q : Question) : Option (String × FieldOutcome) :=
  match q.answer with
  | .ok o => some (q.record.name,o)
  | .error _ => none

namespace SessionEvent

def verdict? (e : SessionEvent) (s : Session) : Option (String × FieldOutcome) :=
  (e.question? s).bind Question.verdict?

end SessionEvent

def Ringing.verdict? (g : Ringing) : Option (String × FieldOutcome) :=
  (SessionEvent.late g.timer.payload).verdict? g.before

namespace SessionEvent

def verdicts : SessionEvent → Session → Table FieldOutcome
  | advance ms,s => ((s.ringings (s.scheduler.now + ms)).filterMap Ringing.verdict?).reverse
  | e,s => (e.verdict? s).toList

theorem verdictsAsked {e : SessionEvent} {s : Session} {q o} (asked : e.question? s = some q) (answered : q.answer = .ok o) :
    e.verdicts s = [(q.record.name,o)] := by
  have verdict : e.verdict? s = some (q.record.name,o) := by
    unfold verdict? Question.verdict?
    rw [asked,Option.bind_some,answered]
  cases e <;> first | contradiction | exact congrArg Option.toList verdict

theorem verdictsUnasked {e : SessionEvent} {s : Session} (timeless : ∀ ms, e ≠ .advance ms)
    (unasked : e.question? s = none) : e.verdicts s = [] := by
  have none : e.verdict? s = none := by
    unfold verdict?
    rw [unasked]
    rfl
  cases e <;> first | exact absurd rfl (timeless _) | exact congrArg Option.toList none

end SessionEvent

structure Record.Bears (r : Record) (o : FieldOutcome) : Prop where
  valid : r.isValid = o.valid
  message : r.message = if o.valid then "" else o.message

namespace Session

def verdicts (past : List Moment) : Table FieldOutcome := past.flatMap fun m => m.event.verdicts m.before

def lastVerdict (name : String) (past : List Moment) : Option FieldOutcome := (verdicts past).get? name

def Judged (log : Table FieldOutcome) (s : Session) : Prop :=
  ∀ name r, s.registry.find? name = some r → ∃ o, log.get? name = some o ∧ r.Bears o

variable {log : Table FieldOutcome} {s s' : Session}

theorem Judged.same (h : Judged log s) (kept : ∀ name r', s'.registry.find? name = some r' →
    ∃ r, s.registry.find? name = some r ∧ r'.isValid = r.isValid ∧ r'.message = r.message) : Judged log s' := by
  intro name r' found
  obtain ⟨r,before,valid,message⟩ := kept name r' found
  obtain ⟨o,last,bears⟩ := h name r before
  exact ⟨o,last,valid.trans bears.valid,message.trans bears.message⟩

theorem Judged.marks (h : Judged log s) {name r state dirty touched}
    (marked : Marks s s' name r state dirty touched) (named : r.name = name) : Judged log s' := by
  refine h.same fun m r' found => ?_
  rw [marked.registry] at found
  split at found
  · rename_i own
    cases found
    exact ⟨r,by rw [own,named]; exact marked.found,rfl,rfl⟩
  · exact ⟨r',found,rfl,rfl⟩

theorem Judged.judges (h : Judged log s) {r o state} (judged : Judges s s' r o state) :
    Judged ((r.name,o) :: log) s' := by
  intro name r' found
  rw [judged.registry] at found
  rw [Table.getOfCons]
  split at found
  · rename_i own
    cases found
    exact ⟨o,if_pos own,rfl,rfl⟩
  · rename_i other
    rw [if_neg other]
    exact h name r' found

theorem Judged.step (h : Judged log s) (filed : s.Filed) (step : s.QuietStep s') : Judged log s' := by
  cases step with
  | aside same => exact h.same fun m r found => ⟨r,by rwa [same.registry] at found,rfl,rfl⟩
  | discard name =>
    rw [removeEq]
    refine h.same fun m r found => ?_
    have entry : (s.registry.remove name).find? m = some r := found
    rw [Registry.findRemove] at entry
    split at entry
    · contradiction
    · exact ⟨r,entry,rfl,rfl⟩
  | reject e =>
    cases found : s.registry.find? e.field with
    | none =>
      rw [rejectAbsent found]
      exact h
    | some r => exact h.marks (rejectMarks found) (filed.proper found).named
  | abandon name =>
    cases found : s.registry.find? name with
    | none =>
      rw [abandonAbsent found]
      exact h
    | some r =>
      have named := (filed.proper found).named
      exact h.marks (abandonMarks found named) named

theorem Judged.quiet (h : Judged log s) (ordered : s.Ordered) (quiet : s.Quiet s') : Judged log s' := by
  induction quiet with
  | refl => exact h
  | tail before step ih => exact ih.step (ordered.moves (Quiet.moves before)).toFiled step

theorem lateUnasked {a : Alarm}
    (stale : ∀ r, s.registry.find? a.field = some r → ¬ (a.epoch = s.epoch ∧ a.stamp = r.stamp)) :
    (SessionEvent.late a).question? s = none := by
  simp only [SessionEvent.question?]
  split
  · rfl
  · rename_i r found
    exact if_neg (stale r found)

theorem lateAsked {a : Alarm} {r} (found : s.registry.find? a.field = some r) (epoch : a.epoch = s.epoch)
    (stamp : a.stamp = r.stamp) : (SessionEvent.late a).question? s = some ⟨s.untrack a.field,r,a.value⟩ := by
  simp only [SessionEvent.question?,found]
  exact if_pos ⟨epoch,stamp⟩

theorem Judged.expired (h : Judged log s) {a : Alarm} (done : (s.expire a).1 = .ok ()) :
    Judged ((SessionEvent.late a).verdicts s ++ log) (s.expire a).2 := by
  have outcomes := rung s a
  generalize s.expire a = answer at outcomes done
  cases outcomes with
  | stale stale =>
    rw [SessionEvent.verdictsUnasked (by simp) (lateUnasked stale)]
    exact h
  | broken => contradiction
  | heard found epoch stamp answered =>
    rw [SessionEvent.verdictsAsked (lateAsked found epoch stamp) answered]
    exact h.judges (heardJudges answered)

theorem firedJudged {target : Int} {count n : Nat} (ok : fireUntil target count s = (.ok n,s')) : ∀ {log},
    Judged log s → Judged (((s.ringings target).filterMap Ringing.verdict?).reverse ++ log) s' := by
  fun_induction fireUntil target count s with
  | case1 count s idle =>
    cases ok
    intro log h
    rw [ringingsIdle idle]
    exact h
  | case2 count s t scheduler drawn due dead ih =>
    intro log h
    rw [ringingsLapse drawn dead]
    exact ih ok h
  | case3 count s t scheduler drawn due live f broke => cases ok
  | case4 count s t scheduler drawn due live done ih =>
    intro log h
    rw [ringingsRing drawn (by simpa using live) done]
    have before : Judged log due := h
    have after := ih ok (before.expired done)
    have first : (SessionEvent.late t.payload).verdicts due = (Ringing.verdict? ⟨due,t⟩).toList := rfl
    rw [first] at after
    rw [List.filterMap_cons]
    cases verdict : Ringing.verdict? ⟨due,t⟩ with
    | none => rwa [verdict] at after
    | some v =>
      rw [verdict] at after
      simpa using after

theorem Judged.validated (h : Judged log s) {name v given state}
    (ok : s.validate name v (eventOf given) = (.ok state,s')) :
    Judged ((SessionEvent.validate (.text name) v given).verdicts s ++ log) s' := by
  have asked {r} (found : s.registry.find? name = some r) : (SessionEvent.validate (.text name) v given).question? s =
      some ⟨s.store (mark r (eventOf given)),mark r (eventOf given),v⟩ := by
    simp only [SessionEvent.question?,found,Option.map_some]
  have outcomes := noted s name v (eventOf given)
  rw [ok] at outcomes
  cases outcomes with
  | excused found answered =>
    rw [SessionEvent.verdictsAsked (asked found) answered]
    exact h.judges (settleJudges s name .valid answered)
  | shown found answered =>
    rw [SessionEvent.verdictsAsked (asked found) answered]
    exact h.judges (showJudges s name answered)
  | postponed found answered =>
    rw [SessionEvent.verdictsAsked (asked found) answered]
    exact h.judges ((settleJudges s name .pending answered).arm _ _)

theorem Judged.course {e} (h : Judged log s) (ordered : s.Ordered) (smooth : ¬ e.BreaksDown s)
    (course : Course e s s') : Judged (e.verdicts s ++ log) s' := by
  cases course with
  | silent unasked timeless _ quiet =>
    rw [SessionEvent.verdictsUnasked timeless unasked]
    exact h.quiet ordered quiet
  | resets _ clears =>
    intro name r found
    rw [clears.registry] at found
    contradiction
  | enrols adding given entry answered =>
    subst adding
    have asked := SessionEvent.addQuestion (s := s) given
    rw [entry] at asked
    rw [SessionEvent.verdictsAsked asked answered]
    exact h.judges (enrolJudges entry answered)
  | @retunes name _ _ _ _ _ rebinding spelled entry answered =>
    subst rebinding
    have asked := @SessionEvent.rebindQuestion s name _ _ spelled
    rw [entry] at asked
    rw [SessionEvent.verdictsAsked asked answered]
    exact h.judges (retuneJudges entry answered)
  | enters entering ok =>
    subst entering
    exact h.validated ok
  | elapses passing ok =>
    subst passing
    exact firedJudged ok h
  | @late a _ sounding _ ok =>
    subst sounding
    have after := h.expired (congrArg Prod.fst ok)
    rwa [ok] at after
  | breaks broke => exact absurd broke smooth

theorem runJudged {opening : Session} {past} (opened : opening.Opened) (run : opening.Run past s)
    (smooth : Smooth past) : Judged (verdicts past) s := by
  induction run with
  | start =>
    intro name r found
    rw [opened.registry] at found
    contradiction
  | next before e possible ih =>
    exact (ih smooth.tail).course (runOrdered opened before) smooth.head (eventCourse possible)

end Session
end FormGuard
