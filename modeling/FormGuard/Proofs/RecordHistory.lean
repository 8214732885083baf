import FormGuard.Proofs.LateTimers
import FormGuard.Proofs.TimePassing

/-! What a session keeps of itself through all that happens to it. A record that is registered stays the record it was
registered as, or it goes and no other ever bears its stamp; a timer keeps its alarm, and no alarm outruns the epoch
and the records of the session that armed it. Breakdowns and late alarms are no exception. -/
namespace FormGuard
namespace Record

def origin (r : Record) : Record :=
  { r with
    rules := ""
    isValid := false
    message := ""
    state := .unvalidated
    dirty := false
    touched := false
    pipeline := none }

def isHandled (r : Record) : Bool := r.dirty || r.touched

structure Becomes (r r' : Record) : Prop where
  origin : r'.origin = r.origin
  handled : r.isHandled = true → r'.isHandled = true

theorem Becomes.refl (r : Record) : r.Becomes r := ⟨rfl,id⟩

theorem Becomes.trans {r m r' : Record} (first : r.Becomes m) (second : m.Becomes r') : r.Becomes r' :=
  ⟨second.origin.trans first.origin,fun handled => second.handled (first.handled handled)⟩

theorem Becomes.stamp {r r' : Record} (becomes : r.Becomes r') : r'.stamp = r.stamp := by
  have same : r'.origin.stamp = r.origin.stamp := by rw [becomes.origin]
  exact same

theorem Becomes.typingLimit {r r' : Record} (becomes : r.Becomes r') : r'.typingLimit = r.typingLimit := by
  have same : r'.origin.typingLimit = r.origin.typingLimit := by rw [becomes.origin]
  exact same

theorem Becomes.judged (r : Record) (o : FieldOutcome) (state : FieldState) :
    r.Becomes { r.withVerdict o with state := state } := ⟨rfl,id⟩

theorem Becomes.marked (r : Record) (event : InputEvent) : r.Becomes (Session.mark r event) := by
  cases event <;> exact ⟨rfl,by simp +contextual [isHandled,Session.mark]⟩

theorem Becomes.rebound (r : Record) (rules : String) (p : Option Pipeline) :
    r.Becomes { r.rebind rules with pipeline := p } := by
  unfold rebind
  split <;> exact ⟨rfl,id⟩

theorem markedHandled (r : Record) (event : InputEvent) : (Session.mark r event).isHandled = true := by
  cases event <;> simp [isHandled,Session.mark]

end Record

namespace Session

def Grown (s s' : Session) : Prop := ∀ name r', s'.registry.find? name = some r' →
  s.made ≤ r'.stamp ∨ ∃ r, s.registry.find? name = some r ∧ r.Becomes r'

structure Grounds (s : Session) (a : Alarm) : Prop where
  epoch : a.epoch ≤ s.epoch
  stamp : a.stamp < s.made
  handled {r} : s.Finds a r → r.isHandled = true

structure Follows (s s' : Session) : Prop where
  made : s.made ≤ s'.made
  epoch : s.epoch ≤ s'.epoch
  armed : s.scheduler.armed ≤ s'.scheduler.armed
  grown : s.Grown s'
  timer : ∀ t ∈ s'.scheduler.queue, s.scheduler.armed ≤ t.stamp ∧ s'.Grounds t.payload ∨
    ∃ u ∈ s.scheduler.queue, t = u ∨ t = { u with isCancelled := true }

theorem Finds.before {s s' : Session} {a : Alarm} {r'} (follows : s.Follows s') (epoch : a.epoch ≤ s.epoch)
    (stamp : a.stamp < s.made) (finds : s'.Finds a r') : ∃ r, s.Finds a r ∧ r.Becomes r' := by
  have later := follows.epoch
  have current := finds.epoch
  rcases follows.grown _ _ finds.found with young | ⟨r,found,becomes⟩
  · have := finds.stamp
    omega
  · exact ⟨r,⟨found,by omega,finds.stamp.trans becomes.stamp⟩,becomes⟩

theorem Follows.becomes {s s' : Session} (follows : s.Follows s') {name r r'} (made : r.stamp < s.made)
    (found : s.registry.find? name = some r) (found' : s'.registry.find? name = some r') (same : r'.stamp = r.stamp) :
    r.Becomes r' := by
  rcases follows.grown _ _ found' with young | ⟨r₀,found₀,becomes⟩
  · omega
  · cases found.symm.trans found₀
    exact becomes

theorem Grounds.later {s s' : Session} {a : Alarm} (grounds : s.Grounds a) (follows : s.Follows s') :
    s'.Grounds a where
  epoch := Nat.le_trans grounds.epoch follows.epoch
  stamp := Nat.lt_of_lt_of_le grounds.stamp follows.made
  handled finds := by
    obtain ⟨r,before,becomes⟩ := finds.before follows grounds.epoch grounds.stamp
    exact becomes.handled (grounds.handled before)

theorem Grown.trans {s m s' : Session} (first : s.Grown m) (made : s.made ≤ m.made) (second : m.Grown s') :
    s.Grown s' := by
  intro name r' found
  rcases second name r' found with young | ⟨r,found,becomes⟩
  · exact .inl (Nat.le_trans made young)
  · rcases first name r found with young | ⟨r₀,found₀,earlier⟩
    · exact .inl (by rw [becomes.stamp]; exact young)
    · exact .inr ⟨r₀,found₀,earlier.trans becomes⟩

theorem Follows.trans {s m s' : Session} (first : s.Follows m) (second : m.Follows s') : s.Follows s' where
  made := Nat.le_trans first.made second.made
  epoch := Nat.le_trans first.epoch second.epoch
  armed := Nat.le_trans first.armed second.armed
  grown := first.grown.trans first.made second.grown
  timer := by
    intro t member
    rcases second.timer t member with ⟨young,grounds⟩ | ⟨u,inside,same⟩
    · exact .inl ⟨Nat.le_trans first.armed young,grounds⟩
    · have alike : t.stamp = u.stamp ∧ t.payload = u.payload := by rcases same with rfl | rfl <;> exact ⟨rfl,rfl⟩
      rcases first.timer u inside with ⟨young,grounds⟩ | ⟨w,first,same'⟩
      · refine .inl ⟨?_,?_⟩
        · rw [alike.1]
          exact young
        · rw [alike.2]
          exact grounds.later second
      · refine .inr ⟨w,first,?_⟩
        rcases same with rfl | rfl
        · exact same'
        · rcases same' with rfl | rfl <;> exact .inr rfl

theorem Grown.same {s s' : Session} (registry : s'.registry = s.registry) : s.Grown s' := by
  intro name r found
  rw [registry] at found
  exact .inr ⟨r,found,.refl r⟩

theorem Grown.put {s s' : Session} {name r}
    (registry : ∀ m, s'.registry.find? m = if m = name then some r else s.registry.find? m)
    (own : s.made ≤ r.stamp ∨ ∃ r₀, s.registry.find? name = some r₀ ∧ r₀.Becomes r) : s.Grown s' := by
  intro m r' found
  rw [registry] at found
  split at found
  · rename_i same
    cases found
    rw [same]
    exact own
  · exact .inr ⟨r',found,.refl r'⟩

theorem Judges.grown {s s' : Session} {r o state} (judged : Judges s s' r o state)
    (own : s.made ≤ r.stamp ∨ ∃ r₀, s.registry.find? r.name = some r₀ ∧ r₀.Becomes r) : s.Grown s' := by
  refine .put judged.registry (own.imp_right ?_)
  rintro ⟨r₀,found,becomes⟩
  exact ⟨r₀,found,becomes.trans (.judged r o state)⟩

theorem Marks.grown {s s' : Session} {name r state dirty touched} (marked : Marks s s' name r state dirty touched)
    (named : r.name = name) (handled : r.isHandled = true → (dirty || touched) = true) : s.Grown s' :=
  .put marked.registry (.inr ⟨r,by rw [named]; exact marked.found,rfl,handled⟩)

theorem Follows.silenced {s s' : Session} {name : String} (grown : s.Grown s') (made : s.made ≤ s'.made)
    (epoch : s.epoch ≤ s'.epoch) (scheduler : s'.scheduler = s.silenced name) : s.Follows s' where
  made := made
  epoch := epoch
  armed := Nat.le_of_eq (by rw [scheduler,silencedArmed])
  grown := grown
  timer := by
    intro t member
    rw [scheduler,silencedQueue] at member
    obtain ⟨u,inside,rfl⟩ := List.mem_map.mp member
    refine .inr ⟨u,inside,?_⟩
    split
    · exact .inr rfl
    · exact .inl rfl

theorem Follows.shrunk {s s' : Session} (grown : s.Grown s') (made : s.made ≤ s'.made) (epoch : s.epoch ≤ s'.epoch)
    (armed : s'.scheduler.armed = s.scheduler.armed)
    (queue : ∀ t ∈ s'.scheduler.queue, t ∈ s.scheduler.queue) : s.Follows s' :=
  ⟨made,epoch,Nat.le_of_eq armed.symm,grown,fun t member => .inr ⟨t,queue t member,.inl rfl⟩⟩

theorem Follows.kept {s s' : Session} (grown : s.Grown s') (made : s.made ≤ s'.made) (epoch : s.epoch ≤ s'.epoch)
    (scheduler : s'.scheduler = s.scheduler) : s.Follows s' :=
  .shrunk grown made epoch (by rw [scheduler]) fun t member => by rwa [scheduler] at member

theorem Follows.refl (s : Session) : s.Follows s := .kept (.same rfl) (Nat.le_refl _) (Nat.le_refl _) rfl

theorem drawnFollows {s : Session} {target t scheduler} (drawn : s.scheduler.next? target = some (t,scheduler)) :
    s.Follows { s with scheduler := scheduler } := by
  obtain ⟨queue,armed⟩ := Scheduler.drawnHead drawn
  refine .shrunk (.same rfl) (Nat.le_refl _) (Nat.le_refl _) armed fun u member => ?_
  rw [queue]
  exact List.mem_cons_of_mem _ member

theorem enlistedFollows {s s' : Session} {attributes r} (entry : s.enlist attributes = (.ok r,s')) :
    s.Follows s' := by
  obtain ⟨stamp,_,_,_,_,rfl⟩ := enlisted entry
  exact .silenced (.put (fun _ => Registry.findUpsert) (.inl (Nat.le_of_eq stamp.symm))) (Nat.le_succ _)
    (Nat.le_refl _) rfl

theorem retunedFollows {s s' : Session} {name rules r} (filed : s.Filed) (entry : s.retune name rules = (.ok r,s')) :
    s.Follows s' := by
  have named := (retunedProper filed entry).1.named
  obtain ⟨r₀,p,found,_,rfl,rfl⟩ := retuned entry
  refine .silenced (.put (fun m => ?_) (.inr ⟨r₀,found,.rebound r₀ rules (some p)⟩)) (Nat.le_refl _) (Nat.le_refl _) rfl
  rw [← named]
  exact Registry.findUpsert

theorem acceptedFollows {s : Session} {r : Record} (found : s.registry.find? r.name = some r) (o : FieldOutcome) :
    s.Follows (s.accept r o) :=
  .kept (.put (fun _ => Registry.findUpsert) (.inr ⟨r,found,.judged r o _⟩)) (Nat.le_refl _) (Nat.le_refl _) rfl

theorem markedFollows {s : Session} {name r} (filed : s.Filed) (found : s.registry.find? name = some r)
    (event : InputEvent) : s.Follows (s.store (mark r event)) := by
  refine .kept (.put (fun _ => Registry.findUpsert) (.inr ⟨r,?_,.marked r event⟩)) (Nat.le_refl _) (Nat.le_refl _) rfl
  rw [markName,(filed.proper found).named]
  exact found

theorem expiredFollows {s : Session} (filed : s.Filed) (a : Alarm) : s.Follows (s.expire a).2 := by
  have outcomes := rung s a
  generalize s.expire a = answer at outcomes
  cases outcomes with
  | stale => exact .refl s
  | broken => exact .kept (.same rfl) (Nat.le_refl _) (Nat.le_refl _) rfl
  | @heard r o found _ _ answered =>
    have own : s.registry.find? r.name = some r := by rw [(filed.proper found).named]; exact found
    have grown := (heardJudges answered).grown (.inr ⟨r,own,.refl r⟩)
    rw [presentEq] at grown ⊢
    exact .kept grown (Nat.le_refl _) (Nat.le_refl _) rfl

theorem armedFollows {s : Session} {r : Record} {v} (stamp : r.stamp < s.made)
    (handled : ∀ r', s.registry.find? r.name = some r' → r'.isHandled = true) : s.Follows (s.arm r v) := by
  let t : Timer Alarm :=
    ⟨s.scheduler.prune.now + max r.typingLimit.ms 0,s.scheduler.prune.armed,⟨r.stamp,r.name,v,s.epoch⟩,false⟩
  have fresh : t.stamp = s.scheduler.armed := Scheduler.pruneArmed _
  have queue : (s.arm r v).scheduler.queue.Perm (t :: s.scheduler.prune.queue) := Scheduler.insertPerm _ _
  refine ⟨Nat.le_refl _,Nat.le_refl _,?_,.same rfl,fun u member => ?_⟩
  · have armed : (s.arm r v).scheduler.armed = t.stamp + 1 := rfl
    omega
  · rcases List.mem_cons.mp (queue.mem_iff.mp member) with rfl | inside
    · exact .inl ⟨Nat.le_of_eq fresh.symm,Nat.le_refl _,stamp,fun finds => handled _ finds.found⟩
    · exact .inr ⟨u,s.scheduler.pruneSublist.subset inside,.inl rfl⟩

theorem moveFollows {s s' : Session} (filed : s.Filed) (move : s.Move s') : s.Follows s' := by
  have marked {name r} (event) (found : s.registry.find? name = some r) :
      ∃ r₀, s.registry.find? (mark r event).name = some r₀ ∧ r₀.Becomes (mark r event) :=
    ⟨r,by rw [markName,(filed.proper found).named]; exact found,.marked r event⟩
  cases move with
  | beside same =>
    exact .shrunk (.same same.registry) (Nat.le_of_eq same.made.symm) (Nat.le_of_eq same.epoch.symm) same.armed
      fun t member => by rwa [same.queue] at member
  | enrol entry =>
    refine (enlistedFollows entry).trans (acceptedFollows ?_ _)
    obtain ⟨_,_,_,_,_,rfl⟩ := enlisted entry
    exact Registry.findUpserted
  | @excuse name r v event o found answered =>
    have judged := settleJudges s name .valid answered
    rw [noteEq] at judged ⊢
    exact .silenced (judged.grown (.inr (marked event found))) (Nat.le_refl _) (Nat.le_refl _) rfl
  | @«show» name r v event o found answered =>
    have judged := showJudges s name answered
    rw [presentEq,noteEq] at judged ⊢
    exact .silenced (judged.grown (.inr (marked event found))) (Nat.le_refl _) (Nat.le_refl _) rfl
  | @postpone name r v event o found answered =>
    have judged := settleJudges s name .pending answered
    have proper := filed.proper found
    rw [noteEq] at judged ⊢
    have settled : s.Follows _ :=
      .silenced (judged.grown (.inr (marked event found))) (Nat.le_refl _) (Nat.le_refl _) rfl
    refine settled.trans (armedFollows ?_ ?_)
    · change (mark r event).stamp < s.made
      rw [markStamp]
      exact proper.made
    · intro r' registered
      have entry := (judged.registry (mark r event).name).symm.trans registered
      rw [if_pos rfl] at entry
      cases entry
      exact Record.markedHandled r event
  | discard name =>
    rw [removeEq]
    refine .silenced (fun m r' found => ?_) (Nat.le_refl _) (Nat.le_refl _) rfl
    have entry : (s.registry.remove name).find? m = some r' := found
    rw [Registry.findRemove] at entry
    split at entry
    · contradiction
    · exact .inr ⟨r',entry,.refl r'⟩
  | reject e =>
    cases found : s.registry.find? e.field with
    | none =>
      rw [rejectAbsent found]
      exact .refl s
    | some r =>
      have grown := (rejectMarks found).grown (filed.proper found).named fun _ => Bool.or_true _
      rw [rejectEq found] at grown ⊢
      exact .silenced grown (Nat.le_refl _) (Nat.le_refl _) rfl
  | abandon name =>
    cases found : s.registry.find? name with
    | none =>
      rw [abandonAbsent found]
      exact .silenced (.same rfl) (Nat.le_refl _) (Nat.le_refl _) rfl
    | some r =>
      have named := (filed.proper found).named
      have grown := (abandonMarks found named).grown named id
      rw [abandonEq found] at grown ⊢
      exact .silenced grown (Nat.le_refl _) (Nat.le_refl _) rfl
  | forget => exact .kept (fun _ _ found => by contradiction) (Nat.le_refl _) (Nat.le_succ _) rfl
  | lapse drawn => exact drawnFollows drawn
  | @ring _ t scheduler _ drawn _ rang =>
    have out : Filed { s with scheduler := scheduler } := filed.untouched rfl rfl rfl rfl
    have sounded := expiredFollows out t.payload
    rw [rang] at sounded
    exact (drawnFollows drawn).trans sounded
  | @late a _ _ rang =>
    have sounded := expiredFollows filed a
    rwa [rang] at sounded

theorem movesFollow {s s' : Session} (ordered : s.Ordered) (moves : s.Moves s') : s.Follows s' := by
  induction moves with
  | refl => exact .refl s
  | tail before step ih => exact ih.trans (moveFollows (ordered.moves before).toFiled step)

theorem breakdownFollows {s s' : Session} (filed : s.Filed) (broke : s.Breakdown s') : s.Follows s' := by
  cases broke with
  | enrol entry => exact enlistedFollows entry
  | retune entry => exact retunedFollows filed entry
  | note found => exact markedFollows filed found _
  | @ring _ t scheduler _ _ drawn _ broke =>
    have out : Filed { s with scheduler := scheduler } := filed.untouched rfl rfl rfl rfl
    have sounded := expiredFollows out t.payload
    rw [broke] at sounded
    exact (drawnFollows drawn).trans sounded
  | @late a _ _ _ broke =>
    have sounded := expiredFollows filed a
    rwa [broke] at sounded

theorem eventFollows {s : Session} {e : SessionEvent} (ordered : s.Ordered) (possible : e.Possible s) :
    s.Follows (e.run s).2 := by
  cases eventEffect possible with
  | leads leads =>
    cases leads with
    | moves moves => exact movesFollow ordered moves
    | breakdown _ moves broke =>
      exact (movesFollow ordered moves).trans (breakdownFollows (ordered.moves moves).toFiled broke)
  | retunes _ _ entry answered post =>
    rw [post]
    refine (retunedFollows ordered.toFiled entry).trans (acceptedFollows ?_ _)
    obtain ⟨_,_,_,_,_,rfl⟩ := retuned entry
    exact Registry.findUpserted

end Session

namespace Moment

def after (m : Moment) : Session := (m.event.run m.before).2

def Arms (m : Moment) (a : Alarm) : Prop :=
  ∃ t ∈ m.after.scheduler.queue, m.before.scheduler.armed ≤ t.stamp ∧ t.payload = a

end Moment

namespace Session

theorem Run.since {opening : Session} {newer older : List Moment} {g : Moment} {s} (opened : opening.Opened)
    (run : opening.Run (newer ++ g :: older) s) :
    opening.Run older g.before ∧ g.event.Possible g.before ∧ g.after.Follows s := by
  induction newer generalizing s with
  | nil =>
    cases run with
    | next before e possible => exact ⟨before,possible,.refl _⟩
  | cons m rest ih =>
    cases run with
    | next before e possible =>
      obtain ⟨older,able,follows⟩ := ih before
      exact ⟨older,able,follows.trans (eventFollows (runOrdered opened before) possible)⟩

theorem armedGrounds {opening : Session} {past s a} (opened : opening.Opened) (run : opening.Run past s)
    (armed : ∃ m ∈ past, m.Arms a) : s.Grounds a := by
  obtain ⟨m,member,t,queued,young,rfl⟩ := armed
  obtain ⟨newer,older,rfl⟩ := List.append_of_mem member
  obtain ⟨before,possible,follows⟩ := run.since opened
  have ordered := runOrdered opened before
  rcases (eventFollows ordered possible).timer t queued with ⟨_,grounds⟩ | ⟨u,inside,same⟩
  · exact grounds.later follows
  · have old := ordered.queued u inside
    have stamp : t.stamp = u.stamp := by rcases same with rfl | rfl <;> rfl
    omega

def Grounded (s : Session) : Prop := ∀ t ∈ s.scheduler.queue, s.Grounds t.payload

theorem Follows.grounded {s s' : Session} (follows : s.Follows s') (grounded : s.Grounded) : s'.Grounded := by
  intro t member
  rcases follows.timer t member with ⟨_,grounds⟩ | ⟨u,inside,same⟩
  · exact grounds
  · have payload : t.payload = u.payload := by rcases same with rfl | rfl <;> rfl
    rw [payload]
    exact (grounded u inside).later follows

theorem runGrounded {opening : Session} {past s} (opened : opening.Opened) (run : opening.Run past s) : s.Grounded := by
  induction run with
  | start => simp [Grounded,opened.scheduler,Scheduler.start]
  | next before e possible ih => exact (eventFollows (runOrdered opened before) possible).grounded ih

theorem pendingLimit {s s' : Session} {name v event r} (ok : s.validate name v event = (.ok .pending,s'))
    (found : s.registry.find? name = some r) : 0 < r.typingLimit.ms := by
  have limit : (mark r event).typingLimit = r.typingLimit := (Record.Becomes.marked r event).typingLimit
  unfold validate at ok
  rw [found] at ok
  dsimp only at ok
  split at ok
  · cases ok
  · rename_i o answered
    split at ok
    · cases ok
    · split at ok
      · have state := congrArg Prod.fst ok
        dsimp only at state
        split at state <;> cases state
      · rename_i later
        simp only [showsAtOnce,Bool.or_eq_true,decide_eq_true_eq,not_or] at later
        have waits : ¬ (mark r event).typingLimit.ms ≤ 0 := later.1.2
        rw [limit] at waits
        omega

theorem pendingTimer {s s' : Session} {name v event} (filed : s.Filed)
    (ok : s.validate name v event = (.ok .pending,s')) :
    ∃ r, s.registry.find? name = some r ∧
      ⟨s.scheduler.now + r.typingLimit.ms,s.scheduler.armed,⟨r.stamp,name,v,s.epoch⟩,false⟩ ∈ s'.scheduler.queue := by
  have waits {r} := pendingLimit (r := r) ok
  have outcomes := noted s name v event
  rw [ok] at outcomes
  generalize answer : FieldState.pending = state at outcomes
  cases outcomes with
  | excused => cases answer
  | @shown r o => exact absurd answer.symm (verdictShown o).1
  | @postponed r o found =>
    have named : (mark r event).name = name := (markName r event).trans (filed.proper found).named
    have limit : (mark r event).typingLimit = r.typingLimit := (Record.Becomes.marked r event).typingLimit
    obtain ⟨queued,_⟩ := postponedTimer s named o v
    rw [markStamp,limit,Int.max_eq_left (Int.le_of_lt (waits found))] at queued
    exact ⟨r,found,queued⟩

end Session
end FormGuard
