import FormGuard.Proofs.SessionSteps
import Mathlib.Logic.Relation

/-! What operations do to a session without putting a value to the rules: fields go, entries are turned down, timers are
called off, and what is written beside all that concerns no field. The page forgotten is a case of its own. -/
namespace FormGuard
namespace Session

structure Aside (s s' : Session) : Prop where
  registry : s'.registry = s.registry
  summary : s'.summary = s.summary
  messages : s'.display.messages = s.display.messages
  timers : s'.timers = s.timers
  scheduler : s'.scheduler = s.scheduler
  epoch : s'.epoch = s.epoch
  made : s'.made = s.made
  obeysCancel : s'.obeysCancel = s.obeysCancel
  book : s.catalog.Remembers → s.catalog.SameBook s'.catalog ∧ s'.catalog.Remembers

inductive QuietStep (s : Session) : Session → Prop where
  | aside {s'} (same : s.Aside s') : QuietStep s s'
  | discard (name : String) : QuietStep s (s.remove name)
  | reject (e : SummaryEntry) (entered : e ∈ s.summary.all) : QuietStep s (s.reject e)
  | abandon (name : String) : QuietStep s (s.abandon name)

def Quiet : Session → Session → Prop := Relation.ReflTransGen QuietStep

theorem Quiet.aside {s s'} (same : s.Aside s') : Quiet s s' := .single (.aside same)

theorem Aside.page (s : Session) {keep lastOnly source events hook options} :
    s.Aside { s with
      keepOnTransition := keep
      lastMessageOnly := lastOnly
      source := source
      display := { s.display with events := events }
      hook := hook
      options := options } :=
  ⟨rfl,rfl,rfl,rfl,rfl,rfl,rfl,rfl,fun h => ⟨.refl _,h⟩⟩

theorem Aside.refl (s : Session) : s.Aside s := .page s

theorem parseAside (s : Session) (rules : String) : s.Aside (s.parse rules).2 :=
  ⟨rfl,rfl,rfl,rfl,rfl,rfl,rfl,rfl,fun h => Catalog.parseKeeps h rules⟩

def Read (s s' : Session) : Prop := s' = s ∨ ∃ rules, s' = (s.parse rules).2

theorem Read.aside {s s' : Session} (read : s.Read s') : s.Aside s' := by
  rcases read with rfl | ⟨rules,rfl⟩
  · exact .refl _
  · exact parseAside s rules

theorem enlistFails {s : Session} {attributes f s'} (failed : s.enlist attributes = (.error f,s')) : s.Read s' := by
  unfold enlist at failed
  split at failed
  · cases failed
    exact .inl rfl
  · rename_i r _
    split at failed
    · rename_i parsed
      cases failed
      exact .inr ⟨r.rules,(congrArg Prod.snd parsed).symm⟩
    · cases failed

theorem retuneFails {s : Session} {name rules f s'} (failed : s.retune name rules = (.error f,s')) : s.Read s' := by
  unfold retune at failed
  split at failed
  · rename_i parsed
    cases failed
    exact .inr ⟨rules,(congrArg Prod.snd parsed).symm⟩
  · rename_i parsed
    split at failed
    · cases failed
      exact .inr ⟨rules,(congrArg Prod.snd parsed).symm⟩
    · cases failed

theorem rejectSummary (s : Session) (e : SummaryEntry) : (s.reject e).summary = s.summary := by
  cases found : s.registry.find? e.field with
  | none => rw [rejectAbsent found]
  | some r => rw [rejectEq found]

theorem rejectQuiet {entries : List SummaryEntry} {s : Session} (entered : ∀ e ∈ entries, e ∈ s.summary.all) :
    Quiet s (entries.foldl reject s) := by
  induction entries generalizing s with
  | nil => exact .refl
  | cons e rest ih =>
    have first : QuietStep s (s.reject e) := .reject e (entered e (by simp))
    refine .head first (ih fun k member => ?_)
    rw [rejectSummary]
    exact entered k (List.mem_cons_of_mem _ member)

theorem discardQuiet (names : List String) (s : Session) : Quiet s (names.foldl remove s) := by
  induction names generalizing s with
  | nil => exact .refl
  | cons name rest ih => exact .head (.discard name) (ih _)

theorem removeGivenQuiet (names : Value) (s : Session) : Quiet s (s.removeGiven names).2 :=
  removeGivenKeeps (fun _ name quiet => quiet.tail (.discard name)) (fun t _ quiet => quiet.tail (.aside (.page t)))
    names .refl

theorem abandonTimers (s : Session) (name : String) : (s.abandon name).timers = s.timers.drop name := by
  cases found : s.registry.find? name with
  | none => rw [abandonAbsent found]
  | some r => rw [abandonEq found]

theorem abandonQuiet (names : List String) (s : Session) : Quiet s (names.foldl abandon s) := by
  induction names generalizing s with
  | nil => exact .refl
  | cons name rest ih => exact .head (.abandon name) (ih _)

theorem abandonedTimers (names : List String) (s : Session) :
    (names.foldl abandon s).timers = s.timers.filter fun e => e.1 ∉ names := by
  induction names generalizing s with
  | nil => exact (List.filter_eq_self.mpr (by simp)).symm
  | cons name rest ih =>
    rw [List.foldl_cons,ih,abandonTimers,Table.drop,List.filter_filter]
    refine List.filter_congr fun e _ => ?_
    by_cases same : e.1 = name <;> simp [same]

theorem clearPendingQuiet (s : Session) : Quiet s s.clearPending.2 := abandonQuiet _ s

theorem clearPendingTimers (s : Session) : s.clearPending.2.timers = [] := by
  unfold clearPending
  rw [abandonedTimers]
  refine List.filter_eq_nil_iff.mpr fun e member => ?_
  have named : e.1 ∈ s.timers.names := List.mem_map_of_mem member
  simpa using named

theorem closeQuiet (s : Session) : Quiet s s.close := (clearPendingQuiet s).tail (.aside (.page _))

theorem checkQuiet (form : Option String) (s : Session) : Quiet s (s.check form).2 := by
  unfold check
  split
  · refine rejectQuiet fun e member => ?_
    cases form with
    | none => exact member
    | some f => exact (List.mem_filter.mp member).1
  · exact .refl

theorem checkGivenQuiet (form : Value) (s : Session) : Quiet s (s.checkGiven form).2 := by
  unfold checkGiven
  split
  · exact .refl
  · exact checkQuiet _ s

theorem clearAheadGivenQuiet (form : Value) (s : Session) : Quiet s (s.clearAheadGiven form).2 := by
  unfold clearAheadGiven clearAhead
  split
  · exact .refl
  · split
    · exact discardQuiet _ s
    · exact .refl

theorem setOptionsAside (options : Value) (s : Session) : s.Aside (s.setOptions options).2 := by
  unfold setOptions
  split
  · exact .refl s
  · split
    · exact .page s
    · exact .refl s

theorem discoverAside (rules : Value) (s : Session) : s.Aside (s.discoverGiven rules).2 := by
  unfold discoverGiven
  split
  · exact .refl s
  · exact parseAside s _

theorem changedAside {s : Session} {change : Except Fault Session}
    (aside : ∀ s', change = .ok s' → s.Aside s') : s.Aside (s.changed change).2 := by
  cases change with
  | error f => exact .refl s
  | ok s' => exact aside s' rfl

theorem setValueAside (name v : Value) (s : Session) : s.Aside (s.changed (s.setValueGiven name v)).2 := by
  refine changedAside fun s' changed => ?_
  unfold setValueGiven at changed
  split at changed
  · cases changed
    exact .page s
  · split at changed <;> cases changed
    exact .refl s

theorem setDisabledAside (name : Value) (disabled : Bool) (s : Session) :
    s.Aside (s.changed (s.setDisabledGiven name disabled)).2 := by
  refine changedAside fun s' changed => ?_
  unfold setDisabledGiven at changed
  split at changed
  · cases changed
    exact .page s
  · split at changed <;> cases changed
    exact .refl s

inductive Clears (s : Session) : Session → Prop where
  | once : Clears s s.reset
  | again {m} (before : Clears s m) : Clears s m.reset

theorem abandonsEq (names : List String) (s : Session) : ∃ timers scheduler registry,
    names.foldl abandon s = { s with timers := timers, scheduler := scheduler, registry := registry } := by
  induction names generalizing s with
  | nil => exact ⟨_,_,_,rfl⟩
  | cons name rest ih =>
    obtain ⟨timers,scheduler,registry,rest⟩ := ih (s.abandon name)
    rw [List.foldl_cons,rest]
    cases found : s.registry.find? name with
    | none =>
      rw [abandonAbsent found]
      exact ⟨_,_,_,rfl⟩
    | some r =>
      rw [abandonEq found]
      exact ⟨_,_,_,rfl⟩

theorem resetEq (s : Session) : ∃ scheduler,
    s.reset = { s with
      timers := []
      scheduler := scheduler
      registry := []
      summary := .empty
      epoch := s.epoch + 1 } := by
  have idle := clearPendingTimers s
  obtain ⟨timers,scheduler,registry,cleared⟩ := abandonsEq s.timers.names s
  have post : s.clearPending.2 = { s with timers := timers, scheduler := scheduler, registry := registry } := cleared
  unfold reset
  rw [post] at idle ⊢
  dsimp only at idle ⊢
  rw [idle]
  exact ⟨_,rfl⟩

theorem Clears.registry {s s' : Session} (clears : s.Clears s') : s'.registry = [] := by
  cases clears <;> rfl

theorem Clears.display {s s' : Session} (clears : s.Clears s') : s'.display = s.display := by
  have reset (m : Session) : m.reset.display = m.display := by
    obtain ⟨scheduler,post⟩ := resetEq m
    rw [post]
  induction clears with
  | once => exact reset s
  | again _ ih => exact (reset _).trans ih

end Session

namespace SessionEvent
open Session

def resets : SessionEvent → Session → Bool
  | reset,_ => true
  | transition,s => !s.keepOnTransition
  | fire,s => !s.keepOnTransition && !s.hook.listeners.isEmpty
  | _,_ => false

theorem transitionKept {s : Session} (kept : transition.resets s = false) : s.onTransition.2 = s := by
  unfold onTransition
  rw [if_pos (by simpa [resets] using kept)]

theorem transitionClears {s : Session} (resets : transition.resets s = true) : s.Clears s.onTransition.2 := by
  unfold onTransition
  rw [if_neg (by simpa [SessionEvent.resets] using resets)]
  exact .once

theorem firedClears {α} (rest : List α) {s m : Session} (before : s.Clears m) (free : m.keepOnTransition = false) :
    s.Clears (rest.foldl (fun s _ => s.onTransition.2) m) := by
  induction rest generalizing m with
  | nil => exact before
  | cons l rest ih =>
    have next : m.onTransition.2 = m.reset := by
      unfold onTransition
      rw [if_neg (by simp [free])]
    rw [List.foldl_cons,next]
    refine ih (.again before) ?_
    obtain ⟨scheduler,post⟩ := resetEq m
    rw [post]
    exact free

theorem fireKept {s : Session} (kept : fire.resets s = false) : s.fire = s := by
  unfold Session.fire
  cases keep : s.keepOnTransition with
  | false =>
    have none : s.hook.listeners = [] := by simpa [resets,keep] using kept
    rw [none]
    rfl
  | true =>
    induction s.hook.listeners with
    | nil => rfl
    | cons l rest ih =>
      have same : s.onTransition.2 = s := transitionKept (by simp [resets,keep])
      rw [List.foldl_cons,same,ih]

theorem fireClears {s : Session} (resets : fire.resets s = true) : s.Clears s.fire := by
  obtain ⟨free,heard⟩ : s.keepOnTransition = false ∧ s.hook.listeners ≠ [] := by
    simpa [SessionEvent.resets] using resets
  unfold Session.fire
  obtain ⟨l,rest,listeners⟩ := List.exists_cons_of_ne_nil heard
  have first : s.onTransition.2 = s.reset := by
    unfold onTransition
    rw [if_neg (by simp [free])]
  rw [listeners,List.foldl_cons,first]
  refine firedClears rest .once ?_
  obtain ⟨scheduler,post⟩ := resetEq s
  rw [post]
  exact free

theorem resetsClears {e : SessionEvent} {s : Session} (resets : e.resets s = true) : s.Clears (e.run s).2 := by
  cases e with
  | reset => exact .once
  | transition => exact transitionClears resets
  | fire => exact fireClears resets
  | _ => contradiction

end SessionEvent
end FormGuard
