import FormGuard.Proofs.SessionOrder

/-! What a call that fails leaves behind. Arguments that cannot be read, names of no field and forms without fields are
told before anything is written; an evaluation that breaks down comes after the writing, and so does a name that
cannot be asked for behind others in a list, or where only the display can tell it. -/
namespace FormGuard
namespace Session

/-- All that a page can tell of a session is as before; what its catalog has looked up does not show. -/
structure Unchanged (s s' : Session) : Prop where
  registry : s'.registry = s.registry
  summary : s'.summary = s.summary
  timers : s'.timers = s.timers
  scheduler : s'.scheduler = s.scheduler
  options : s'.options = s.options
  display : s'.display = s.display

theorem Unchanged.refl (s : Session) : s.Unchanged s := ⟨rfl,rfl,rfl,rfl,rfl,rfl⟩

theorem Read.unchanged {s s' : Session} (read : s.Read s') : s.Unchanged s' := by
  rcases read with rfl | ⟨rules,rfl⟩
  · exact .refl _
  · exact ⟨rfl,rfl,rfl,rfl,rfl,rfl⟩

end Session

def Record.isMarked (r : Record) : InputEvent → Bool
  | .blur => r.touched
  | .change => r.dirty

theorem markedIff {r : Record} {event : InputEvent} : Session.mark r event = r ↔ r.isMarked event = true := by
  obtain ⟨⟩ := r
  cases event <;> simp [Session.mark,Record.isMarked,eq_comm]

namespace SessionEvent

def isCall : SessionEvent → Bool
  | add _ _ | rebind _ _ | remove _ | validate _ _ _ | check _ | clearAhead _ | setOptions _ => true
  | _ => false

/-- When the call fails, it does so before it has written anything. -/
def FailsEarly : SessionEvent → Session → Prop
  | add attributes rules,s => (add attributes rules).question? s = none
  | rebind (.text name) rules,s => (rebind (.text name) rules).question? s = none ∨
    s.timers.get? name = none ∧ ∃ r, s.registry.find? name = some r ∧ rulesOf rules = .ok r.rules
  | validate (.text name) _ event,s =>
    ∀ r, s.registry.find? name = some r → r.isMarked (Session.eventOf event) = true
  | remove (.list (first :: _)),s => first.canName = false ∧ s.keepsFields = true
  | _,_ => True

end SessionEvent

namespace Session

theorem outcomeError {α} {x : Except Failure α × Session} {f s'} (failed : outcome x = (.error f,s')) :
    x = (.error f,s') := by
  obtain ⟨answer,s⟩ := x
  cases answer with
  | error g =>
    cases failed
    rfl
  | ok a => cases failed

theorem judgeSilentlyFails {s : Session} {r f s'} (failed : s.judgeSilently r = (.error f,s')) :
    s' = s ∧ s.judge r (s.source.value r.name) = .error f := by
  unfold judgeSilently at failed
  split at failed
  · cases failed
    exact ⟨rfl,by assumption⟩
  · cases failed

theorem addFails {s s' : Session} {attributes rules f} (failed : s.addGiven attributes rules = (.error f,s')) :
    s.Read s' ∧ (SessionEvent.add attributes rules).FailsEarly s ∨
    ¬ (SessionEvent.add attributes rules).FailsEarly s ∧ s'.source = s.source ∧
      ∃ r, r.stamp = s.made ∧ s'.registry = s.registry.upsert r := by
  change _ ∧ (SessionEvent.add attributes rules).question? s = none ∨
    ¬ (SessionEvent.add attributes rules).question? s = none ∧ _
  rw [addGivenEq] at failed
  cases given : attributesGiven attributes rules with
  | error g =>
    rw [given] at failed
    cases failed
    exact .inl ⟨.inl rfl,SessionEvent.addUnread given⟩
  | ok fields =>
    rw [given] at failed
    dsimp only at failed
    rw [addEq] at failed
    rw [SessionEvent.addQuestion given]
    rcases entry : s.enlist fields with ⟨g | r,s₁⟩
    · rw [entry] at failed
      cases failed
      exact .inl ⟨enlistFails entry,rfl⟩
    · rw [entry] at failed
      obtain ⟨rfl,_⟩ := judgeSilentlyFails failed
      obtain ⟨stamp,_,_,_,_,rfl⟩ := enlisted entry
      exact .inr ⟨by simp [Question.ofPresent],rfl,r,stamp,rfl⟩

theorem enteredFresh {s : Session} (filed : s.Filed) {r : Record} (stamp : r.stamp = s.made) :
    s.registry.upsert r ≠ s.registry := by
  intro same
  have there : s.registry.find? r.name = some r := Registry.upsertFound.mp same
  have made := (filed.proper there).made
  omega

theorem addFailed {s : Session} (ordered : s.Ordered) {attributes rules f s'}
    (failed : s.addGiven attributes rules = (.error f,s')) :
    s.Unchanged s' ↔ (SessionEvent.add attributes rules).FailsEarly s := by
  rcases addFails failed with ⟨read,early⟩ | ⟨late,_,r,stamp,entered⟩
  · exact iff_of_true read.unchanged early
  · exact iff_of_false (fun same => enteredFresh ordered.toFiled stamp (entered.symm.trans same.registry)) late

theorem retunedSame {s s' : Session} {name rules r} (filed : s.Filed) (entry : s.retune name rules = (.ok r,s')) :
    s.registry.find? r.name = some r ↔ ∃ r₀, s.registry.find? name = some r₀ ∧ r₀.rules = rules := by
  obtain ⟨r₀,p,found,read,rfl,_⟩ := retuned entry
  have proper := filed.proper found
  have named := (retunedProper filed entry).1.named
  rw [named,found]
  constructor
  · intro same
    obtain ⟨_,_,_,spelled⟩ := reboundSame r₀ rules
    have equal := congrArg Record.rules (Option.some.inj same)
    exact ⟨r₀,rfl,equal.trans spelled⟩
  · rintro ⟨r₁,same,rfl⟩
    cases same
    -- The record was made from these rules, so reading them again gives the pipeline that it has.
    obtain ⟨q,pipeline,parsed⟩ := proper.read
    have equal : p = q := Except.ok.inj (read.symm.trans parsed)
    rw [Record.rebind,if_pos rfl,equal,← pipeline]

theorem retuneFailed {s s' : Session} {name rules r} (filed : s.Filed) (entry : s.retune name rules = (.ok r,s')) :
    s.Unchanged s' ↔ s.timers.get? name = none ∧ ∃ r₀, s.registry.find? name = some r₀ ∧ r₀.rules = rules := by
  rw [← retunedSame filed entry,← Registry.upsertFound]
  obtain ⟨_,_,_,_,_,rfl⟩ := retuned entry
  constructor
  · intro same
    have timers : s.timers.drop name = s.timers := same.timers
    refine ⟨?_,same.registry⟩
    rw [← timers]
    exact Table.getDropped
  · rintro ⟨idle,registry⟩
    exact ⟨registry,rfl,Table.dropAbsent idle,silencedIdle idle,rfl,rfl⟩

theorem rebindFailed {s : Session} (ordered : s.Ordered) {name rules f s'}
    (failed : s.rebindGiven name rules = (.error f,s')) :
    s.Unchanged s' ↔ (SessionEvent.rebind name rules).FailsEarly s := by
  by_cases text : ∃ n, name = .text n
  · obtain ⟨n,rfl⟩ := text
    change s.Unchanged s' ↔ (SessionEvent.rebind (.text n) rules).question? s = none ∨
      s.timers.get? n = none ∧ ∃ r, s.registry.find? n = some r ∧ rulesOf rules = .ok r.rules
    unfold rebindGiven at failed
    cases spelled : rulesOf rules with
    | error g =>
      rw [spelled] at failed
      cases failed
      exact iff_of_true (.refl s) (.inl (SessionEvent.rebindUnread spelled))
    | ok given =>
      rw [spelled] at failed
      dsimp only at failed
      rw [rebindEq] at failed
      rw [SessionEvent.rebindQuestion spelled]
      rcases entry : s.retune n given with ⟨g | r,s₁⟩
      · rw [entry] at failed
        cases failed
        exact iff_of_true (retuneFails entry).unchanged (.inl rfl)
      · rw [entry] at failed
        obtain ⟨rfl,_⟩ := judgeSilentlyFails failed
        rw [retuneFailed ordered.toFiled entry]
        simp [Question.ofPresent,eq_comm]
  · have read : s.Read s' := by
      cases spelled : rulesOf rules with
      | error g =>
        unfold rebindGiven at failed
        rw [spelled] at failed
        cases failed
        exact .inl rfl
      | ok given =>
        have post := rebindOther (s := s) text spelled
        rw [failed] at post
        exact .inr ⟨given,post⟩
    refine iff_of_true read.unchanged ?_
    cases name <;> first | exact absurd ⟨_,rfl⟩ text | trivial

theorem markKept {s : Session} (filed : s.Filed) {name r event} (found : s.registry.find? name = some r) :
    s.registry.upsert (mark r event) = s.registry ↔ r.isMarked event = true := by
  have named : (mark r event).name = name := (markName r event).trans (filed.proper found).named
  rw [Registry.upsertFound,named,found,Option.some.injEq,eq_comm]
  exact markedIff

theorem validateFails {s s' : Session} {name v event f} (failed : s.validateGiven name v event = (.error f,s')) :
    s' = s ∧ (SessionEvent.validate name v event).FailsEarly s ∨
    ∃ n r, name = .text n ∧ s.registry.find? n = some r ∧ s' = s.store (mark r (eventOf event)) := by
  by_cases text : ∃ n, name = .text n
  · obtain ⟨n,rfl⟩ := text
    have run : s.validate n v (eventOf event) = (.error f,s') := failed
    have outcomes := noted s n v (eventOf event)
    rw [run] at outcomes
    cases outcomes with
    | absent absent =>
      refine .inl ⟨rfl,fun r found => ?_⟩
      rw [absent] at found
      contradiction
    | broken found => exact .inr ⟨n,_,rfl,found,rfl⟩
  · obtain ⟨_,refused⟩ := validateOther s v event text
    cases refused.symm.trans failed
    refine .inl ⟨rfl,?_⟩
    cases name <;> first | exact absurd ⟨_,rfl⟩ text | trivial

theorem validateFailed {s : Session} (ordered : s.Ordered) {name v event f s'}
    (failed : s.validateGiven name v event = (.error f,s')) :
    s.Unchanged s' ↔ (SessionEvent.validate name v event).FailsEarly s := by
  rcases validateFails failed with ⟨rfl,early⟩ | ⟨n,r,rfl,found,rfl⟩
  · exact iff_of_true (.refl _) early
  · have kept := @markKept s ordered.toFiled n r (eventOf event) found
    constructor
    · intro same r' found'
      cases found.symm.trans found'
      exact kept.mp same.registry
    · intro early
      exact ⟨kept.mpr (early r found),rfl,rfl,rfl,rfl,rfl⟩

theorem removeAllEvents {n : Nat} (names : List Value) {s : Session} (before : n ≤ s.display.events.length) :
    n ≤ (removeAll names s).2.display.events.length := by
  refine removeAllKeeps (P := fun t => n ≤ t.display.events.length) (fun t name kept => ?_) (fun t v kept => ?_) names before
  · rw [removeEvents,List.length_append]
    omega
  · rw [clearOtherEvents,List.length_append]
    omega

theorem removeAllLonger {s t s' : Session} {v : Value} {rest answer}
    (cleared : t.display.events = s.display.events ++ [.cleared v]) (run : removeAll rest t = (answer,s')) :
    s.display.events.length < s'.display.events.length := by
  have longer : s.display.events.length + 1 ≤ t.display.events.length := by simp [cleared]
  have kept := removeAllEvents rest longer
  rwa [run] at kept

theorem removeNames (names : List String) (s : Session) : (removeAll (names.map .text) s).1 = .ok () := by
  induction names generalizing s with
  | nil => rfl
  | cons name rest ih => exact ih (s.remove name)

theorem removeFails {s s' : Session} {names f} (failed : s.removeGiven names = (.error f,s')) :
    s' = s ∧ (SessionEvent.remove names).FailsEarly s ∨
    ¬ (SessionEvent.remove names).FailsEarly s ∧ s.display.events.length < s'.display.events.length := by
  cases names with
  | text name => cases failed
  | list names =>
    cases names with
    | nil => cases failed
    | cons first rest =>
      have run : removeAll (first :: rest) s = (.error f,s') := failed
      rw [removeAllEq] at run
      have outcomes := s.struck first
      generalize s.removeNamed first = answer at outcomes run
      cases outcomes with
      | field name =>
        -- A name that is asked for leaves its trace even if it is that of no field.
        exact .inr ⟨by simp [SessionEvent.FailsEarly,Value.canName],removeAllLonger (removeEvents s name) run⟩
      | cleared other unnoticed =>
        refine .inr ⟨fun early => ?_,removeAllLonger (clearOtherEvents s first) run⟩
        rcases unnoticed with named | ⟨unkept,_⟩
        · simp [early.1] at named
        · simp [early.2] at unkept
      | refused unnamed kept =>
        cases run
        exact .inl ⟨rfl,unnamed,kept⟩
      | broken unnamed unkept shown =>
        cases run
        refine .inr ⟨fun early => by simp [early.2] at unkept,?_⟩
        simp [fail,clearOtherEvents]
  | object fields =>
    have done := removeNames (fields.map (·.1)) s
    rw [List.map_map] at done
    cases done.symm.trans (congrArg Prod.fst failed)
  | _ =>
    cases failed
    exact .inl ⟨rfl,trivial⟩

theorem removeFailed {s : Session} {names f s'} (failed : s.removeGiven names = (.error f,s')) :
    s.Unchanged s' ↔ (SessionEvent.remove names).FailsEarly s := by
  rcases removeFails failed with ⟨rfl,early⟩ | ⟨late,longer⟩
  · exact iff_of_true (.refl _) early
  · refine iff_of_false (fun same => ?_) late
    rw [same.display] at longer
    omega

theorem checkFailed {s : Session} {form f s'} (failed : s.checkGiven form = (.error f,s')) : s' = s := by
  unfold checkGiven at failed
  split at failed
  · cases failed
    rfl
  · unfold check at failed
    split at failed <;> cases failed
    rfl

theorem clearAheadFailed {s : Session} {form f s'} (failed : s.clearAheadGiven form = (.error f,s')) : s' = s := by
  unfold clearAheadGiven at failed
  split at failed
  · cases failed
    rfl
  · unfold clearAhead at failed
    split at failed <;> cases failed
    rfl

theorem setOptionsFailed {s : Session} {options f s'} (failed : s.setOptions options = (.error f,s')) : s' = s := by
  unfold setOptions at failed
  split at failed
  · cases failed
    rfl
  · split at failed <;> cases failed

/-- A call that fails leaves the session as it was exactly when it fails early. -/
theorem failedCall {opening : Session} {past s} (opened : opening.Opened) (run : opening.Run past s)
    {e : SessionEvent} (call : e.isCall = true) {f s'} (failed : e.run s = (.error f,s')) :
    s.Unchanged s' ↔ e.FailsEarly s := by
  have ordered := runOrdered opened run
  cases e with
  | add => exact addFailed ordered (outcomeError failed)
  | rebind => exact rebindFailed ordered (outcomeError failed)
  | remove => exact removeFailed failed
  | validate => exact validateFailed ordered (outcomeError failed)
  | check =>
    rw [checkFailed (outcomeError failed)]
    exact iff_of_true (.refl s) trivial
  | clearAhead =>
    rw [clearAheadFailed (outcomeError failed)]
    exact iff_of_true (.refl s) trivial
  | setOptions =>
    rw [setOptionsFailed failed]
    exact iff_of_true (.refl s) trivial
  | _ => contradiction

theorem unknownFieldUnchanged : ∃ f s',
    (SessionEvent.validate (.text "y") .null .null).run (smallField true) = (.error f,s') ∧
      (smallField true).Unchanged s' := by
  have fails : SessionEvent.fails ((SessionEvent.validate (.text "y") .null .null).run (smallField true)).1 = true := by
    decide +kernel
  have absent : ((smallField true).registry.find? "y").isNone = true := by decide +kernel
  have run := smallFieldRun true
  generalize smallField true = s at *
  obtain ⟨f,broke⟩ := SessionEvent.failsIff.mp fails
  have failed : (SessionEvent.validate (.text "y") .null .null).run s = (.error f,_) := Prod.ext broke rfl
  refine ⟨f,_,failed,(failedCall (smallOpened true) run rfl failed).mpr fun r found => ?_⟩
  rw [found] at absent
  contradiction

theorem registeredAllTheSame : ∃ opening past s e f s', Opened opening ∧ opening.Run past s ∧
    SessionEvent.isCall e = true ∧ e.run s = (.error f,s') ∧ ¬ s.Unchanged s' := by
  have fails : SessionEvent.fails
      ((SessionEvent.add (.text "d") (.text "due:2024-01-01")).run (smallPage true)).1 = true := by decide +kernel
  have registered : ((SessionEvent.add (.text "d") (.text "due:2024-01-01")).run (smallPage true)).2.registry.length =
      1 := by decide +kernel
  have empty : (smallPage true).registry = [] := rfl
  have opened := smallOpened true
  generalize smallPage true = s at *
  obtain ⟨f,failed⟩ := SessionEvent.failsIff.mp fails
  refine ⟨_,_,s,_,f,_,opened,.start,rfl,Prod.ext failed rfl,fun same => ?_⟩
  have registry := same.registry
  rw [registry,empty] at registered
  contradiction

end Session
end FormGuard
