import FormGuard.Proofs.RequestErrands

/-! What a refused request leaves behind. What it noted of a field stays noted, and so does what its call had written
when it failed; where it noted and wrote nothing, no later answer tells that it came. -/
namespace FormGuard
namespace Session

/-- The values and flags of the fields, and all that a page can tell of the session, are as before. -/
structure Spared (s s' : Session) : Prop where
  value : s'.source.value = s.source.value
  disabled : s'.source.isDisabled = s.source.isDisabled
  registry : s'.registry = s.registry
  summary : s'.summary = s.summary
  options : s'.options = s.options
  renders : s'.display.events = s.display.events

theorem Twin.spared {s t : Session} (twin : Twin s t) : s.Spared t := by
  refine ⟨twin.value,twin.disabled,?_,?_,?_,?_⟩ <;> rw [twin.dressed] <;> rfl

end Session

def SessionEvent.isRequested : SessionEvent → Bool
  | .rebind _ _ => false
  | e => e.isCall

namespace Session

theorem Read.source {s s' : Session} (read : s.Read s') : s'.source = s.source := by
  rcases read with rfl | ⟨_,rfl⟩ <;> rfl

theorem failedSource {s s' : Session} {e : SessionEvent} (requested : e.isRequested = true) {f}
    (failed : e.run s = (.error f,s')) : s'.source = s.source := by
  cases e with
  | add =>
    rcases addFails (outcomeError failed) with ⟨read,_⟩ | ⟨_,same,_⟩
    · exact read.source
    · exact same
  | remove names =>
    have same := (blindRemoveGiven names).source s
    have run : s.removeGiven names = (.error f,s') := failed
    rwa [run] at same
  | validate =>
    rcases validateFails (outcomeError failed) with ⟨rfl,_⟩ | ⟨_,_,_,_,rfl⟩ <;> rfl
  | check => rw [checkFailed (outcomeError failed)]
  | clearAhead => rw [clearAheadFailed (outcomeError failed)]
  | setOptions => rw [setOptionsFailed failed]
  | _ => contradiction

theorem earlyReads {s s' : Session} (filed : s.Filed) {e : SessionEvent} (requested : e.isRequested = true) {f}
    (failed : e.run s = (.error f,s')) (early : e.FailsEarly s) : s.Read s' := by
  cases e with
  | add attributes rules =>
    rcases addFails (outcomeError failed) with ⟨read,_⟩ | ⟨late,_⟩
    · exact read
    · exact absurd early late
  | remove names =>
    rcases removeFails failed with ⟨same,_⟩ | ⟨late,_⟩
    · exact .inl same
    · exact absurd early late
  | validate name v event =>
    rcases validateFails (outcomeError failed) with ⟨same,_⟩ | ⟨n,r,rfl,found,rfl⟩
    · exact .inl same
    · refine .inl ?_
      rw [store,(markKept filed found).mpr (early r found)]
  | check => exact .inl (checkFailed (outcomeError failed))
  | clearAhead => exact .inl (clearAheadFailed (outcomeError failed))
  | setOptions => exact .inl (setOptionsFailed failed)
  | _ => contradiction

theorem keptEarly {s s' : Session} (filed : s.Filed) {e : SessionEvent} (requested : e.isRequested = true) {f}
    (failed : e.run s = (.error f,s')) (registry : s'.registry = s.registry)
    (renders : s'.display.events = s.display.events) : e.FailsEarly s := by
  cases e with
  | add attributes rules =>
    rcases addFails (outcomeError failed) with ⟨_,early⟩ | ⟨_,_,r,stamp,entered⟩
    · exact early
    · exact absurd (entered.symm.trans registry) (enteredFresh filed stamp)
  | remove names =>
    rcases removeFails failed with ⟨_,early⟩ | ⟨_,longer⟩
    · exact early
    · rw [renders] at longer
      omega
  | validate name v event =>
    rcases validateFails (outcomeError failed) with ⟨_,early⟩ | ⟨n,r,rfl,found,rfl⟩
    · exact early
    · intro r' found'
      cases found.symm.trans found'
      exact (markKept filed found).mp registry
  | check | clearAhead | setOptions => trivial
  | _ => contradiction

theorem Twin.early {s t : Session} (twin : Twin s t) {e : SessionEvent} (requested : e.isRequested = true) :
    e.FailsEarly t ↔ e.FailsEarly s := by
  cases e with
  | add attributes rules =>
    change (SessionEvent.add attributes rules).question? t = none ↔ _ = none
    cases given : attributesGiven attributes rules with
    | error f => rw [SessionEvent.addUnread given,SessionEvent.addUnread given]
    | ok fields =>
      have entered := twin.enlist fields
      rw [SessionEvent.addQuestion given,SessionEvent.addQuestion given]
      generalize s.enlist fields = x at entered
      generalize t.enlist fields = y at entered
      obtain ⟨f | r,_⟩ := entered <;> simp [Question.ofPresent]
  | validate name v event =>
    cases name with
    | text n =>
      change (∀ r, t.registry.find? n = some r → _) ↔ ∀ r, s.registry.find? n = some r → _
      rw [twin.registry]
    | _ => exact Iff.rfl
  | remove names =>
    have keeps : t.keepsFields = s.keepsFields := by
      rw [twin.dressed]
      rfl
    cases names with
    | list items =>
      cases items with
      | nil => exact Iff.rfl
      | cons first rest =>
        change first.canName = false ∧ t.keepsFields = true ↔ _
        rw [keeps]
        exact Iff.rfl
    | _ => exact Iff.rfl
  | check | clearAhead | setOptions => exact Iff.rfl
  | _ => contradiction

end Session

namespace Errand
open Session
variable {g : Errand} {s s' : Session}

theorem notedDressed (g : Errand) (s : Session) : ∃ v, g.noted s = s.dress s.catalog v ∧
    (v.value = s.source.value ∧ v.isDisabled = s.source.isDisabled ↔ g.Known s) := by
  obtain ⟨field,value,disabled,call⟩ := g
  cases field with
  | text n =>
    have known : (⟨.text n,value,disabled,call⟩ : Errand).Known s ↔
        (∀ v, value = some v → s.source.value n = v) ∧ ∀ d, disabled = some d → s.source.isDisabled n = d :=
      ⟨fun all => all n rfl,fun both name same => by cases same; exact both⟩
    rw [known]
    cases value with
    | none =>
      cases disabled with
      | none => exact ⟨s.source,rfl,by simp⟩
      | some d =>
        refine ⟨s.source.setDisabled n d,rfl,?_⟩
        rw [Source.valueBesideDisabled,Source.disabledKept]
        simp
    | some v =>
      have flags : (s.source.setValue n v).isDisabled = s.source.isDisabled := rfl
      cases disabled with
      | none =>
        refine ⟨s.source.setValue n v,rfl,?_⟩
        rw [Source.valueKept,flags]
        simp
      | some d =>
        refine ⟨(s.source.setValue n v).setDisabled n d,rfl,?_⟩
        have kept := @Source.disabledKept (s.source.setValue n v) n d
        rw [flags] at kept
        rw [Source.valueBesideDisabled,Source.valueKept,kept]
        simp
  | list | object =>
    refine ⟨s.source,?_,iff_of_true ⟨rfl,rfl⟩ nofun⟩
    cases value <;> cases disabled <;> rfl
  | _ =>
    refine ⟨s.source,?_,iff_of_true ⟨rfl,rfl⟩ nofun⟩
    cases value <;> cases disabled <;> rfl

theorem knownTwin (remembers : s.catalog.Remembers) (known : g.Known s) : Twin s (g.noted s) := by
  obtain ⟨v,post,same⟩ := notedDressed g s
  obtain ⟨value,disabled⟩ := same.mpr known
  rw [post]
  exact ⟨rfl,.refl _,remembers,remembers,value,disabled⟩

theorem notedOrdered (ordered : s.Ordered) (g : Errand) : (g.noted s).Ordered := by
  obtain ⟨field,value,disabled,call⟩ := g
  have first : ((⟨field,value,none,call⟩ : Errand).noted s).Ordered := by
    cases value with
    | none => exact ordered
    | some v => exact ordered.event (e := .setValue field v) nofun
  cases disabled with
  | none => exact first
  | some d => exact first.event (e := .setDisabled field d) nofun

theorem failedSpares (ordered : s.Ordered) (requested : g.call.isRequested = true) {f}
    (failed : g.call.run (g.noted s) = (.error f,s')) :
    (s.Spared s' ↔ g.Spares s) ∧ (g.Spares s → Twin s s') := by
  have ordered' := notedOrdered ordered g
  have twin : g.Spares s → Twin s s' := by
    rintro ⟨known,early⟩
    have first := knownTwin ordered.remembers known
    have read := earlyReads ordered'.toFiled requested failed ((first.early requested).mpr early)
    exact first.trans (.ofRead ordered'.remembers read)
  refine ⟨⟨fun spared => ?_,fun spares => (twin spares).spared⟩,twin⟩
  obtain ⟨v,post,same⟩ := notedDressed g s
  have source : s'.source = v := (failedSource requested failed).trans (by rw [post]; rfl)
  have known : g.Known s := same.mp ⟨source ▸ spared.value,source ▸ spared.disabled⟩
  have first := knownTwin ordered.remembers known
  refine ⟨known,(first.early requested).mp (keptEarly ordered'.toFiled requested failed ?_ ?_)⟩
  · exact spared.registry.trans first.spared.registry.symm
  · exact spared.renders.trans first.spared.renders.symm

end Errand

namespace Service
open Session

theorem errandCall {m : Method} {params : Value.Fields} {e : Errand} (errand : errand? m params = some e) :
    e.call.isRequested = true ∨ e.call = .fire := by
  cases m with
  | addField =>
    unfold errand? addErrand? at errand
    dsimp only at errand
    repeat' split at errand
    all_goals cases errand <;> exact .inl rfl
  | setGlobalOptions =>
    unfold errand? optionsErrand? at errand
    dsimp only at errand
    split at errand <;> cases errand
    exact .inl rfl
  | validateField =>
    unfold errand? valueErrand? at errand
    dsimp only at errand
    repeat' split at errand
    all_goals cases errand <;> exact .inl rfl
  | checkFormValidity =>
    cases errand
    exact .inl rfl
  | removeField =>
    unfold errand? removeErrand? at errand
    dsimp only at errand
    generalize (if (param params "names").truthy = true then param params "names" else param params "name") = names
      at errand
    split at errand <;> cases errand
    exact .inl rfl
  | clearInvalidEntriesAhead =>
    cases errand
    exact .inl rfl
  | getSummary => cases errand
  | pageTransition =>
    cases errand
    exact .inr rfl

theorem lineCall {line : String} {e : Errand} (errand : errandOf line = some e) :
    e.call.isRequested = true ∨ e.call = .fire := by
  obtain ⟨request,_,errand⟩ := Option.bind_eq_some_iff.mp errand
  exact errandCall errand

theorem failedRequested {line : String} {e : Errand} {s : Session} {f s'} (errand : errandOf line = some e)
    (failed : e.call.run s = (.error f,s')) : e.call.isRequested = true := by
  rcases lineCall errand with requested | fired
  · exact requested
  · rw [fired] at failed
    cases failed

inductive Served (opening : Session) : Session → Prop where
  | start : Served opening (opening.setOptions (.object [("debounce",.int 0)])).2
  | next {s} (before : Served opening s) (line : String) : Served opening (answerLine line s).2.2

theorem startServed {o path l s} (read : Loader.ofFile o path = .ok l) (started : start l = .ok s) :
    ∃ opening, opening.Opened ∧ Served opening s := by
  unfold start at started
  rcases made : Session.ofLoader l none (.ofValues []) with ⟨_ | opening,l'⟩
  · rw [made] at started
    cases started
  · rw [made] at started
    cases started
    exact ⟨opening,loadedOpened read made,.start⟩

theorem turnsServed {opening s : Session} (served : Served opening s) (turns : List Turn) :
    Served opening (takeTurns turns s).2 := by
  induction turns generalizing s with
  | nil => exact served
  | cons u rest ih =>
    have taken : Served opening (takeTurn u s).2.2 := by
      unfold takeTurn
      dsimp only
      split
      · exact served
      · exact served
      · split
        · exact served
        · exact served.next _
    unfold takeTurns
    generalize takeTurn u s = answer at taken
    obtain ⟨traces,goesOn,s'⟩ := answer
    dsimp only
    split
    · exact ih taken
    · exact taken

theorem notedFiled {s : Session} (ordered : s.Ordered) (e : Errand) : (e.noted s).Filed :=
  (Errand.notedOrdered ordered e).toFiled

theorem lineOrdered {s : Session} (ordered : s.Ordered) (line : String) : (answerLine line s).2.2.Ordered := by
  have outcome := lineOutcome line s
  generalize (answerLine line s).2.2 = s' at outcome
  generalize (answerLine line s).2.1.answer = answer at outcome
  have called {e : Errand} (errand : errandOf line = some e) : (e.call.run (e.noted s)).2.Ordered := by
    refine (Errand.notedOrdered ordered e).event fun a late => ?_
    rcases lineCall errand with requested | fired
    · simp [late,SessionEvent.isRequested,SessionEvent.isCall] at requested
    · simp [late] at fired
  cases outcome with
  | idle => exact ordered
  | failed errand failed =>
    have after := called errand
    rwa [failed] at after
  | done errand ok =>
    have after := called errand
    rwa [ok] at after
  | told errand ok =>
    have after := called errand
    rw [ok] at after
    exact after.event (e := .drain) nofun

theorem servedOrdered {opening s : Session} (opened : opening.Opened) (served : Served opening s) : s.Ordered := by
  induction served with
  | start => exact (openedOrdered opened).event (e := .setOptions (.object [("debounce",.int 0)])) nofun
  | next _ line ih => exact lineOrdered ih line

theorem spareTwin {s : Session} (ordered : s.Ordered) {line : String}
    (refused : (answerLine line s).2.1.isRefused = true) :
    (s.Spared (answerLine line s).2.2 ↔ ∀ e, errandOf line = some e → e.Spares s) ∧
    (s.Spared (answerLine line s).2.2 → Twin s (answerLine line s).2.2) := by
  have outcome := lineOutcome line s
  unfold Response.isRefused at refused
  generalize (answerLine line s).2.2 = s' at outcome ⊢
  generalize (answerLine line s).2.1.answer = answer at outcome refused
  cases outcome with
  | idle none =>
    have twin : Twin s s := .refl ordered.remembers
    exact ⟨iff_of_true twin.spared fun e errand => by simp [none] at errand,fun _ => twin⟩
  | @failed e f s' errand failed =>
    obtain ⟨spares,twin⟩ := Errand.failedSpares ordered (failedRequested errand failed) failed
    have same : (∀ e', errandOf line = some e' → e'.Spares s) ↔ e.Spares s :=
      ⟨fun all => all e errand,fun own e' errand' => by cases errand.symm.trans errand'; exact own⟩
    rw [same]
    exact ⟨spares,fun spared => twin (spares.mp spared)⟩
  | done | told => contradiction

/-- A request that is refused leaves everything as it was exactly if it has no errand to the session, or one of which
nothing new is noted and which fails early; and then every line that follows is answered as if it had not come. -/
theorem refusedRequest {opening s : Session} (opened : opening.Opened) (served : Served opening s) {line : String}
    (refused : (answerLine line s).2.1.isRefused = true) :
    (s.Spared (answerLine line s).2.2 ↔ ∀ e, errandOf line = some e → e.Spares s) ∧
    (s.Spared (answerLine line s).2.2 →
      ∀ turns, (takeTurns turns (answerLine line s).2.2).1 = (takeTurns turns s).1) := by
  obtain ⟨spares,twin⟩ := spareTwin (servedOrdered opened served) refused
  refine ⟨spares,fun spared turns => ?_⟩
  have same := twinTurns (twin spared) turns
  generalize takeTurns turns s = x at same
  generalize takeTurns turns (answerLine line s).2.2 = y at same
  cases same
  rfl

def lineOf (m : Method) (params : Value.Fields) : String :=
  Json.write (.object [("jsonrpc",.text "2.0"),("method",.text m.label),("params",.object params)])

def smallServer : Session := ((smallPage true).setOptions (.object [("debounce",.int 0)])).2

def strayLine : String := lineOf .validateField [("name",.text "x"),("value",.text "b")]

def isStray : Method × Value.Fields → Bool
  | (.validateField,[("name",.text "x"),("value",.text "b")]) => true
  | _ => false

theorem strayAsked : requested? strayLine = some (.validateField,[("name",.text "x"),("value",.text "b")]) := by
  have read : (requested? strayLine).any isStray = true := by decide +kernel
  generalize requested? strayLine = request at read ⊢
  cases request with
  | none => contradiction
  | some request =>
    have stray : isStray request = true := read
    unfold isStray at stray
    split at stray
    · rfl
    · contradiction

theorem strayErrand : errandOf strayLine =
    some ⟨.text "x",some (.text "b"),none,.validate (.text "x") (.text "b") .null⟩ := by
  unfold errandOf
  rw [strayAsked]
  rfl

theorem smallServerBlank : smallServer.registry = [] ∧ smallServer.source.value "x" = .text "b" := by
  have source : smallServer.source = (smallPage true).source := (blindSetOptions _).source (smallPage true)
  refine ⟨(setOptionsAside _ (smallPage true)).registry,?_⟩
  rw [source]
  rfl

theorem straySpared : (answerLine strayLine smallServer).2.1.isRefused = true ∧
    smallServer.Spared (answerLine strayLine smallServer).2.2 ∧
    ∀ turns, (takeTurns turns (answerLine strayLine smallServer).2.2).1 = (takeTurns turns smallServer).1 := by
  have refused : (answerLine strayLine smallServer).2.1.isRefused = true := by decide +kernel
  obtain ⟨blank,holds⟩ := smallServerBlank
  have served : Served (smallPage true) smallServer := .start
  generalize smallServer = s at *
  obtain ⟨spares,later⟩ := refusedRequest (smallOpened true) served refused
  have spared : s.Spared (answerLine strayLine s).2.2 := spares.mpr fun e errand => by
    cases strayErrand.symm.trans errand
    refine ⟨fun name same => ?_,fun r found => ?_⟩
    · cases same
      exact ⟨fun v given => by cases given; exact holds,nofun⟩
    · rw [blank] at found
      cases found
  exact ⟨refused,spared,later spared⟩

def strayField : String := lineOf .addField [("name",.text "d"),("rules",.text "due:2024-01-01")]

theorem refusedAllTheSame : ∃ opening s line later, opening.Opened ∧ Served opening s ∧
    (answerLine line s).2.1.isRefused = true ∧ ¬ s.Spared (answerLine line s).2.2 ∧
    (answerLine later s).2.1.isRefused = true ∧
    (answerLine later (answerLine line s).2.2).2.1.isRefused = false := by
  have refused : (answerLine strayField smallServer).2.1.isRefused = true := by decide +kernel
  have registered : (answerLine strayField smallServer).2.2.registry.length = 1 := by decide +kernel
  have before : (answerLine (lineOf .checkFormValidity []) smallServer).2.1.isRefused = true := by decide +kernel
  have after : (answerLine (lineOf .checkFormValidity [])
      (answerLine strayField smallServer).2.2).2.1.isRefused = false := by decide +kernel
  obtain ⟨blank,_⟩ := smallServerBlank
  have served : Served (smallPage true) smallServer := .start
  generalize smallServer = s at *
  refine ⟨_,s,strayField,_,smallOpened true,served,refused,fun spared => ?_,before,after⟩
  rw [spared.registry,blank] at registered
  cases registered

end Service
end FormGuard
