import FormGuard.Proofs.FailedCalls
import FormGuard.Proofs.TwinSessions

/-! Requests as errands to a session. The value of a field, and whether it is disabled, are noted before the session is
asked; of an errand that the session does not refuse, what was shown meanwhile is then taken along. -/
namespace FormGuard

/-- What a request is to the session: what is noted of a field, and the call that follows. -/
structure Errand where
  field : Value
  value : Option Value
  disabled : Option Bool
  call : SessionEvent

namespace Errand
open Session

def plain (call : SessionEvent) : Errand := ⟨.null,none,none,call⟩

def noted (g : Errand) (s : Session) : Session :=
  let s := match g.value with
    | some v => ((SessionEvent.setValue g.field v).run s).2
    | none => s
  match g.disabled with
  | some d => ((SessionEvent.setDisabled g.field d).run s).2
  | none => s

def Known (g : Errand) (s : Session) : Prop := ∀ name, g.field = .text name →
  (∀ v, g.value = some v → s.source.value name = v) ∧ ∀ d, g.disabled = some d → s.source.isDisabled name = d

def Spares (g : Errand) (s : Session) : Prop := g.Known s ∧ g.call.FailsEarly s

end Errand

namespace Service
open Attributes

/-! The errands of the methods; there is none where the session is not asked at all. -/

def addErrand? (params : Value.Fields) : Option Errand :=
  let attributes := params.drop "value"
  let name := nameOf attributes
  let call := SessionEvent.add (.object (withoutDelay attributes)) .null
  match params.get? "value" with
  | none => some (.plain call)
  | some v =>
    if !name.truthy then some (.plain call)
    else if name.canName then some ⟨name,some v,none,call⟩ else none

def optionsErrand? (params : Value.Fields) : Option Errand :=
  match ((params.get? "options").getD (.object params)).spelled with
  | .error _ => none
  | .ok options => some (.plain (.setOptions (.object (withoutDelay options))))

def valueErrand? (params : Value.Fields) : Option Errand :=
  let name := param params "name"
  match params.get? "value" with
  | none => none
  | some v =>
    if name.truthy && name.canName then
      some ⟨name,some v,(params.get? "disabled").map (·.truthy),.validate name v (param params "event")⟩
    else none

def removeErrand? (params : Value.Fields) : Option Errand :=
  let names := param params "names"
  let names := if names.truthy then names else param params "name"
  if names.truthy then some (.plain (.remove names)) else none

def errand? : Method → Value.Fields → Option Errand
  | .addField,params => addErrand? params
  | .setGlobalOptions,params => optionsErrand? params
  | .validateField,params => valueErrand? params
  | .checkFormValidity,params => some (.plain (.check (param params "form")))
  | .removeField,params => removeErrand? params
  | .clearInvalidEntriesAhead,params => some (.plain (.clearAhead (param params "form")))
  | .getSummary,_ => none
  | .pageTransition,_ => some (.plain .fire)

def requestedOf (request : Value.Fields) : Option (Method × Value.Fields) :=
  if (param request "jsonrpc").equals (.text "2.0") then
    match param request "method",(request.get? "params").getD (.object []) with
    | .text name,.object params => (Method.named? name).map fun m => (m,params)
    | _,_ => none
  else none

def requested? (line : String) : Option (Method × Value.Fields) :=
  match Json.read line with
  | .ok (.object request) => requestedOf request
  | _ => none

def errandOf (line : String) : Option Errand := (requested? line).bind fun request => errand? request.1 request.2

def Tacit (v : Value) : Prop := ∃ fields : Value.Fields, v = .object fields ∧ fields.get? "renders" = none

/-! Why the session is not asked: by a method, for a request, and for a line. -/

inductive Slip : Refusal → Prop where
  | missing (name : String) : Slip (.missingParam name)
  | fault (f : Fault) : Slip (.ofFault f)

inductive Unfit (request : Value.Fields) : Refusal → Prop where
  | version (wrong : (param request "jsonrpc").equals (.text "2.0") = false) :
      Unfit request (.wrongVersion (param request "jsonrpc"))
  | noMethod : Unfit request .noMethod
  | params (v : Value) : Unfit request (.paramsNoObject v)
  | method (right : (param request "jsonrpc").equals (.text "2.0") = true)
      (unknown : ∀ name, param request "method" = .text name → Method.named? name = none) :
      Unfit request (.unknownMethod (param request "method"))
  | slip {r} (slip : Slip r) : Unfit request r

inductive Unheard (line : String) : Refusal → Prop where
  | unreadable (read : Json.read line = .error .malformed) : Unheard line .unreadable
  | beyond (f : Fault) : Unheard line (.ofFault f)
  | noObject : Unheard line .noObject
  | unfit {request r} (read : Json.read line = .ok (.object request)) (unfit : Unfit request r) : Unheard line r

/-- What comes of an errand, if there is one, and why there is none where something is refused. Only the result of options
set or of a change of page does not say what was shown. -/
inductive Outcome (why : Refusal → Prop) (g : Option Errand) (s : Session) : Answer → Prop where
  | idle {answer} (none : g = none) (tacit : ∀ v, answer = .ok v → Tacit v)
      (refused : ∀ r, answer = .error r → why r) : Outcome why g s (answer,s)
  | failed {e f s'} (errand : g = some e) (failed : e.call.run (e.noted s) = (.error f,s')) :
      Outcome why g s (.error (.ofFailure f),s')
  | done {e v s'} (errand : g = some e) (ok : e.call.run (e.noted s) = (.ok (),s')) (tacit : Tacit v)
      (call : (∃ options, e.call = .setOptions options) ∨ e.call = .fire) : Outcome why g s (.ok v,s')
  | told {e s'} {fields : Value.Fields} (errand : g = some e) (ok : e.call.run (e.noted s) = (.ok (),s'))
      (plain : fields.get? "renders" = none) :
      Outcome why g s (.ok (.object (fields ++ [("renders",.list (s'.display.events.map (·.toValue)))])),s'.drain.2)

section Outcomes
variable {why : Refusal → Prop} {g : Option Errand} {s s' : Session}

theorem Outcome.weaken {why' : Refusal → Prop} {a : Answer} (outcome : Outcome why g s a) (weaker : ∀ r, why r → why' r) :
    Outcome why' g s a := by
  cases outcome with
  | idle none tacit refused => exact .idle none tacit fun r same => weaker r (refused r same)
  | failed errand failed => exact .failed errand failed
  | done errand ok tacit call => exact .done errand ok tacit call
  | told errand ok plain => exact .told errand ok plain

theorem unasked {r : Refusal} (none : g = none) (refused : why r) : Outcome why g s (.error r,s) :=
  .idle none nofun fun _ same => Except.error.inj same ▸ refused

theorem renders {e : Errand} {fields : Value.Fields} (ok : e.call.run (e.noted s) = (.ok (),s'))
    (plain : fields.get? "renders" = none) : Outcome why (some e) s (withRenders fields s') := .told rfl ok plain

theorem plainFailed {call : SessionEvent} {f} (failed : call.run s = (.error f,s')) :
    Outcome why (some (.plain call)) s (.error (.ofFailure f),s') := .failed rfl failed

theorem plainRenders {call : SessionEvent} {fields : Value.Fields} (ok : call.run s = (.ok (),s'))
    (plain : fields.get? "renders" = none) : Outcome why (some (.plain call)) s (withRenders fields s') := .told rfl ok plain

end Outcomes

theorem addRun (attributes : Value.Fields) (s : Session) :
    (SessionEvent.add (.object (withoutDelay attributes)) .null).run s =
      Session.outcome (s.add (withoutDelay attributes)) := by
  have filled : (Value.object (withoutDelay attributes)).truthy = true := by
    have delay : (withoutDelay attributes).get? "debounce" = some (.int 0) :=
      (Table.getBesideDropped (by decide)).trans Table.getPut
    cases none : withoutDelay attributes with
    | nil =>
      rw [none] at delay
      contradiction
    | cons => rfl
  have given : Session.attributesGiven (.object (withoutDelay attributes)) .null = .ok (withoutDelay attributes) := by
    unfold Session.attributesGiven
    dsimp only
    rw [if_pos filled]
    rfl
  change Session.outcome (s.addGiven (.object (withoutDelay attributes)) .null) = _
  rw [Session.addGivenEq,given]

theorem addOutcome {e : Errand} {attributes : Value.Fields} {s : Session}
    (call : e.call = .add (.object (withoutDelay attributes)) .null) :
    Outcome Slip (some e) s
      (match (e.noted s).add (withoutDelay attributes) with
        | (.error f,s) => refuse (.ofFailure f) s
        | (.ok r,s) =>
          withRenders [("field",.text r.name),("valid",.bool r.isValid),("message",.text r.message)] s) := by
  have run : e.call.run (e.noted s) = Session.outcome ((e.noted s).add (withoutDelay attributes)) := by
    rw [call,addRun]
  rcases added : (e.noted s).add (withoutDelay attributes) with ⟨f | r,s'⟩ <;> rw [added] at run
  · exact .failed rfl run
  · exact renders run rfl

theorem noteEq (s : Session) (name v : Value) (disabled : Option Value) (call : SessionEvent) :
    note s name v disabled =
      if name.canName then .ok ((⟨name,some v,disabled.map (·.truthy),call⟩ : Errand).noted s) else .error .badKind := by
  cases name <;> cases disabled <;> rfl

theorem setValueNote (s : Session) (name v : Value) : s.setValueGiven name v = note s name v none := by
  unfold note
  cases s.setValueGiven name v <;> rfl

theorem addFieldOutcome (params : Value.Fields) (s : Session) :
    Outcome Slip (addErrand? params) s (addField params s) := by
  rw [addFieldEq]
  unfold addErrand? firstNote
  dsimp only
  cases params.get? "value" with
  | none => exact addOutcome rfl
  | some v =>
    dsimp only
    cases (nameOf (params.drop "value")).truthy with
    | false => exact addOutcome rfl
    | true =>
      simp only [Bool.not_true,Bool.false_eq_true,if_false,if_true]
      rw [setValueNote,noteEq s _ v none (.add (.object (withoutDelay (params.drop "value"))) .null)]
      cases (nameOf (params.drop "value")).canName with
      | false => exact unasked rfl (.fault .badKind)
      | true => exact addOutcome rfl

theorem setGlobalOptionsOutcome (params : Value.Fields) (s : Session) :
    Outcome Slip (optionsErrand? params) s (setGlobalOptions params s) := by
  unfold setGlobalOptions optionsErrand?
  cases ((params.get? "options").getD (.object params)).spelled with
  | error f => exact unasked rfl (.fault f)
  | ok options =>
    have run : (SessionEvent.setOptions (.object (withoutDelay options))).run s =
        s.setOptions (.object (withoutDelay options)) := rfl
    dsimp only
    rcases set : s.setOptions (.object (withoutDelay options)) with ⟨f | ⟨⟩,s'⟩
    · exact plainFailed (run.trans set)
    · exact .done (e := .plain _) rfl (run.trans set) ⟨_,rfl,rfl⟩ (.inl ⟨_,rfl⟩)

theorem validatedRecord {s s' : Session} {name v event state}
    (ok : s.validateGiven name v event = (.ok state,s')) : ∃ r, s'.recordGiven name = .ok (some r) := by
  by_cases text : ∃ n, name = .text n
  · obtain ⟨n,rfl⟩ := text
    have run : s.validate n v (Session.eventOf event) = (.ok state,s') := ok
    have outcomes := Session.noted s n v (Session.eventOf event)
    rw [run] at outcomes
    have there {r o state} (found : s.registry.find? n = some r)
        (judged : Session.Judges s s' (Session.mark r (Session.eventOf event)) o state) :
        ∃ r, s'.recordGiven (.text n) = .ok (some r) := by
      change ∃ r, Except.ok (s'.registry.find? n) = .ok (some r)
      rw [judged.registry n]
      split
      · exact ⟨_,rfl⟩
      · exact ⟨r,congrArg Except.ok found⟩
    cases outcomes with
    | excused found answered => exact there found (Session.settleJudges s n .valid answered)
    | shown found answered => exact there found (Session.showJudges s n answered)
    | postponed found answered =>
      exact there found ((Session.settleJudges s n .pending answered).arm _ _)
  · obtain ⟨_,refused⟩ := Session.validateOther s v event text
    cases refused.symm.trans ok

theorem validateFieldOutcome (params : Value.Fields) (s : Session) :
    Outcome Slip (valueErrand? params) s (validateField params s) := by
  unfold validateField valueErrand?
  dsimp only
  cases named : (param params "name").truthy with
  | false => cases params.get? "value" <;> exact unasked rfl (.missing _)
  | true =>
    cases params.get? "value" with
    | none => exact unasked rfl (.missing _)
    | some v =>
      dsimp only
      rw [noteEq s _ v _ (.validate (param params "name") v (param params "event"))]
      cases (param params "name").canName with
      | false => exact unasked rfl (.fault .badKind)
      | true =>
        simp only [Bool.not_true,Bool.false_eq_true,if_false,Bool.and_self,if_true]
        generalize errand : (⟨param params "name",some v,(params.get? "disabled").map (·.truthy),
          .validate (param params "name") v (param params "event")⟩ : Errand) = e
        have run : e.call.run (e.noted s) = Session.outcome
            ((e.noted s).validateGiven (param params "name") v (param params "event")) := by
          rw [← errand]
          rfl
        rcases judged : (e.noted s).validateGiven (param params "name") v (param params "event") with ⟨f | state,s'⟩
        · rw [judged] at run
          exact .failed rfl run
        · rw [judged] at run
          obtain ⟨r,found⟩ := validatedRecord judged
          dsimp only
          rw [found]
          exact renders run rfl

theorem checkOutcome (params : Value.Fields) (s : Session) :
    Outcome Slip (some (.plain (.check (param params "form")))) s (checkFormValidity params s) := by
  have run : (SessionEvent.check (param params "form")).run s =
      Session.outcome (s.checkGiven (param params "form")) := rfl
  unfold checkFormValidity
  dsimp only
  rcases checked : s.checkGiven (param params "form") with ⟨f | valid,s'⟩
  · rw [checked] at run
    exact plainFailed run
  · rw [checked] at run
    exact plainRenders run rfl

theorem removeFieldOutcome (params : Value.Fields) (s : Session) :
    Outcome Slip (removeErrand? params) s (removeField params s) := by
  unfold removeField removeErrand?
  dsimp only
  generalize (if (param params "names").truthy = true then param params "names" else param params "name") = names
  cases names.truthy with
  | false => exact unasked rfl (.missing _)
  | true =>
    have run : (SessionEvent.remove names).run s = s.removeGiven names := rfl
    simp only [Bool.not_true,Bool.false_eq_true,if_false,if_true]
    rcases removed : s.removeGiven names with ⟨f | ⟨⟩,s'⟩
    · exact plainFailed (run.trans removed)
    · exact plainRenders (run.trans removed) rfl

theorem clearAheadOutcome (params : Value.Fields) (s : Session) :
    Outcome Slip (some (.plain (.clearAhead (param params "form")))) s (clearInvalidEntriesAhead params s) := by
  have run : (SessionEvent.clearAhead (param params "form")).run s =
      Session.outcome (s.clearAheadGiven (param params "form")) := rfl
  unfold clearInvalidEntriesAhead
  rcases cleared : s.clearAheadGiven (param params "form") with ⟨f | names,s'⟩
  · rw [cleared] at run
    exact plainFailed run
  · rw [cleared] at run
    exact plainRenders run rfl

theorem performOutcome (m : Method) (params : Value.Fields) (s : Session) :
    Outcome Slip (errand? m params) s (perform m params s) := by
  cases m with
  | addField => exact addFieldOutcome params s
  | setGlobalOptions => exact setGlobalOptionsOutcome params s
  | validateField => exact validateFieldOutcome params s
  | checkFormValidity => exact checkOutcome params s
  | removeField => exact removeFieldOutcome params s
  | clearInvalidEntriesAhead => exact clearAheadOutcome params s
  | getSummary =>
    refine .idle rfl ?_ nofun
    rintro _ ⟨⟩
    exact ⟨_,rfl,rfl⟩
  | pageTransition => exact .done (e := .plain .fire) rfl rfl ⟨_,rfl,rfl⟩ (.inr rfl)

theorem namedTruthy {name : String} {m} (named : Method.named? name = some m) : (Value.text name).truthy = true := by
  by_contra empty
  have none : name = "" := by simpa [Value.truthy] using empty
  subst none
  contradiction

theorem strayOutcome {request : Value.Fields} {method : Value} (given : param request "method" = method)
    (right : (param request "jsonrpc").equals (.text "2.0") = true) (stray : ∀ name, method ≠ .text name)
    (params : Value.Fields) (s : Session) : Outcome (Unfit request) none s (dispatch method params s) := by
  subst given
  unfold dispatch
  split
  · rename_i name same
    exact absurd same (stray name)
  · refine unasked rfl ?_
    split
    · exact .method right fun name same => absurd same (stray name)
    · exact .slip (.fault .badKind)

theorem objectOutcome (request : Value.Fields) (s : Session) :
    Outcome (Unfit request) ((requestedOf request).bind fun r => errand? r.1 r.2) s
      ((answerObject request s).2.1.answer,(answerObject request s).2.2) := by
  unfold answerObject requestedOf
  dsimp only
  cases right : (param request "jsonrpc").equals (.text "2.0") with
  | false => exact unasked rfl (.version right)
  | true =>
    simp only [Bool.not_true,Bool.false_eq_true,if_false,if_true]
    generalize (Table.get? request "params").getD (.object []) = params
    cases given : param request "method" with
    | text name =>
      cases params with
      | object params =>
        unfold dispatch
        dsimp only
        cases named : Method.named? name with
        | none =>
          have unknown : Unfit request (.unknownMethod (.text name)) := given ▸ .method right fun n same => by
            cases given.symm.trans same
            exact named
          cases (Value.text name).truthy
          · exact unasked rfl .noMethod
          · exact unasked rfl unknown
        | some m =>
          rw [namedTruthy named]
          exact (performOutcome m params s).weaken fun _ => .slip
      | _ =>
        cases (Value.text name).truthy
        · exact unasked rfl .noMethod
        · exact unasked rfl (.params _)
    | _ =>
      generalize Value.truthy _ = named
      cases named with
      | false => exact unasked (by cases params <;> rfl) .noMethod
      | true =>
        cases params with
        | object params => exact strayOutcome given right (by rintro _ ⟨⟩) params s
        | _ => exact unasked rfl (.params _)

theorem lineOutcome (line : String) (s : Session) :
    Outcome (Unheard line) (errandOf line) s ((answerLine line s).2.1.answer,(answerLine line s).2.2) := by
  unfold answerLine errandOf requested?
  cases read : Json.read line with
  | error defect =>
    cases defect with
    | malformed => exact unasked rfl (.unreadable read)
    | longNumeral => exact unasked rfl (.beyond .badValue)
    | tooDeep => exact unasked rfl (.beyond .tooDeep)
  | ok v =>
    cases v with
    | object request => exact (objectOutcome request s).weaken fun _ => .unfit read
    | _ => exact unasked rfl .noObject

end Service
end FormGuard
