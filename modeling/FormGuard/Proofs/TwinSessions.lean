import FormGuard.Proofs.QuietSteps
import FormGuard.Service.Loop

/-! Sessions that differ only in what their catalogs remember and in how their sources write down the same values. No
request tells them apart, and none that follows. -/
namespace FormGuard

namespace Source

theorem valueSet (v : Source) (name m : String) (x : Value) :
    (v.setValue name x).value m = if m = name then x else v.value m := by
  unfold value setValue
  rw [Table.getAfterPut]
  split <;> rfl

theorem disabledSet (v : Source) (name m : String) (disabled : Bool) :
    (v.setDisabled name disabled).isDisabled m = if m = name then disabled else v.isDisabled m := by
  unfold setDisabled
  cases disabled with
  | true =>
    cases known : v.isDisabled name with
    | true =>
      simp only [if_true]
      split
      · rename_i same
        rw [same,known]
      · rfl
    | false => by_cases same : m = name <;> simp [isDisabled,same]
  | false => by_cases same : m = name <;> simp [isDisabled,same]

theorem valueBesideDisabled (v : Source) (name : String) (disabled : Bool) :
    (v.setDisabled name disabled).value = v.value := by
  unfold setDisabled
  split
  · split <;> rfl
  · rfl

theorem valueKept {v : Source} {name : String} {x : Value} : (v.setValue name x).value = v.value ↔ v.value name = x := by
  constructor
  · intro same
    rw [← same,valueSet,if_pos rfl]
  · intro known
    funext m
    rw [valueSet]
    split
    · rename_i own
      rw [own,known]
    · rfl

theorem disabledKept {v : Source} {name : String} {disabled : Bool} :
    (v.setDisabled name disabled).isDisabled = v.isDisabled ↔ v.isDisabled name = disabled := by
  constructor
  · intro same
    rw [← same,disabledSet,if_pos rfl]
  · intro known
    funext m
    rw [disabledSet]
    split
    · rename_i own
      rw [own,known]
    · rfl

end Source

namespace Session

def dress (s : Session) (c : Catalog) (v : Source) : Session := { s with catalog := c, source := v }

section Dressed
variable (s : Session) (c : Catalog) (v : Source)

theorem dressedCancel (name : String) : (s.dress c v).cancelTimer name = (s.cancelTimer name).dress c v := by
  unfold cancelTimer dress
  dsimp only
  split <;> rfl

theorem dressedPresent (r : Record) (o : FieldOutcome) : (s.dress c v).present r o = (s.present r o).dress c v := by
  unfold present
  dsimp only
  split <;> rfl

theorem dressedRemove (name : String) : (s.dress c v).remove name = (s.remove name).dress c v := by
  unfold remove
  rw [dressedCancel]
  rfl

theorem dressedReject (e : SummaryEntry) : (s.dress c v).reject e = (s.reject e).dress c v := by
  have same : (s.dress c v).registry = s.registry := rfl
  unfold reject
  rw [same]
  cases s.registry.find? e.field with
  | none => rfl
  | some r =>
    dsimp only
    rw [dressedCancel]
    rfl

theorem dressedAbandon (name : String) : (s.dress c v).abandon name = (s.abandon name).dress c v := by
  have same (m : Session) : (m.dress c v).registry = m.registry := rfl
  unfold abandon
  rw [dressedCancel]
  dsimp only
  rw [same]
  cases (s.cancelTimer name).registry.find? name with
  | none => rfl
  | some r =>
    dsimp only
    split <;> rfl

theorem dressedFold {α} {f : Session → α → Session} (step : ∀ m a, f (m.dress c v) a = (f m a).dress c v)
    (items : List α) : items.foldl f (s.dress c v) = (items.foldl f s).dress c v := by
  induction items generalizing s with
  | nil => rfl
  | cons a rest ih =>
    rw [List.foldl_cons,step]
    exact ih _

theorem dressedClearPending : (s.dress c v).clearPending.2 = s.clearPending.2.dress c v :=
  dressedFold s c v (fun m name => dressedAbandon m c v name) s.timers.names

theorem dressedTransition : (s.dress c v).onTransition.2 = s.onTransition.2.dress c v := by
  have same : (s.dress c v).keepOnTransition = s.keepOnTransition := rfl
  unfold onTransition
  rw [same]
  split
  · rfl
  · unfold reset
    rw [dressedClearPending]
    rfl

theorem dressedFire : (s.dress c v).fire = s.fire.dress c v :=
  dressedFold s c v (fun m _ => dressedTransition m c v) s.hook.listeners

end Dressed

def Blind {α} (op : Session → α × Session) : Prop := ∀ s c v, op (s.dress c v) = ((op s).1,(op s).2.dress c v)

theorem Blind.source {α} {op : Session → α × Session} (blind : Blind op) (s : Session) :
    (op s).2.source = s.source := congrArg (fun answer => answer.2.source) (blind s s.catalog s.source)

theorem blindRemoveNamed (name : Value) : Blind (·.removeNamed name) := by
  intro s c v
  cases name with
  | text name =>
    dsimp only [removeNamed]
    rw [dressedRemove]
  | _ =>
    have keeps : (s.dress c v).keepsFields = s.keepsFields := rfl
    have shows : (s.dress c v).display.messages = s.display.messages := rfl
    simp only [removeNamed,keeps,shows]
    repeat' split
    all_goals rfl

theorem blindRemoveAll (names : List Value) : Blind (removeAll names) := by
  intro s c v
  induction names generalizing s with
  | nil => rfl
  | cons name rest ih =>
    have first : (s.dress c v).removeNamed name = _ := blindRemoveNamed name s c v
    simp only [removeAllEq,first]
    rcases s.removeNamed name with ⟨f | ⟨⟩,s₁⟩
    · rfl
    · exact ih s₁

theorem blindRemoveGiven (names : Value) : Blind (·.removeGiven names) := by
  intro s c v
  unfold removeGiven
  split
  · exact blindRemoveAll _ s c v
  · exact blindRemoveAll _ s c v
  · exact blindRemoveAll _ s c v
  · rfl

theorem blindCheck (form : Value) : Blind (·.checkGiven form) := by
  intro s c v
  have same : (s.dress c v).summary = s.summary := rfl
  unfold checkGiven
  dsimp only
  split
  · rfl
  · unfold check
    rw [same]
    split
    · exact congrArg (Prod.mk _) (dressedFold s c v (fun m e => dressedReject m c v e) _)
    · rfl

theorem blindClearAhead (form : Value) : Blind (·.clearAheadGiven form) := by
  intro s c v
  have same : (s.dress c v).summary = s.summary := rfl
  unfold clearAheadGiven
  dsimp only
  split
  · rfl
  · unfold clearAhead
    rw [same]
    split
    · exact congrArg (Prod.mk _) (dressedFold s c v (fun m name => dressedRemove m c v name) _)
    · rfl

theorem blindSetOptions (options : Value) : Blind (·.setOptions options) := by
  intro s c v
  unfold setOptions
  dsimp only
  split
  · rfl
  · split <;> rfl

/-- Nothing that is asked of the two, in the same way, gets different answers. -/
structure Twin (s t : Session) : Prop where
  dressed : t = s.dress t.catalog t.source
  book : s.catalog.SameBook t.catalog
  remembers : s.catalog.Remembers
  remembers' : t.catalog.Remembers
  value : t.source.value = s.source.value
  disabled : t.source.isDisabled = s.source.isDisabled

inductive SameAnswer {α} : α × Session → α × Session → Prop where
  | same (answer : α) {s t} (twin : Twin s t) : SameAnswer (answer,s) (answer,t)

theorem sameAnswer {α} {x y : α × Session} (answer : y.1 = x.1) (twin : Twin x.2 y.2) : SameAnswer x y := by
  obtain ⟨a,s⟩ := x
  obtain ⟨_,t⟩ := y
  subst answer
  exact .same _ twin

namespace Twin
variable {s m t : Session}

theorem refl (remembers : s.catalog.Remembers) : Twin s s := ⟨rfl,.refl _,remembers,remembers,rfl,rfl⟩

theorem trans (first : Twin s m) (second : Twin m t) : Twin s t where
  dressed := by
    conv => lhs; rw [second.dressed,first.dressed]
    rfl
  book := first.book.trans second.book
  remembers := first.remembers
  remembers' := second.remembers'
  value := second.value.trans first.value
  disabled := second.disabled.trans first.disabled

theorem ofRead (remembers : s.catalog.Remembers) (read : s.Read t) : Twin s t := by
  obtain ⟨book,remembers'⟩ := read.aside.book remembers
  rcases read with rfl | ⟨rules,rfl⟩
  · exact .refl remembers
  · exact ⟨rfl,book,remembers,remembers',rfl,rfl⟩

theorem step (twin : Twin s t) (f : Session → Session) (blind : ∀ s c v, f (s.dress c v) = (f s).dress c v) :
    Twin (f s) (f t) := by
  have kept (s : Session) : (f s).catalog = s.catalog ∧ (f s).source = s.source := by
    have same : f s = (f s).dress s.catalog s.source := blind s s.catalog s.source
    constructor <;> rw [same] <;> rfl
  obtain ⟨catalog,source⟩ := kept s
  obtain ⟨catalog',source'⟩ := kept t
  obtain ⟨dressed,book,remembers,remembers',value,disabled⟩ := twin
  refine ⟨?_,?_,?_,?_,?_,?_⟩
  · rw [catalog',source',← blind,← dressed]
  all_goals simpa only [catalog,catalog',source,source']

theorem ask (twin : Twin s t) {α} {op : Session → α × Session} (blind : Blind op) : SameAnswer (op s) (op t) := by
  refine sameAnswer ?_ (twin.step (fun s => (op s).2) fun s c v => by rw [blind])
  rw [twin.dressed,blind]

theorem parse (twin : Twin s t) (rules : String) : SameAnswer (s.parse rules) (t.parse rules) := by
  obtain ⟨kept,remembers⟩ := Catalog.parseKeeps twin.remembers rules
  obtain ⟨kept',remembers'⟩ := Catalog.parseKeeps twin.remembers' rules
  have read := congrArg (fun m => m.dress (t.catalog.parse rules).2 t.source) twin.dressed
  refine sameAnswer (Catalog.parseSameBook twin.remembers twin.remembers' twin.book rules) ?_
  exact ⟨read,(kept.symm.trans twin.book).trans kept',remembers,remembers',twin.value,twin.disabled⟩

theorem judge (twin : Twin s t) (r : Record) (x : Value) : t.judge r x = s.judge r x := by
  have pipeline : t.pipelineOf r = s.pipelineOf r := by
    unfold pipelineOf
    rw [Catalog.parseSameBook twin.remembers twin.remembers' twin.book]
  have context : t.contextOf r = s.contextOf r := by
    unfold contextOf
    rw [twin.value,twin.disabled]
  unfold Session.judge
  rw [pipeline,context,twin.dressed]
  rfl

theorem setValue (twin : Twin s t) (name : String) (x : Value) : Twin (s.setValue name x) (t.setValue name x) := by
  obtain ⟨dressed,book,remembers,remembers',value,disabled⟩ := twin
  refine ⟨?_,book,remembers,remembers',?_,disabled⟩
  · have noted := congrArg (fun m => m.dress t.catalog (t.source.setValue name x)) dressed
    exact noted
  · funext m
    change (t.source.setValue name x).value m = (s.source.setValue name x).value m
    rw [Source.valueSet,Source.valueSet,value]

theorem setDisabled (twin : Twin s t) (name : String) (d : Bool) :
    Twin (s.setDisabled name d) (t.setDisabled name d) := by
  obtain ⟨dressed,book,remembers,remembers',value,disabled⟩ := twin
  refine ⟨?_,book,remembers,remembers',?_,?_⟩
  · have noted := congrArg (fun m => m.dress t.catalog (t.source.setDisabled name d)) dressed
    exact noted
  · change (t.source.setDisabled name d).value = (s.source.setDisabled name d).value
    rw [Source.valueBesideDisabled,Source.valueBesideDisabled,value]
  · funext m
    change (t.source.setDisabled name d).isDisabled m = (s.source.setDisabled name d).isDisabled m
    rw [Source.disabledSet,Source.disabledSet,disabled]

theorem judgeSilently (twin : Twin s t) (r : Record) : SameAnswer (s.judgeSilently r) (t.judgeSilently r) := by
  unfold Session.judgeSilently
  rw [twin.judge,twin.value]
  split
  · exact .same _ twin
  · rename_i o _
    exact .same _ (twin.step (·.accept r o) fun _ _ _ => rfl)

theorem enlist (twin : Twin s t) (attributes : Value.Fields) :
    SameAnswer (s.enlist attributes) (t.enlist attributes) := by
  have same : Attributes.record t.translator t.inactivityLimit t.made (t.options.overlay attributes) =
      Attributes.record s.translator s.inactivityLimit s.made (s.options.overlay attributes) := by
    rw [twin.dressed]
    rfl
  unfold Session.enlist
  rw [same]
  split
  · exact .same _ twin
  · rename_i r _
    have read := twin.parse r.rules
    generalize s.parse r.rules = x at read
    generalize t.parse r.rules = y at read
    obtain ⟨f | p,twin⟩ := read
    · exact .same _ twin
    · have silent := twin.step (·.cancelTimer r.name) fun s c v => dressedCancel s c v r.name
      exact .same _ (silent.step (·.enter { r with pipeline := some p }) fun _ _ _ => rfl)

theorem add (twin : Twin s t) (attributes : Value.Fields) : SameAnswer (s.add attributes) (t.add attributes) := by
  have entered := twin.enlist attributes
  rw [addEq,addEq]
  generalize s.enlist attributes = x at entered
  generalize t.enlist attributes = y at entered
  obtain ⟨f | r,twin⟩ := entered
  · exact .same _ twin
  · exact twin.judgeSilently r

theorem registry (twin : Twin s t) : t.registry = s.registry := by
  rw [twin.dressed]
  rfl

theorem validate (twin : Twin s t) (name : String) (x : Value) (event : InputEvent) :
    SameAnswer (s.validate name x event) (t.validate name x event) := by
  unfold Session.validate
  rw [twin.registry]
  split
  · exact .same _ twin
  · rename_i r _
    have marked := twin.step (·.store (mark r event)) fun _ _ _ => rfl
    dsimp only
    rw [marked.judge]
    split
    · exact .same _ marked
    · rename_i o _
      have accepted := marked.step (·.accept (mark r event) o) fun _ _ _ => rfl
      have noted := accepted.step (·.cancelTimer name) fun s c v => dressedCancel s c v name
      have cleared := noted.step (·.clearMessage name) fun _ _ _ => rfl
      split
      · exact .same _ (cleared.step (·.store _) fun _ _ _ => rfl)
      · split
        · exact .same _ (noted.step (·.present _ o) fun s c v => dressedPresent s c v _ o)
        · exact .same _ (cleared.step (fun s => (s.store _).arm _ x) fun _ _ _ => rfl)

theorem validateGiven (twin : Twin s t) (name x event : Value) :
    SameAnswer (s.validateGiven name x event) (t.validateGiven name x event) := by
  unfold Session.validateGiven
  split
  · exact twin.validate _ x _
  · split <;> exact .same _ twin

end Twin

end Session

/-! Behind requests. -/

namespace Service
open Session

def firstNote (params : Value.Fields) (s : Session) : Except Fault Session :=
  let name := Attributes.nameOf (params.drop "value")
  match params.get? "value" with
  | some v => if name.truthy then s.setValueGiven name v else .ok s
  | none => .ok s

theorem addFieldEq (params : Value.Fields) (s : Session) :
    addField params s =
      match firstNote params s with
      | .error f => refuse (.ofFault f) s
      | .ok s =>
        match s.add (withoutDelay (params.drop "value")) with
        | (.error f,s) => refuse (.ofFailure f) s
        | (.ok r,s) =>
          withRenders [("field",.text r.name),("valid",.bool r.isValid),("message",.text r.message)] s := rfl

inductive TwinNotes : Except Fault Session → Except Fault Session → Prop where
  | refused (f : Fault) : TwinNotes (.error f) (.error f)
  | noted {s t} (twin : Twin s t) : TwinNotes (.ok s) (.ok t)

inductive SameReply {β} : List Trace × β × Session → List Trace × β × Session → Prop where
  | same (traces : List Trace) (b : β) {s t} (twin : Twin s t) : SameReply (traces,b,s) (traces,b,t)

section Twins
variable {s t : Session} (twin : Twin s t)
include twin

theorem twinValueGiven (name x : Value) : TwinNotes (s.setValueGiven name x) (t.setValueGiven name x) := by
  unfold setValueGiven
  split
  · exact .noted (twin.setValue _ x)
  · split
    · exact .noted twin
    · exact .refused _

theorem twinDisabledGiven (name : Value) (d : Bool) :
    TwinNotes (s.setDisabledGiven name d) (t.setDisabledGiven name d) := by
  unfold setDisabledGiven
  split
  · exact .noted (twin.setDisabled _ d)
  · split
    · exact .noted twin
    · exact .refused _

theorem twinNote (name x : Value) (disabled : Option Value) :
    TwinNotes (note s name x disabled) (note t name x disabled) := by
  have first := twinValueGiven twin name x
  unfold note
  generalize s.setValueGiven name x = a at first
  generalize t.setValueGiven name x = b at first
  cases first with
  | refused f => exact .refused f
  | noted twin =>
    cases disabled with
    | none => exact .noted twin
    | some d => exact twinDisabledGiven twin name d.truthy

theorem twinRenders (fields : Value.Fields) : SameAnswer (withRenders fields s) (withRenders fields t) :=
  twin.ask fun _ _ _ => rfl

theorem twinFirstNote (params : Value.Fields) : TwinNotes (firstNote params s) (firstNote params t) := by
  unfold firstNote
  dsimp only
  split
  · split
    · exact twinValueGiven twin _ _
    · exact .noted twin
  · exact .noted twin

theorem twinAddField (params : Value.Fields) : SameAnswer (addField params s) (addField params t) := by
  have noted := twinFirstNote twin params
  rw [addFieldEq,addFieldEq]
  generalize firstNote params s = a at noted
  generalize firstNote params t = b at noted
  cases noted with
  | refused f => exact .same _ twin
  | @noted s t twin =>
    have added := twin.add (withoutDelay (params.drop "value"))
    dsimp only
    generalize s.add (withoutDelay (params.drop "value")) = x at added
    generalize t.add (withoutDelay (params.drop "value")) = y at added
    obtain ⟨f | r,twin⟩ := added
    · exact .same _ twin
    · exact twinRenders twin _

theorem twinValidateField (params : Value.Fields) :
    SameAnswer (validateField params s) (validateField params t) := by
  unfold validateField
  dsimp only
  split
  · exact .same _ twin
  · split
    · exact .same _ twin
    · rename_i v _
      have noted := twinNote twin (param params "name") v (params.get? "disabled")
      generalize note s (param params "name") v (params.get? "disabled") = a at noted
      generalize note t (param params "name") v (params.get? "disabled") = b at noted
      cases noted with
      | refused f => exact .same _ twin
      | @noted s t twin =>
        have judged := twin.validateGiven (param params "name") v (param params "event")
        dsimp only
        generalize s.validateGiven (param params "name") v (param params "event") = x at judged
        generalize t.validateGiven (param params "name") v (param params "event") = y at judged
        cases judged with
        | @same answer s t twin =>
          have same : t.recordGiven (param params "name") = s.recordGiven (param params "name") := by
            unfold recordGiven
            rw [twin.registry]
          cases answer with
          | error f => exact .same _ twin
          | ok state =>
            dsimp only
            rw [same]
            split
            · exact twinRenders twin _
            · exact .same _ twin
            · exact .same _ twin

theorem twinSetGlobalOptions (params : Value.Fields) :
    SameAnswer (setGlobalOptions params s) (setGlobalOptions params t) := by
  unfold setGlobalOptions
  split
  · exact .same _ twin
  · rename_i options _
    have set := twin.ask (blindSetOptions (.object (withoutDelay options)))
    generalize s.setOptions (.object (withoutDelay options)) = x at set
    generalize t.setOptions (.object (withoutDelay options)) = y at set
    obtain ⟨f | ⟨⟩,twin⟩ := set
    · exact .same _ twin
    · exact .same _ twin

theorem twinCheck (params : Value.Fields) : SameAnswer (checkFormValidity params s) (checkFormValidity params t) := by
  have checked := twin.ask (blindCheck (param params "form"))
  unfold checkFormValidity
  dsimp only at checked ⊢
  generalize s.checkGiven (param params "form") = x at checked
  generalize t.checkGiven (param params "form") = y at checked
  cases checked with
  | @same answer s t twin =>
    cases answer with
    | error f => exact .same _ twin
    | ok valid =>
      have same : summaryOf t (param params "form") = summaryOf s (param params "form") := by
        rw [twin.dressed]
        rfl
      dsimp only
      rw [same]
      exact twinRenders twin _

theorem twinRemoveField (params : Value.Fields) : SameAnswer (removeField params s) (removeField params t) := by
  unfold removeField
  dsimp only
  generalize (if (param params "names").truthy = true then param params "names" else param params "name") = names
  split
  · exact .same _ twin
  · have removed := twin.ask (blindRemoveGiven names)
    generalize s.removeGiven names = x at removed
    generalize t.removeGiven names = y at removed
    obtain ⟨f | ⟨⟩,twin⟩ := removed
    · exact .same _ twin
    · exact twinRenders twin _

theorem twinClearAhead (params : Value.Fields) :
    SameAnswer (clearInvalidEntriesAhead params s) (clearInvalidEntriesAhead params t) := by
  have cleared := twin.ask (blindClearAhead (param params "form"))
  unfold clearInvalidEntriesAhead
  generalize s.clearAheadGiven (param params "form") = x at cleared
  generalize t.clearAheadGiven (param params "form") = y at cleared
  obtain ⟨f | names,twin⟩ := cleared
  · exact .same _ twin
  · exact twinRenders twin _

theorem twinPerform (m : Method) (params : Value.Fields) : SameAnswer (perform m params s) (perform m params t) := by
  cases m with
  | addField => exact twinAddField twin params
  | setGlobalOptions => exact twinSetGlobalOptions twin params
  | validateField => exact twinValidateField twin params
  | checkFormValidity => exact twinCheck twin params
  | removeField => exact twinRemoveField twin params
  | clearInvalidEntriesAhead => exact twinClearAhead twin params
  | getSummary =>
    refine sameAnswer ?_ twin
    rw [twin.dressed]
    rfl
  | pageTransition =>
    have fired := twin.step (·.fire) fun s c v => dressedFire s c v
    refine sameAnswer ?_ fired
    change Except.ok (Value.object [("reset",.bool (!t.fire.keepOnTransition))]) =
      .ok (.object [("reset",.bool (!s.fire.keepOnTransition))])
    rw [fired.dressed]
    rfl

theorem twinDispatch (method : Value) (params : Value.Fields) :
    SameAnswer (dispatch method params s) (dispatch method params t) := by
  unfold dispatch
  split
  · split
    · exact twinPerform twin _ params
    · exact .same _ twin
  · exact .same _ twin

theorem twinObject (request : Value.Fields) : SameReply (answerObject request s) (answerObject request t) := by
  unfold answerObject
  dsimp only
  split
  · exact .same _ _ twin
  · split
    · exact .same _ _ twin
    · split
      · rename_i params _
        have answered := twinDispatch twin (param request "method") params
        generalize dispatch (param request "method") params s = x at answered
        generalize dispatch (param request "method") params t = y at answered
        obtain ⟨_,twin⟩ := answered
        exact .same _ _ twin
      · exact .same _ _ twin

theorem twinLine (line : String) : SameReply (answerLine line s) (answerLine line t) := by
  unfold answerLine
  split
  · exact .same _ _ twin
  · exact .same _ _ twin
  · exact .same _ _ twin
  · exact twinObject twin _
  · exact .same _ _ twin

theorem twinTurn (u : Turn) : SameReply (takeTurn u s) (takeTurn u t) := by
  unfold takeTurn
  dsimp only
  split
  · exact .same _ _ twin
  · exact .same _ _ twin
  · rename_i line _
    split
    · exact .same _ _ twin
    · have replied := twinLine twin line
      generalize answerLine line s = x at replied
      generalize answerLine line t = y at replied
      obtain ⟨_,_,twin⟩ := replied
      exact .same _ _ twin

end Twins

theorem twinTurns {s t : Session} (twin : Twin s t) (turns : List Turn) :
    SameAnswer (takeTurns turns s) (takeTurns turns t) := by
  induction turns generalizing s t with
  | nil => exact .same _ twin
  | cons u rest ih =>
    have taken := twinTurn twin u
    unfold takeTurns
    generalize takeTurn u s = x at taken
    generalize takeTurn u t = y at taken
    cases taken with
    | @same traces goesOn s t twin =>
      dsimp only
      split
      · have later := ih twin
        generalize takeTurns rest s = x at later
        generalize takeTurns rest t = y at later
        obtain ⟨_,twin⟩ := later
        exact .same _ twin
      · exact .same _ twin

end Service
end FormGuard
