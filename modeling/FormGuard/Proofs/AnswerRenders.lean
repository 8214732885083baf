import FormGuard.Proofs.DisplayGate
import FormGuard.Proofs.RefusedRequests

/-! What the answers tell of what was shown and cleared. An answer with renders takes along all that no answer has taken yet;
and only a removal is ever refused with something cleared already, when a name that cannot be asked for stops it. That goes
out with the next answer that has renders. -/
namespace FormGuard

namespace Session

def without (s : Session) : Value → Session
  | .text name => s.remove name
  | v => s.clearOther v

/-- The names that are cleared before the removal of these is stopped, if it is: a name that cannot be asked for stops it as
long as anything is kept by a name, and is itself cleared if that is the display alone. -/
def stopped : List Value → Session → Option (List Value)
  | [],_ => none
  | v :: rest,s =>
    if v.canName || !s.keepsFields && s.display.messages.isEmpty then (stopped rest (s.without v)).map (v :: ·)
    else some (if s.keepsFields then [] else [v])

end Session

def SessionEvent.cutShort : SessionEvent → Session → List DisplayEvent
  | remove (.list names),s => ((Session.stopped names s).getD []).map .cleared
  | _,_ => []

namespace Session

theorem Grows.trans {s m s' : Session} (first : s.Grows m) (second : m.Grows s') : s.Grows s' := by
  obtain ⟨early,before⟩ := first
  obtain ⟨late,after⟩ := second
  exact ⟨early ++ late,by rw [after,before,List.append_assoc]⟩

theorem rejectGrows (s : Session) (e : SummaryEntry) : s.Grows (s.reject e) := by
  unfold reject
  split
  · exact ⟨[],by simp⟩
  · rw [cancelTimerEq]
    exact ⟨_,rfl⟩

theorem rejectedGrows (entries : List SummaryEntry) (s : Session) : s.Grows (entries.foldl reject s) := by
  induction entries generalizing s with
  | nil => exact ⟨[],by simp⟩
  | cons e rest ih => exact (rejectGrows s e).trans (ih _)

theorem checkGrows (form : Value) (s : Session) : s.Grows (s.checkGiven form).2 := by
  unfold checkGiven check
  split
  · exact ⟨[],by simp⟩
  · split
    · exact rejectedGrows _ s
    · exact ⟨[],by simp⟩

theorem callGrows {s : Session} (filed : s.Filed) {e : SessionEvent} (call : e.isRequested = true ∨ e = .fire) :
    s.Grows (e.run s).2 := by
  cases showing : e.mayShow with
  | false =>
    refine (SessionEvent.silentMute showing ?_ s).grows
    rintro rfl
    simp [SessionEvent.isRequested,SessionEvent.isCall] at call
  | true =>
    cases e with
    | validate name v event => exact (validateShows filed name v event).grows
    | check form => exact checkGrows form s
    | _ => simp [SessionEvent.mayShow,SessionEvent.isRequested,SessionEvent.isCall] at showing call

theorem withoutOther {s : Session} {v : Value} (other : ∀ n, v ≠ .text n) : s.without v = s.clearOther v := by
  cases v with
  | text name => exact absurd rfl (other name)
  | _ => rfl

theorem removeAllStopped {names : List Value} {s s' : Session} {f} (failed : removeAll names s = (.error f,s')) :
    ∃ vs, stopped names s = some vs ∧ s'.display.events = s.display.events ++ vs.map .cleared := by
  induction names generalizing s with
  | nil => cases failed
  | cons v rest ih =>
    rw [removeAllEq] at failed
    have outcomes := s.struck v
    generalize s.removeNamed v = answer at outcomes failed
    cases outcomes with
    | field name =>
      obtain ⟨vs,stops,clears⟩ := ih failed
      refine ⟨.text name :: vs,by simp [stopped,Value.canName,without,stops],?_⟩
      simp [clears,removeEvents]
    | cleared other unnoticed =>
      obtain ⟨vs,stops,clears⟩ := ih failed
      have passes : (v.canName || !s.keepsFields && s.display.messages.isEmpty) = true := by
        rcases unnoticed with named | ⟨unkept,blank⟩
        · simp [named]
        · simp [unkept,blank]
      refine ⟨v :: vs,?_,?_⟩
      · rw [stopped,if_pos passes,withoutOther other,stops]
        rfl
      · simp [clears,clearOtherEvents]
    | refused unnamed kept =>
      cases failed
      exact ⟨[],by simp [stopped,unnamed,kept],by simp [fail]⟩
    | broken unnamed unkept shown =>
      cases failed
      exact ⟨[v],by simp [stopped,unnamed,unkept,shown],by simp [fail,clearOtherEvents]⟩

theorem failedClears {s s' : Session} {e : SessionEvent} (requested : e.isRequested = true) {f}
    (failed : e.run s = (.error f,s')) : s'.display.events = s.display.events ++ e.cutShort s := by
  have still (kept : s'.display = s.display) (none : e.cutShort s = []) :
      s'.display.events = s.display.events ++ e.cutShort s := by rw [kept,none,List.append_nil]
  cases e with
  | add attributes rules =>
    have kept := addDisplay attributes rules s
    rw [outcomeError failed] at kept
    exact still kept rfl
  | remove names =>
    have run : s.removeGiven names = (.error f,s') := failed
    cases names with
    | text => cases run
    | object fields =>
      have done := removeNames (fields.map (·.1)) s
      rw [List.map_map] at done
      cases done.symm.trans (congrArg Prod.fst run)
    | list names =>
      obtain ⟨vs,stops,clears⟩ := removeAllStopped (show removeAll names s = (.error f,s') from run)
      rw [SessionEvent.cutShort,stops]
      exact clears
    | _ =>
      cases run
      exact still rfl rfl
  | validate =>
    rcases validateFails (outcomeError failed) with ⟨rfl,_⟩ | ⟨_,_,_,_,rfl⟩ <;> exact still rfl rfl
  | check => exact still (congrArg display (checkFailed (outcomeError failed))) rfl
  | clearAhead => exact still (congrArg display (clearAheadFailed (outcomeError failed))) rfl
  | setOptions => exact still (congrArg display (setOptionsFailed failed)) rfl
  | _ => contradiction

theorem fireDisplay (s : Session) : s.fire.display = s.display := by
  cases resets : SessionEvent.fire.resets s with
  | true => exact (SessionEvent.resetsClears resets).display
  | false => exact congrArg display (SessionEvent.fireKept resets)

end Session

namespace Errand

theorem notedDisplay (g : Errand) (s : Session) : (g.noted s).display = s.display := by
  obtain ⟨v,post,_⟩ := notedDressed g s
  rw [post]
  rfl

end Errand

namespace Service
open Session

def rendersOf : Except Refusal Value → Option (List Value)
  | .ok (.object fields) =>
    match Table.get? fields "renders" with
    | some (.list vs) => some vs
    | _ => none
  | _ => none

theorem rendersTacit {v : Value} (tacit : Tacit v) : rendersOf (.ok v) = none := by
  obtain ⟨fields,rfl,none⟩ := tacit
  simp [rendersOf,none]

theorem rendersTold {fields : Value.Fields} (plain : fields.get? "renders" = none) (vs : List Value) :
    rendersOf (.ok (.object (fields ++ [("renders",.list vs)]))) = some vs := by
  have found : Table.get? (fields ++ [("renders",Value.list vs)]) "renders" = some (.list vs) := by
    unfold Table.get? at plain ⊢
    rw [List.lookup_append,plain]
    rfl
  simp [rendersOf,found]

structure Exchange where
  before : Session
  line : String

namespace Exchange

def response (x : Exchange) : Response := (answerLine x.line x.before).2.1

def after (x : Exchange) : Session := (answerLine x.line x.before).2.2

def renders? (x : Exchange) : Option (List Value) := rendersOf x.response.answer

def called (x : Exchange) : Session :=
  match errandOf x.line with
  | none => x.before
  | some e => (e.call.run (e.noted x.before)).2

def own (x : Exchange) : List DisplayEvent := x.called.display.events.drop x.before.display.events.length

def cutShort (x : Exchange) : List DisplayEvent :=
  match errandOf x.line with
  | none => []
  | some e => e.call.cutShort (e.noted x.before)

theorem calledErrand {x : Exchange} {e} (errand : errandOf x.line = some e) :
    x.called = (e.call.run (e.noted x.before)).2 ∧ x.cutShort = e.call.cutShort (e.noted x.before) := by
  unfold called cutShort
  rw [errand]
  exact ⟨rfl,rfl⟩

theorem calledIdle {x : Exchange} (none : errandOf x.line = none) : x.called = x.before ∧ x.cutShort = [] := by
  unfold called cutShort
  rw [none]
  exact ⟨rfl,rfl⟩

theorem ownShown {x : Exchange} (ordered : x.before.Ordered) :
    x.called.display.events = x.before.display.events ++ x.own := by
  have grows : x.before.Grows x.called := by
    cases errand : errandOf x.line with
    | none =>
      rw [(calledIdle errand).1]
      exact ⟨[],by simp⟩
    | some e =>
      obtain ⟨events,post⟩ := callGrows (notedFiled ordered e) (lineCall errand)
      exact ⟨events,by rw [(calledErrand errand).1,post,e.notedDisplay]⟩
  obtain ⟨events,post⟩ := grows
  rw [own,post,List.drop_left]

theorem unshown {x : Exchange} (kept : x.called.display = x.before.display) : x.own = [] := by
  rw [own,kept,List.drop_length]

theorem settled {x : Exchange} (ordered : x.before.Ordered) :
    x.renders? = some (x.called.display.events.map (·.toValue)) ∧ x.after = x.called.drain.2 ∨
    x.renders? = none ∧ x.own = x.cutShort ∧ x.after = x.called := by
  have outcome := lineOutcome x.line x.before
  have shown := ownShown ordered
  change Outcome _ _ _ (x.response.answer,x.after) at outcome
  unfold renders?
  generalize x.response.answer = answer at outcome ⊢
  generalize x.after = s' at outcome ⊢
  cases outcome with
  | idle none tacit =>
    obtain ⟨called,uncut⟩ := calledIdle none
    refine .inr ⟨?_,?_,called.symm⟩
    · cases answer with
      | error r => rfl
      | ok v => exact rendersTacit (tacit v rfl)
    · rw [uncut]
      exact unshown (congrArg Session.display called)
  | @failed e f _ errand failed =>
    obtain ⟨called,cut⟩ := calledErrand errand
    refine .inr ⟨rfl,?_,by rw [called,failed]⟩
    have clears := failedClears (failedRequested errand failed) failed
    rw [called,failed,clears,e.notedDisplay] at shown
    rw [cut]
    exact (List.append_cancel_left shown).symm
  | @done e v _ errand ok tacit call =>
    obtain ⟨called,cut⟩ := calledErrand errand
    have quiet : (e.call.run (e.noted x.before)).2.display = (e.noted x.before).display ∧
        e.call.cutShort (e.noted x.before) = [] := by
      rcases call with ⟨options,set⟩ | fired
      · rw [set]
        exact ⟨setOptionsDisplay options _,rfl⟩
      · rw [fired]
        exact ⟨fireDisplay _,rfl⟩
    have kept : x.called.display = x.before.display := by rw [called,quiet.1,e.notedDisplay]
    exact .inr ⟨rendersTacit tacit,by rw [unshown kept,cut,quiet.2],by rw [called,ok]⟩
  | @told e _ fields errand ok plain =>
    obtain ⟨called,_⟩ := calledErrand errand
    rw [called,ok]
    exact .inl ⟨rendersTold plain _,rfl⟩

end Exchange

/-- The requests that a session has had, the latest first, and where it stands. -/
inductive Talk (opening : Session) : List Exchange → Session → Prop where
  | start : Talk opening [] (opening.setOptions (.object [("debounce",.int 0)])).2
  | next {past s} (before : Talk opening past s) (line : String) :
      Talk opening (⟨s,line⟩ :: past) (answerLine line s).2.2

theorem Talk.served {opening : Session} {past s} (talk : Talk opening past s) : Served opening s := by
  induction talk with
  | start => exact .start
  | next _ line ih => exact .next ih line

/-- What removals cut short have cleared since the last answer that has renders. -/
def withheld : List Exchange → List DisplayEvent
  | [] => []
  | x :: past => if x.renders?.isSome then [] else withheld past ++ x.cutShort

def told (past : List Exchange) : List Value := (past.reverse.filterMap (·.renders?)).flatten

def handled (past : List Exchange) : List DisplayEvent := past.reverse.flatMap (·.own)

theorem toldNext (x : Exchange) (past : List Exchange) : told (x :: past) = told past ++ x.renders?.getD [] := by
  unfold told
  rw [List.reverse_cons,List.filterMap_append,List.flatten_append]
  cases renders : x.renders? <;> simp [renders]

theorem handledNext (x : Exchange) (past : List Exchange) : handled (x :: past) = handled past ++ x.own := by
  unfold handled
  rw [List.reverse_cons,List.flatMap_append,List.flatMap_singleton]

section Talk
variable {opening : Session} {past : List Exchange} {s : Session}

theorem talkTold (opened : opening.Opened) (talk : Talk opening past s) : s.display.events = withheld past ∧
    told past ++ (withheld past).map (·.toValue) = (handled past).map (·.toValue) := by
  induction talk with
  | start =>
    have blank : (opening.setOptions (.object [("debounce",.int 0)])).2.display = .blank :=
      (setOptionsDisplay _ opening).trans opened.display
    exact ⟨by rw [blank]; rfl,rfl⟩
  | @next past s before line ih =>
    obtain ⟨waits,whole⟩ := ih
    have ordered := servedOrdered opened before.served
    have shown := Exchange.ownShown (x := ⟨s,line⟩) ordered
    rw [toldNext,handledNext,List.map_append,← whole]
    -- An answer with renders empties what waits; any other adds to it what it has not told.
    rcases Exchange.settled (x := ⟨s,line⟩) ordered with ⟨renders,taken⟩ | ⟨none,cut,after⟩
    · refine ⟨?_,?_⟩
      · rw [withheld,renders]
        exact congrArg (·.display.events) taken
      · rw [withheld,renders,shown,waits]
        simp
    · refine ⟨?_,?_⟩
      · rw [withheld,none,← cut,← waits,← shown,← after]
        rfl
      · rw [withheld,none,← cut]
        simp

/-- An answer that has renders has those of its own request behind what removals cut short have cleared since the last such
answer, so that it has exactly its own if there are none of these. An answer without renders leaves nothing behind but what
its own request has cleared before it was cut short. All renders together are all that was shown and cleared, in order, up to
what is left to be told. -/
theorem answerRenders (opened : opening.Opened) {x : Exchange} (talk : Talk opening past x.before) :
    (∀ rs, x.renders? = some rs → rs = (withheld past ++ x.own).map (·.toValue) ∧
      (rs = x.own.map (·.toValue) ↔ withheld past = []) ∧ x.after = x.called.drain.2) ∧
    (x.renders? = none → x.own = x.cutShort ∧ x.after = x.called) ∧
    told (x :: past) ++ (withheld (x :: past)).map (·.toValue) = (handled (x :: past)).map (·.toValue) := by
  have ordered := servedOrdered opened talk.served
  refine ⟨fun rs renders => ?_,fun none => ?_,(talkTold opened (talk.next x.line)).2⟩
  · rcases Exchange.settled ordered with ⟨renders',after⟩ | ⟨none,_⟩
    · have whole : rs = (withheld past ++ x.own).map (·.toValue) := by
        rw [← (talkTold opened talk).1,← Exchange.ownShown ordered]
        exact Option.some.inj (renders.symm.trans renders')
      refine ⟨whole,?_,after⟩
      rw [whole,List.map_append,List.append_left_eq_self,List.map_eq_nil_iff]
    · cases none.symm.trans renders
  · rcases Exchange.settled ordered with ⟨renders,_⟩ | ⟨_,settled⟩
    · cases none.symm.trans renders
    · exact settled

end Talk

def keptLine : String := lineOf .addField [("name",.text "w"),("rules",.text "letter")]

def cutLine : String := lineOf .removeField [("names",.list [.text "x",.list [.text "y"]])]

def plainLine : String := lineOf .addField [("name",.text "z"),("rules",.text "letter")]

theorem behindCut : ∃ (past : List Exchange) (x : Exchange) (rs : List Value), Talk (smallPage true) past x.before ∧
    x.renders? = some rs ∧ rs.length = 1 ∧ x.own = [] := by
  have one : (⟨(answerLine cutLine (answerLine keptLine smallServer).2.2).2.2,plainLine⟩ : Exchange).renders?.map (·.length) =
      some 1 := by decide +kernel
  have none : (⟨(answerLine cutLine (answerLine keptLine smallServer).2.2).2.2,plainLine⟩ : Exchange).own.length = 0 := by
    decide +kernel
  have started : Talk (smallPage true) [] smallServer := .start
  generalize smallServer = s at *
  have talk := (started.next keptLine).next cutLine
  generalize (answerLine cutLine (answerLine keptLine s).2.2).2.2 = s' at *
  obtain ⟨rs,told,one⟩ := Option.map_eq_some_iff.mp one
  exact ⟨_,⟨s',plainLine⟩,rs,talk,told,one,List.length_eq_zero_iff.mp none⟩

theorem withheldTold : ∃ (opening : Session) (past : List Exchange) (x : Exchange) (rs : List Value), opening.Opened ∧
    Talk opening past x.before ∧ x.renders? = some rs ∧ rs = (withheld past).map (·.toValue) ∧ rs ≠ [] := by
  obtain ⟨past,x,rs,talk,renders,one,none⟩ := behindCut
  obtain ⟨whole,_⟩ := (answerRenders (smallOpened true) talk).1 rs renders
  refine ⟨_,past,x,rs,smallOpened true,talk,renders,by rw [whole,none,List.append_nil],?_⟩
  exact List.ne_nil_of_length_pos (by omega)

theorem clearedBehindCut : ∃ (opening : Session) (past : List Exchange) (x : Exchange) (rs : List Value), opening.Opened ∧
    Talk opening past x.before ∧ x.renders? = some rs ∧ rs ≠ x.own.map (·.toValue) := by
  obtain ⟨past,x,rs,talk,renders,one,none⟩ := behindCut
  refine ⟨_,past,x,rs,smallOpened true,talk,renders,?_⟩
  rintro rfl
  simp [none] at one

end Service
end FormGuard
