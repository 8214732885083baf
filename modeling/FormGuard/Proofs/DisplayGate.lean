import FormGuard.Proofs.FormCheck
import FormGuard.Proofs.RecordHistory

/-! The messages that reach the page. Each is that of a summary entry, at the moment it is shown, and goes to a field the
user has had to do with; only a value given, a check and a timer show any. What clears a message is left out. -/
namespace FormGuard

def DisplayEvent.isShown : DisplayEvent → Bool
  | shown .. => true
  | cleared _ => false

structure Showing where
  after : Session
  field : String
  message : String
  target : Option String

namespace Showing

def event (g : Showing) : DisplayEvent := .shown g.field g.message g.target

def of? (after : Session) : DisplayEvent → Option Showing
  | .shown field message target => some ⟨after,field,message,target⟩
  | .cleared _ => none

theorem ofEvents (after : Session) (events : List DisplayEvent) :
    (events.filterMap (of? after)).map event = events.filter (·.isShown) := by
  induction events with
  | nil => rfl
  | cons e rest ih => cases e <;> simpa [of?,event,DisplayEvent.isShown,List.filterMap_cons] using ih

theorem ofSilent {after : Session} {events : List DisplayEvent} (silent : ∀ e ∈ events, e.isShown = false) :
    events.filterMap (of? after) = [] := by
  refine List.filterMap_eq_nil_iff.mpr fun e member => ?_
  have none := silent e member
  cases e with
  | shown => contradiction
  | cleared => rfl

/-- The message was put up as the last thing, beside a record that the user has had to do with, and stands in the
summary. -/
def Gated (g : Showing) : Prop :=
  ∃ (m : Session) (r : Record) (entry : SummaryEntry),
    g.after = m.showMessage r g.message ∧ r.name = g.field ∧ r.target = g.target ∧
    m.registry.find? g.field = some r ∧ r.isHandled = true ∧
    m.summary.get? g.field = some entry ∧ entry.message = g.message ∧ g.message ≠ ""

end Showing

namespace Session

def shows (s : Session) : List DisplayEvent := s.display.events.filter (·.isShown)

def shownBetween (s s' : Session) : List Showing :=
  (s'.display.events.drop s.display.events.length).filterMap (Showing.of? s')

def rejections : List SummaryEntry → Session → List Showing
  | [],_ => []
  | e :: rest,s => shownBetween s (s.reject e) ++ rejections rest (s.reject e)

def showings : SessionEvent → Session → List Showing
  | .check form,s =>
    match formOf "check_form_validity" form with
    | .error _ => []
    | .ok form => if s.summary.isAttached form then rejections (s.summary.ofForm form) s else []
  | .advance ms,s => (s.ringings (s.scheduler.now + ms)).flatMap fun g => shownBetween g.before g.after
  | e,s => shownBetween s (e.run s).2

def Grows (s s' : Session) : Prop := ∃ events, s'.display.events = s.display.events ++ events

theorem shownExactly {s s' : Session} (grows : s.Grows s') :
    s'.shows = s.shows ++ (shownBetween s s').map Showing.event := by
  obtain ⟨events,post⟩ := grows
  unfold shows shownBetween
  rw [Showing.ofEvents,post,List.drop_left,List.filter_append]

def Mute (s s' : Session) : Prop :=
  ∃ events, s'.display.events = s.display.events ++ events ∧ ∀ e ∈ events, e.isShown = false

namespace Mute
variable {s m s' : Session}

theorem same (display : s'.display = s.display) : s.Mute s' := ⟨[],by simp [display]⟩

theorem trans (first : s.Mute m) (second : m.Mute s') : s.Mute s' := by
  obtain ⟨early,before,silent⟩ := first
  obtain ⟨late,after,silent'⟩ := second
  refine ⟨early ++ late,by rw [after,before,List.append_assoc],fun e member => ?_⟩
  rcases List.mem_append.mp member with inside | inside
  · exact silent e inside
  · exact silent' e inside

theorem grows (mute : s.Mute s') : s.Grows s' := ⟨mute.choose,mute.choose_spec.1⟩

theorem cleared (v : Value) (display : s'.display.events = s.display.events ++ [.cleared v]) : s.Mute s' :=
  ⟨_,display,by simp [DisplayEvent.isShown]⟩

theorem unshown (mute : s.Mute s') : shownBetween s s' = [] := by
  obtain ⟨events,post,silent⟩ := mute
  unfold shownBetween
  rw [post,List.drop_left,Showing.ofSilent silent]

end Mute

inductive Speaks (s s' : Session) : Prop where
  | mute (mute : s.Mute s')
  | tells {m r entry message} (post : s' = m.showMessage r message) (mute : s.Mute m)
      (registered : m.registry.find? r.name = some r) (handled : r.isHandled = true)
      (entered : m.summary.get? r.name = some entry) (same : entry.message = message) (filled : message ≠ "")

namespace Speaks
variable {s s' : Session}

theorem grows (speaks : s.Speaks s') : s.Grows s' := by
  cases speaks with
  | mute mute => exact mute.grows
  | tells post mute =>
    obtain ⟨events,before,_⟩ := mute
    subst post
    exact ⟨events ++ _,by rw [← List.append_assoc,← before]; rfl⟩

theorem gated (speaks : s.Speaks s') : ∀ g ∈ shownBetween s s', g.Gated := by
  cases speaks with
  | mute mute => simp [mute.unshown]
  | @tells m r entry message post mute registered handled entered same filled =>
    obtain ⟨events,before,silent⟩ := mute
    have whole : s'.display.events = s.display.events ++ (events ++ [.shown r.name message r.target]) := by
      rw [post,← List.append_assoc,← before]
      rfl
    have one : shownBetween s s' = [⟨s',r.name,message,r.target⟩] := by
      unfold shownBetween
      rw [whole,List.drop_left,List.filterMap_append,Showing.ofSilent silent]
      rfl
    rw [one]
    intro g member
    cases List.mem_singleton.mp member
    exact ⟨m,r,entry,post,rfl,rfl,registered,handled,entered,same,filled⟩

end Speaks

/-! The steps that show a message: a verdict presented, and an entry turned down. -/

theorem presentSpeaks {s m q : Session} {r : Record} {o : FieldOutcome} {v p} (mute : s.Mute m)
    (answered : q.judge r v = .ok o) (pipeline : r.pipeline = some p) (keyed : p.Keyed)
    (entered : m.summary.entries =
      (s.summary.upsert ⟨r.name,(r.withVerdict o).message,r.friendlyName,r.form⟩).entries) :
    s.Speaks (m.present (r.withVerdict o) o) := by
  unfold present
  dsimp only
  split
  · rename_i shown
    simp only [Bool.and_eq_true,Bool.not_eq_true'] at shown
    obtain ⟨wrong,handled⟩ := shown
    have message : (r.withVerdict o).message = o.message := by simp [Record.withVerdict,wrong]
    have filled : (r.withVerdict o).message ≠ "" := fun none => by
      have right := (judgedMessage answered pipeline keyed).mpr none
      simp [wrong] at right
    have entry : m.summary.get? r.name = some ⟨r.name,(r.withVerdict o).message,r.friendlyName,r.form⟩ := by
      unfold Summary.get?
      rw [entered]
      exact Summary.getUpsert.trans (by rw [if_pos rfl,if_neg filled])
    exact .tells rfl (mute.trans (.same rfl)) Registry.findUpserted handled entry message (message ▸ filled)
  · exact .mute (mute.trans (.cleared _ rfl))

theorem validateSpeaks {s : Session} (filed : s.Filed) (name : String) (v : Value) (event : InputEvent) :
    s.Speaks (s.validate name v event).2 := by
  have outcomes := noted s name v event
  generalize s.validate name v event = answer at outcomes
  cases outcomes with
  | absent => exact .mute (.same rfl)
  | broken => exact .mute (.same rfl)
  | excused =>
    rw [noteEq]
    exact .mute (.cleared _ rfl)
  | postponed =>
    rw [noteEq]
    exact .mute (.cleared _ rfl)
  | shown found answered =>
    obtain ⟨p,pipeline,keyed⟩ := filed.pipelineKeyed (filed.proper found)
    refine presentSpeaks (.same ?_) answered ((markPipeline _ event).trans pipeline) keyed ?_
    · rw [noteEq]
    · rw [noteEq]

theorem expireSpeaks {s : Session} (filed : s.Filed) (a : Alarm) : s.Speaks (s.expire a).2 := by
  have outcomes := rung s a
  generalize s.expire a = answer at outcomes
  cases outcomes with
  | stale => exact .mute (.same rfl)
  | broken => exact .mute (.same rfl)
  | heard found _ _ answered =>
    obtain ⟨p,pipeline,keyed⟩ := filed.pipelineKeyed (filed.proper found)
    exact presentSpeaks (.same rfl) answered pipeline keyed rfl

theorem rejectSpeaks {s : Session} (ordered : s.Ordered) (agrees : s.Agrees) {e : SummaryEntry}
    (entered : e ∈ s.summary.all) : s.Speaks (s.reject e) := by
  have entry := (Summary.memAll ordered.summary).mp entered
  have said := agrees.entry e.field
  rw [entry] at said
  obtain ⟨r,found,bears⟩ := Option.bind_eq_some_iff.mp said.symm
  have named := (ordered.proper found).named
  have message : e.message ≠ "" := by
    unfold Record.entry? at bears
    split at bears
    · contradiction
    · rename_i wrong
      cases bears
      exact fun none => wrong ((agrees.message found).mpr none)
  unfold reject
  rw [found]
  refine .tells rfl (.same ?_) Registry.findUpserted (by simp [Record.isHandled]) ?_ rfl message
  · rw [cancelTimerEq]
    rfl
  · rw [cancelTimerEq]
    dsimp only
    rw [named]
    exact entry

/-! Whole loops. -/

theorem rejectedShows {entries : List SummaryEntry} {s : Session} (ordered : s.Ordered) (agrees : s.Agrees)
    (entered : ∀ e ∈ entries, e ∈ s.summary.all) :
    (entries.foldl reject s).shows = s.shows ++ (rejections entries s).map Showing.event ∧
      ∀ g ∈ rejections entries s, g.Gated := by
  induction entries generalizing s with
  | nil => simp [rejections]
  | cons e rest ih =>
    have first := entered e (by simp)
    have speaks := rejectSpeaks ordered agrees first
    obtain ⟨shows,gated⟩ := ih (ordered.rejected e) (agrees.move ordered (.reject e first)) fun k member => by
      rw [rejectSummary]
      exact entered k (List.mem_cons_of_mem _ member)
    refine ⟨?_,fun g member => ?_⟩
    · rw [List.foldl_cons,shows,shownExactly speaks.grows,rejections,List.map_append,List.append_assoc]
    · rcases List.mem_append.mp member with own | later
      · exact speaks.gated g own
      · exact gated g later

theorem firedShows {target : Int} {count n : Nat} {s s' : Session} (ok : fireUntil target count s = (.ok n,s'))
    (grows : ∀ g ∈ s.ringings target, g.before.Grows g.after) :
    s'.shows = s.shows ++
      ((s.ringings target).flatMap fun g => shownBetween g.before g.after).map Showing.event := by
  fun_induction fireUntil target count s with
  | case1 count s idle =>
    cases ok
    rw [ringingsIdle idle]
    exact (List.append_nil _).symm
  | case2 count s t scheduler drawn due dead ih =>
    rw [ringingsLapse drawn dead] at grows ⊢
    exact ih ok grows
  | case3 count s t scheduler drawn due live f broke => cases ok
  | case4 count s t scheduler drawn due live done ih =>
    rw [ringingsRing drawn (by simpa using live) done] at grows ⊢
    have first := shownExactly (grows ⟨due,t⟩ (by simp [due]))
    rw [ih ok fun g member => grows g (List.mem_cons_of_mem _ member),List.flatMap_cons,List.map_append,
      ← List.append_assoc]
    exact congrArg (· ++ _) first

theorem ringingSpeaks {target : Int} {s : Session} (ordered : s.Ordered) {g} (member : g ∈ s.ringings target) :
    g.before.Speaks g.after := by
  obtain ⟨⟨m,scheduler,ticks,_,before⟩,_⟩ := ringingsGoOff member
  have filed : g.before.Filed := by
    rw [before]
    exact (ordered.moves ticks.moves).toFiled.untouched rfl rfl rfl rfl
  exact expireSpeaks filed g.timer.payload

/-! What shows nothing. -/

theorem judgeSilentlyDisplay (s : Session) (r : Record) : (s.judgeSilently r).2.display = s.display := by
  rw [judgeSilentlyEq]
  split <;> rfl

theorem Read.display {s s' : Session} (read : s.Read s') : s'.display = s.display := by
  rcases read with rfl | ⟨_,rfl⟩ <;> rfl

theorem addDisplay (attributes rules : Value) (s : Session) : (s.addGiven attributes rules).2.display = s.display := by
  rw [addGivenEq]
  cases attributesGiven attributes rules with
  | error f => rfl
  | ok fields =>
    dsimp only
    rw [addEq]
    rcases entry : s.enlist fields with ⟨f | r,s₁⟩
    · exact (enlistFails entry).display
    · refine (judgeSilentlyDisplay s₁ r).trans ?_
      obtain ⟨_,_,_,_,_,rfl⟩ := enlisted entry
      rfl

theorem rebindDisplay (name rules : Value) (s : Session) : (s.rebindGiven name rules).2.display = s.display := by
  cases given : rulesOf rules with
  | error f =>
    rw [rebindGiven,given]
    rfl
  | ok spelled =>
    by_cases text : ∃ n, name = .text n
    · obtain ⟨n,rfl⟩ := text
      rw [rebindGiven,given]
      dsimp only
      rw [rebindEq]
      rcases entry : s.retune n spelled with ⟨f | r,s₁⟩
      · exact (retuneFails entry).display
      · refine (judgeSilentlyDisplay s₁ r).trans ?_
        obtain ⟨_,_,_,_,_,rfl⟩ := retuned entry
        rfl
    · rw [rebindOther text given]
      rfl

theorem removeMute (s : Session) (name : String) : s.Mute (s.remove name) := by
  rw [removeEq]
  exact .cleared _ rfl

theorem removeGivenMute (names : Value) (s : Session) : s.Mute (s.removeGiven names).2 :=
  removeGivenKeeps (fun t name mute => mute.trans (removeMute t name)) (fun _ v mute => mute.trans (.cleared v rfl)) names
    (.same rfl)

theorem discardMute (names : List String) (s : Session) : s.Mute (names.foldl remove s) := by
  induction names generalizing s with
  | nil => exact .same rfl
  | cons name rest ih => exact (removeMute s name).trans (ih _)

theorem clearAheadMute (form : Value) (s : Session) : s.Mute (s.clearAheadGiven form).2 := by
  unfold clearAheadGiven clearAhead
  split
  · exact .same rfl
  · split
    · exact discardMute _ s
    · exact .same rfl

theorem clearPendingDisplay (s : Session) : s.clearPending.2.display = s.display := by
  obtain ⟨_,_,_,cleared⟩ := abandonsEq s.timers.names s
  unfold clearPending
  rw [cleared]

theorem setOptionsDisplay (options : Value) (s : Session) : (s.setOptions options).2.display = s.display := by
  unfold setOptions
  split
  · rfl
  · split <;> rfl

theorem discoverDisplay (rules : Value) (s : Session) : (s.discoverGiven rules).2.display = s.display := by
  unfold discoverGiven
  split <;> rfl

theorem setValueDisplay (name v : Value) (s : Session) :
    (s.changed (s.setValueGiven name v)).2.display = s.display := by
  unfold setValueGiven
  split
  · rfl
  · split <;> rfl

theorem setDisabledDisplay (name : Value) (disabled : Bool) (s : Session) :
    (s.changed (s.setDisabledGiven name disabled)).2.display = s.display := by
  unfold setDisabledGiven
  split
  · rfl
  · split <;> rfl

end Session

namespace SessionEvent
open Session

def mayShow : SessionEvent → Bool
  | validate .. => true
  | check _ => true
  | advance _ => true
  | late _ => true
  | _ => false

theorem silentMute {e : SessionEvent} (silent : e.mayShow = false) (kept : e ≠ drain) (s : Session) :
    s.Mute (e.run s).2 := by
  cases resets : e.resets s with
  | true => exact .same (resetsClears resets).display
  | false =>
    cases e with
    | add attributes rules => exact .same (addDisplay attributes rules s)
    | rebind name rules => exact .same (rebindDisplay name rules s)
    | remove names => exact removeGivenMute names s
    | clearAhead form => exact clearAheadMute form s
    | setOptions options => exact .same (setOptionsDisplay options s)
    | discover rules => exact .same (discoverDisplay rules s)
    | clearPending => exact .same (clearPendingDisplay s)
    | reset => contradiction
    | transition => exact .same (congrArg Session.display (transitionKept resets))
    | fire => exact .same (congrArg Session.display (fireKept resets))
    | close => exact .same (clearPendingDisplay s)
    | keepOnTransition | lastMessageOnly => exact .same rfl
    | setValue name v => exact .same (setValueDisplay name v s)
    | setDisabled name disabled => exact .same (setDisabledDisplay name disabled s)
    | drain => contradiction
    | validate | check | advance | late => contradiction

end SessionEvent

/-- Of an event, the messages shown: they are all that is added to those not yet taken, each is gated, and none is shown
but at a value given, at a check and in time. -/
structure Moment.ShowsGated (m : Moment) : Prop where
  exact : m.event ≠ .drain →
    (m.event.run m.before).2.shows = m.before.shows ++ (Session.showings m.event m.before).map Showing.event
  gated : ∀ g ∈ Session.showings m.event m.before, g.Gated
  silent : m.event.mayShow = false → Session.showings m.event m.before = []

namespace Session

theorem validateShows {s : Session} (filed : s.Filed) (name v event : Value) :
    s.Speaks (s.validateGiven name v event).2 := by
  unfold validateGiven
  split
  · exact validateSpeaks filed _ v (eventOf event)
  · split <;> exact .mute (.same rfl)

theorem spokenShows {s : Session} {e : SessionEvent} (speaks : s.Speaks (e.run s).2)
    (own : showings e s = shownBetween s (e.run s).2) (showing : e.mayShow = true) : Moment.ShowsGated ⟨s,e⟩ where
  exact _ := by
    rw [own]
    exact shownExactly speaks.grows
  gated := by
    rw [own]
    exact speaks.gated
  silent quiet := by
    have shut : e.mayShow = false := quiet
    simp [showing] at shut

theorem checkShows {s : Session} (ordered : s.Ordered) (agrees : s.Agrees) (form : Value) :
    Moment.ShowsGated ⟨s,.check form⟩ := by
  have refused (same : (s.checkGiven form).2 = s) (none : showings (.check form) s = []) :
      Moment.ShowsGated ⟨s,.check form⟩ := by
    refine ⟨fun _ => ?_,fun g member => ?_,nofun⟩
    · rw [none]
      exact (congrArg shows same).trans (List.append_nil _).symm
    · rw [none] at member
      contradiction
  cases given : formOf "check_form_validity" form with
  | error f => exact refused (by rw [checkGiven,given]) (by rw [showings,given])
  | ok asked =>
    cases attached : s.summary.isAttached asked with
    | false =>
      exact refused (by simp [checkGiven,given,check,attached]) (by simp [showings,given,attached])
    | true =>
      have post : (s.checkGiven form).2 = (s.summary.ofForm asked).foldl reject s := by
        simp [checkGiven,given,check,attached]
      have own : showings (.check form) s = rejections (s.summary.ofForm asked) s := by
        simp [showings,given,attached]
      obtain ⟨shows,gated⟩ := rejectedShows ordered agrees fun e member => (Summary.memForm.mp member).1
      refine ⟨fun _ => ?_,?_,nofun⟩
      · rw [own,← shows]
        exact congrArg Session.shows post
      · rw [own]
        exact gated

theorem advanceShows {s : Session} (ordered : s.Ordered) {ms : Int}
    (smooth : ¬ (SessionEvent.advance ms).BreaksDown s) : Moment.ShowsGated ⟨s,.advance ms⟩ := by
  have speaks {g : Ringing} (member : g ∈ s.ringings (s.scheduler.now + ms)) := ringingSpeaks ordered member
  rcases ok : s.advance ms with ⟨f | n,s'⟩
  · exact absurd (.inl ⟨ms,f,rfl,congrArg Prod.fst ok⟩) smooth
  · have post : ((SessionEvent.advance ms).run s).2 = s' := congrArg Prod.snd ok
    refine ⟨fun _ => ?_,fun g member => ?_,nofun⟩
    · exact (congrArg shows post).trans (firedShows ok fun g member => (speaks member).grows)
    · obtain ⟨ringing,rang,member⟩ := List.mem_flatMap.mp member
      exact (speaks rang).gated g member

theorem silentShows {e : SessionEvent} (silent : e.mayShow = false) (s : Session) : Moment.ShowsGated ⟨s,e⟩ := by
  have own : showings e s = shownBetween s (e.run s).2 := by
    cases e <;> first | rfl | contradiction
  by_cases taken : e = .drain
  · subst taken
    have none : showings .drain s = [] := by
      rw [own]
      simp [shownBetween,SessionEvent.run,drain,Display.drain]
    exact ⟨fun kept => absurd rfl kept,by simp [none],fun _ => none⟩
  · have mute := SessionEvent.silentMute silent taken s
    have none : showings e s = [] := own.trans mute.unshown
    refine ⟨fun _ => ?_,by simp [none],fun _ => none⟩
    rw [own]
    exact shownExactly mute.grows

theorem momentShows {m : Moment} (ordered : m.before.Ordered) (agrees : m.before.Agrees)
    (smooth : ¬ m.event.BreaksDown m.before) : m.ShowsGated := by
  obtain ⟨s,e⟩ := m
  cases showing : e.mayShow with
  | false => exact silentShows showing s
  | true =>
    cases e with
    | validate name v event =>
      exact @spokenShows s (.validate name v event) (validateShows ordered.toFiled name v event) rfl rfl
    | check form => exact checkShows ordered agrees form
    | advance ms => exact advanceShows ordered smooth
    | late a => exact @spokenShows s (.late a) (expireSpeaks ordered.toFiled a) rfl rfl
    | _ => contradiction

theorem displayGate {opening : Session} {past s} (opened : opening.Opened) (run : opening.Run past s)
    (smooth : Smooth past) : ∀ m ∈ past, m.ShowsGated := by
  induction run with
  | start => simp
  | next before e possible ih =>
    intro m member
    rcases List.mem_cons.mp member with rfl | earlier
    · exact momentShows (runOrdered opened before) (runAgrees opened before smooth.tail) smooth.head
    · exact ih smooth.tail m earlier

def shownPast : List SessionEvent := [.check .null,.advance 1000,retyped,smallEntry]

theorem shownInTime : Smooth ((smallPage true).live shownPast).1 ∧
    (∀ m ∈ ((smallPage true).live shownPast).1, m.ShowsGated) ∧
    ((smallPage true).live shownPast).2.shows.map DisplayEvent.logLine =
      [(.info,"Field x invalid: NO_A"),(.info,"Field x invalid: NO_A")] := by
  have smooth : Smooth ((smallPage true).live shownPast).1 := by decide +kernel
  have run : (smallPage true).Run _ ((smallPage true).live shownPast).2 :=
    liveRun (.inr (by simp [shownPast,retyped,smallEntry]))
  exact ⟨smooth,displayGate (smallOpened true) run smooth,by decide +kernel⟩

end Session
end FormGuard
