import FormGuard.Proofs.QuietSteps

/-! What an event does to a session, taken apart into moves that each concern one field, one timer or the whole page.
An invariant is proved of the moves; the loops over timers, entries and names are gone through here, once. -/
namespace FormGuard
namespace Session

structure Beside (s s' : Session) : Prop where
  registry : s'.registry = s.registry
  entries : s'.summary.entries = s.summary.entries
  timers : s'.timers = s.timers
  queue : s'.scheduler.queue = s.scheduler.queue
  armed : s'.scheduler.armed = s.scheduler.armed
  epoch : s'.epoch = s.epoch
  made : s'.made = s.made
  obeysCancel : s'.obeysCancel = s.obeysCancel
  book : s.catalog.Remembers → s.catalog.SameBook s'.catalog ∧ s'.catalog.Remembers

inductive Move (s : Session) : Session → Prop where
  | beside {s'} (same : s.Beside s') : Move s s'
  | enrol {attributes r s₁ o} (enlisted : s.enlist attributes = (.ok r,s₁))
      (answered : s₁.judge r (s₁.source.value r.name) = .ok o) : Move s (s₁.accept r o)
  | excuse {name r v event o} (found : s.registry.find? name = some r)
      (answered : (s.store (mark r event)).judge (mark r event) v = .ok o)
      (optional : r.isRequired = false) (empty : isEmpty v = true) :
      Move s (((s.note name (mark r event) o).clearMessage name).store
        { (mark r event).withVerdict o with state := .valid })
  | show {name r v event o} (found : s.registry.find? name = some r)
      (answered : (s.store (mark r event)).judge (mark r event) v = .ok o) :
      Move s ((s.note name (mark r event) o).present ((mark r event).withVerdict o) o)
  | postpone {name r v event o} (found : s.registry.find? name = some r)
      (answered : (s.store (mark r event)).judge (mark r event) v = .ok o) :
      Move s ((((s.note name (mark r event) o).clearMessage name).store
        { (mark r event).withVerdict o with state := .pending }).arm
          { (mark r event).withVerdict o with state := .pending } v)
  | discard (name : String) : Move s (s.remove name)
  | reject (e : SummaryEntry) (entered : e ∈ s.summary.all) : Move s (s.reject e)
  | abandon (name : String) : Move s (s.abandon name)
  | forget (idle : s.timers = []) :
      Move s { s with epoch := s.epoch + 1, registry := [], summary := .empty }
  | lapse {target t scheduler} (drawn : s.scheduler.next? target = some (t,scheduler))
      (dead : t.isCancelled = true) : Move s { s with scheduler := scheduler }
  | ring {target t scheduler s'} (drawn : s.scheduler.next? target = some (t,scheduler))
      (live : t.isCancelled = false)
      (rang : { s with scheduler := scheduler }.expire t.payload = (.ok (),s')) : Move s s'
  | late {a s'} (free : s.obeysCancel = false) (rang : s.expire a = (.ok (),s')) : Move s s'

inductive Breakdown (s : Session) : Session → Prop where
  | enrol {attributes r s'} (enlisted : s.enlist attributes = (.ok r,s')) : Breakdown s s'
  | retune {name rules r s'} (retuned : s.retune name rules = (.ok r,s')) : Breakdown s s'
  | note {name r event} (found : s.registry.find? name = some r) : Breakdown s (s.store (mark r event))
  | ring {target t scheduler f s'} (drawn : s.scheduler.next? target = some (t,scheduler))
      (live : t.isCancelled = false)
      (broke : { s with scheduler := scheduler }.expire t.payload = (.error f,s')) : Breakdown s s'
  | late {a f s'} (free : s.obeysCancel = false) (broke : s.expire a = (.error f,s')) : Breakdown s s'

def Moves : Session → Session → Prop := Relation.ReflTransGen Move

theorem Aside.beside {s s' : Session} (same : s.Aside s') : s.Beside s' where
  registry := same.registry
  entries := by rw [same.summary]
  timers := same.timers
  queue := by rw [same.scheduler]
  armed := by rw [same.scheduler]
  epoch := same.epoch
  made := same.made
  obeysCancel := same.obeysCancel
  book := same.book

theorem Beside.clock (s : Session) (now : Int) : s.Beside { s with scheduler := { s.scheduler with now := now } } :=
  ⟨rfl,rfl,rfl,rfl,rfl,rfl,rfl,rfl,fun h => ⟨.refl _,h⟩⟩

theorem QuietStep.move {s s' : Session} (step : s.QuietStep s') : s.Move s' := by
  cases step with
  | aside same => exact .beside same.beside
  | discard name => exact .discard name
  | reject e entered => exact .reject e entered
  | abandon name => exact .abandon name

theorem Quiet.moves {s s' : Session} (quiet : s.Quiet s') : s.Moves s' := by
  induction quiet with
  | refl => exact .refl
  | tail _ step ih => exact ih.tail step.move

theorem clearPendingMoves (s : Session) : Moves s s.clearPending.2 := (clearPendingQuiet s).moves

theorem resetMoves (s : Session) : Moves s s.reset :=
  (clearPendingMoves s).tail (.forget (clearPendingTimers s))

theorem Clears.moves {s s' : Session} (clears : s.Clears s') : s.Moves s' := by
  induction clears with
  | once => exact resetMoves s
  | again _ ih => exact ih.trans (resetMoves _)

inductive Leads (s s' : Session) (broke : Prop) : Prop where
  | moves (moves : Moves s s')
  | breakdown {m} (failed : broke) (moves : Moves s m) (breakdown : Breakdown m s')

theorem Leads.after {s m s' broke} (before : Moves s m) (rest : Leads m s' broke) : Leads s s' broke := by
  cases rest with
  | moves moves => exact .moves (before.trans moves)
  | breakdown failed moves breakdown => exact .breakdown failed (before.trans moves) breakdown

theorem fireUntilLeads (target : Int) (count : Nat) (s : Session) :
    Leads s (fireUntil target count s).2 (∃ f, (fireUntil target count s).1 = .error f) := by
  fun_induction fireUntil target count s with
  | case1 count s none => exact .moves (.single (.beside (.clock s target)))
  | case2 count s t scheduler drawn after dead ih => exact .after (.single (.lapse drawn dead)) ih
  | case3 count s t scheduler drawn after live f broke =>
    have rang : after.expire t.payload = (.error f,(after.expire t.payload).2) := Prod.ext broke rfl
    exact .breakdown ⟨f,rfl⟩ .refl (.ring drawn (by simpa using live) rang)
  | case4 count s t scheduler drawn after live done ih =>
    have rang : after.expire t.payload = (.ok (),(after.expire t.payload).2) := Prod.ext done rfl
    exact .after (.single (.ring drawn (by simpa using live) rang)) ih

theorem advanceLeads (ms : Int) (s : Session) :
    Leads s (s.advance ms).2 ((SessionEvent.advance ms).BreaksDown s) := by
  have leads : Leads s (s.advance ms).2 (∃ f, (s.advance ms).1 = .error f) := fireUntilLeads _ 0 s
  cases leads with
  | moves moves => exact .moves moves
  | breakdown failed moves broke =>
    obtain ⟨f,failed⟩ := failed
    exact .breakdown (.inl ⟨ms,f,rfl,failed⟩) moves broke

/-- What an event comes to, told by what it asks of the rules: nothing; the page forgotten; a verdict on a field that is
registered, given other rules or given a value; time; an alarm out of its time; a breakdown. -/
inductive Course (e : SessionEvent) (s : Session) : Session → Prop where
  | silent {s'} (unasked : e.question? s = none) (timeless : ∀ ms, e ≠ .advance ms) (kept : e.resets s = false)
      (quiet : s.Quiet s') : Course e s s'
  | resets {s'} (resets : e.resets s = true) (clears : s.Clears s') : Course e s s'
  | enrols {attributes rules fields r s₁ o} (adding : e = .add attributes rules)
      (given : attributesGiven attributes rules = .ok fields) (entry : s.enlist fields = (.ok r,s₁))
      (answered : s₁.judge r (s₁.source.value r.name) = .ok o) : Course e s (s₁.accept r o)
  | retunes {name given rules r s₁ o} (rebinding : e = .rebind (.text name) given)
      (spelled : rulesOf given = .ok rules) (entry : s.retune name rules = (.ok r,s₁))
      (answered : s₁.judge r (s₁.source.value r.name) = .ok o) : Course e s (s₁.accept r o)
  | enters {name v given state s'} (entering : e = .validate (.text name) v given)
      (ok : s.validate name v (eventOf given) = (.ok state,s')) : Course e s s'
  | elapses {ms n s'} (passing : e = .advance ms) (ok : s.advance ms = (.ok n,s')) : Course e s s'
  | late {a s'} (sounding : e = .late a) (free : s.obeysCancel = false) (ok : s.expire a = (.ok (),s')) :
      Course e s s'
  | breaks {s'} (broke : e.BreaksDown s) (leads : Leads s s' (e.BreaksDown s)) : Course e s s'

theorem addCourse (attributes rules : Value) (s : Session) :
    Course (.add attributes rules) s ((SessionEvent.add attributes rules).run s).2 := by
  have post : ((SessionEvent.add attributes rules).run s).2 = (s.addGiven attributes rules).2 := rfl
  rw [post,addGivenEq]
  cases given : attributesGiven attributes rules with
  | error f => exact .silent (SessionEvent.addUnread given) nofun rfl .refl
  | ok fields =>
    dsimp only
    rw [addEq]
    have asked := SessionEvent.addQuestion (s := s) given
    rcases entry : s.enlist fields with ⟨f | r,s₁⟩
    · rw [entry] at asked
      exact .silent asked nofun rfl (.aside (enlistFails entry).aside)
    · rw [entry] at asked
      dsimp only
      rw [judgeSilentlyEq]
      cases answered : s₁.judge r (s₁.source.value r.name) with
      | ok o => exact .enrols rfl given entry answered
      | error f =>
        have broke : (SessionEvent.add attributes rules).BreaksDown s := .inr ⟨_,f,asked,answered⟩
        exact .breaks broke (.breakdown broke .refl (.enrol entry))

theorem rebindOther {s : Session} {name rules : Value} {spelled} (text : ¬ ∃ n, name = .text n)
    (given : rulesOf rules = .ok spelled) : (s.rebindGiven name rules).2 = (s.parse spelled).2 := by
  unfold rebindGiven
  rw [given]
  cases name <;> first | exact absurd ⟨_,rfl⟩ text | skip
  all_goals
    dsimp only
    rcases s.parse spelled with ⟨_ | _,s₁⟩
    · rfl
    · dsimp only
      split <;> rfl

theorem validateOther (s : Session) {name : Value} (v event : Value) (text : ¬ ∃ n, name = .text n) :
    ∃ f, s.validateGiven name v event = (.error f,s) := by
  unfold validateGiven fail
  cases name <;> first | exact absurd ⟨_,rfl⟩ text | (dsimp only; split <;> exact ⟨_,rfl⟩)

theorem rebindCourse (name rules : Value) (s : Session) :
    Course (.rebind name rules) s ((SessionEvent.rebind name rules).run s).2 := by
  have post : ((SessionEvent.rebind name rules).run s).2 = (s.rebindGiven name rules).2 := rfl
  by_cases text : ∃ n, name = .text n
  · obtain ⟨n,rfl⟩ := text
    cases given : rulesOf rules with
    | error f =>
      rw [post,rebindGiven,given]
      exact .silent (SessionEvent.rebindUnread given) nofun rfl .refl
    | ok spelled =>
      have run : ((SessionEvent.rebind (.text n) rules).run s).2 = (s.rebind n spelled).2 := by
        rw [post,rebindGiven,given]
      rw [run,rebindEq]
      have asked := @SessionEvent.rebindQuestion s n _ _ given
      rcases entry : s.retune n spelled with ⟨f | r,s₁⟩
      · rw [entry] at asked
        exact .silent asked nofun rfl (.aside (retuneFails entry).aside)
      · rw [entry] at asked
        dsimp only
        rw [judgeSilentlyEq]
        cases answered : s₁.judge r (s₁.source.value r.name) with
        | ok o => exact .retunes rfl given entry answered
        | error f =>
          have broke : (SessionEvent.rebind (.text n) rules).BreaksDown s := .inr ⟨_,f,asked,answered⟩
          exact .breaks broke (.breakdown broke .refl (.retune entry))
  · have unasked : (SessionEvent.rebind name rules).question? s = none := by
      cases name <;> first | exact absurd ⟨_,rfl⟩ text | rfl
    refine .silent unasked nofun rfl ?_
    rw [post]
    cases given : rulesOf rules with
    | error f =>
      rw [rebindGiven,given]
      exact .refl
    | ok spelled =>
      rw [rebindOther text given]
      exact .aside (parseAside s spelled)

theorem judgedSilently {s s' : Session} {r r'} (ok : s.judgeSilently r = (.ok r',s')) :
    ∃ o, s.judge r (s.source.value r.name) = .ok o ∧ r' = r.withVerdict o ∧ s' = s.accept r o := by
  unfold judgeSilently at ok
  split at ok
  · cases ok
  · rename_i o answered
    cases ok
    exact ⟨o,answered,rfl,rfl⟩

theorem added {s s' : Session} {attributes rules r'} (ok : s.addGiven attributes rules = (.ok r',s')) :
    ∃ fields r s₁ o, attributesGiven attributes rules = .ok fields ∧ s.enlist fields = (.ok r,s₁) ∧
      s₁.judge r (s₁.source.value r.name) = .ok o ∧ r' = r.withVerdict o ∧ s' = s₁.accept r o := by
  rw [addGivenEq] at ok
  cases given : attributesGiven attributes rules with
  | error f =>
    rw [given] at ok
    cases ok
  | ok fields =>
    rw [given] at ok
    dsimp only at ok
    rw [addEq] at ok
    rcases entry : s.enlist fields with ⟨f | r,s₁⟩
    · rw [entry] at ok
      cases ok
    · rw [entry] at ok
      obtain ⟨o,answered,verdict,post⟩ := judgedSilently ok
      exact ⟨fields,r,s₁,o,rfl,entry,answered,verdict,post⟩

theorem addAsks {s : Session} {attributes rules r} (ok : (s.addGiven attributes rules).1 = .ok r) :
    (SessionEvent.add attributes rules).question? s ≠ none := by
  obtain ⟨_,_,_,_,given,entry,_⟩ := added (Prod.ext ok rfl)
  rw [SessionEvent.addQuestion given,entry]
  exact Option.some_ne_none _

theorem addAnswered {s s₁ : Session} {attributes rules fields r o}
    (given : attributesGiven attributes rules = .ok fields) (entry : s.enlist fields = (.ok r,s₁))
    (answered : s₁.judge r (s₁.source.value r.name) = .ok o) :
    s.addGiven attributes rules = (.ok (r.withVerdict o),s₁.accept r o) := by
  rw [addGivenEq,given]
  dsimp only
  rw [addEq,entry]
  dsimp only
  unfold judgeSilently
  rw [answered]

theorem rebindAsked {s : Session} {name given q}
    (asked : (SessionEvent.rebind (.text name) given).question? s = some q) :
    ∃ rules, rulesOf given = .ok rules ∧ s.retune name rules = (.ok q.record,q.session) ∧
      q.value = q.session.source.value q.record.name := by
  cases spelled : rulesOf given with
  | error f =>
    rw [SessionEvent.rebindUnread spelled] at asked
    contradiction
  | ok rules =>
    rw [SessionEvent.rebindQuestion spelled] at asked
    rcases entry : s.retune name rules with ⟨f | r,s₁⟩
    · rw [entry] at asked
      contradiction
    · rw [entry] at asked
      cases asked
      exact ⟨rules,rfl,entry,rfl⟩

theorem rebound {s s' : Session} {name given r'} (ok : s.rebindGiven (.text name) given = (.ok r',s')) :
    ∃ rules r s₁ o, rulesOf given = .ok rules ∧ s.retune name rules = (.ok r,s₁) ∧
      s₁.judge r (s₁.source.value r.name) = .ok o ∧ r' = r.withVerdict o ∧ s' = s₁.accept r o := by
  unfold rebindGiven at ok
  split at ok
  · cases ok
  · rename_i rules spelled
    dsimp only at ok
    rw [rebindEq] at ok
    rcases entry : s.retune name rules with ⟨f | r,s₁⟩
    · rw [entry] at ok
      cases ok
    · rw [entry] at ok
      obtain ⟨o,answered,verdict,post⟩ := judgedSilently ok
      exact ⟨rules,r,s₁,o,spelled,entry,answered,verdict,post⟩

theorem rebindAsks {s : Session} {name given r} (ok : (s.rebindGiven (.text name) given).1 = .ok r) :
    (SessionEvent.rebind (.text name) given).question? s ≠ none := by
  obtain ⟨_,_,_,_,spelled,entry,_⟩ := rebound (Prod.ext ok rfl)
  rw [SessionEvent.rebindQuestion spelled,entry]
  exact Option.some_ne_none _

theorem reboundAnswered {s s₁ : Session} {name given rules r o} (spelled : rulesOf given = .ok rules)
    (entry : s.retune name rules = (.ok r,s₁)) (answered : s₁.judge r (s₁.source.value r.name) = .ok o) :
    s.rebindGiven (.text name) given = (.ok (r.withVerdict o),s₁.accept r o) := by
  unfold rebindGiven
  rw [spelled]
  dsimp only
  rw [rebindEq,entry]
  dsimp only
  unfold judgeSilently
  rw [answered]

theorem rebindAnswered {s : Session} {name given q o}
    (asked : (SessionEvent.rebind (.text name) given).question? s = some q) (answered : q.answer = .ok o) :
    ((SessionEvent.rebind (.text name) given).run s).2 = q.session.accept q.record o := by
  obtain ⟨rules,spelled,entry,value⟩ := rebindAsked asked
  unfold Question.answer at answered
  rw [value] at answered
  exact congrArg Prod.snd (reboundAnswered spelled entry answered)

theorem validateCourse (name v event : Value) (s : Session) :
    Course (.validate name v event) s ((SessionEvent.validate name v event).run s).2 := by
  have post : ((SessionEvent.validate name v event).run s).2 = (s.validateGiven name v event).2 := rfl
  rw [post]
  by_cases text : ∃ n, name = .text n
  · obtain ⟨n,rfl⟩ := text
    unfold validateGiven
    dsimp only
    rcases ok : s.validate n v (eventOf event) with ⟨f | state,s'⟩
    · have outcomes := noted s n v (eventOf event)
      rw [ok] at outcomes
      cases outcomes with
      | absent absent =>
        refine .silent ?_ (by simp) rfl .refl
        simp only [SessionEvent.question?,absent,Option.map_none]
      | @broken r f found failed =>
        have asked : (SessionEvent.validate (.text n) v event).question? s =
            some ⟨s.store (mark r (eventOf event)),mark r (eventOf event),v⟩ := by
          simp only [SessionEvent.question?,found,Option.map_some]
        have broke : (SessionEvent.validate (.text n) v event).BreaksDown s := .inr ⟨_,f,asked,failed⟩
        exact .breaks broke (.breakdown broke .refl (.note found))
    · exact .enters rfl ok
  · obtain ⟨_,refused⟩ := validateOther s v event text
    rw [refused]
    refine .silent ?_ (by simp) rfl .refl
    cases name <;> first | exact absurd ⟨_,rfl⟩ text | rfl

theorem advanceCourse (ms : Int) (s : Session) :
    Course (.advance ms) s ((SessionEvent.advance ms).run s).2 := by
  have post : ((SessionEvent.advance ms).run s).2 = (s.advance ms).2 := rfl
  rw [post]
  have leads := advanceLeads ms s
  rcases ok : s.advance ms with ⟨f | n,s'⟩
  · rw [ok] at leads
    exact .breaks (.inl ⟨ms,f,rfl,congrArg Prod.fst ok⟩) leads
  · exact .elapses rfl ok

theorem lateCourse {a : Alarm} {s : Session} (free : s.obeysCancel = false) :
    Course (.late a) s ((SessionEvent.late a).run s).2 := by
  have post : ((SessionEvent.late a).run s).2 = (s.expire a).2 := rfl
  rw [post]
  have outcomes := rung s a
  rcases ok : s.expire a with ⟨f | ⟨⟩,s'⟩
  · rw [ok] at outcomes
    cases outcomes with
    | @broken r f found epoch stamp failed =>
      have asked : (SessionEvent.late a).question? s = some ⟨s.untrack a.field,r,a.value⟩ := by
        simp only [SessionEvent.question?,found]
        exact if_pos ⟨epoch,stamp⟩
      have broke : (SessionEvent.late a).BreaksDown s := .inr ⟨_,f,asked,failed⟩
      exact .breaks broke (.breakdown broke .refl (.late free ok))
  · exact .late rfl free ok

theorem eventCourse {e : SessionEvent} {s : Session} (possible : e.Possible s) : Course e s (e.run s).2 := by
  cases resets : e.resets s with
  | true => exact .resets resets (SessionEvent.resetsClears resets)
  | false =>
    cases e with
    | add attributes rules => exact addCourse attributes rules s
    | rebind name rules => exact rebindCourse name rules s
    | remove names => exact .silent rfl nofun rfl (removeGivenQuiet names s)
    | validate name v event => exact validateCourse name v event s
    | check form => exact .silent rfl nofun rfl (checkGivenQuiet form s)
    | clearAhead form => exact .silent rfl nofun rfl (clearAheadGivenQuiet form s)
    | setOptions options => exact .silent rfl nofun rfl (.aside (setOptionsAside options s))
    | discover rules => exact .silent rfl nofun rfl (.aside (discoverAside rules s))
    | clearPending => exact .silent rfl nofun rfl (clearPendingQuiet s)
    | reset => contradiction
    | transition =>
      refine .silent rfl nofun resets ?_
      change s.Quiet s.onTransition.2
      rw [SessionEvent.transitionKept resets]
      exact .refl
    | fire =>
      refine .silent rfl nofun resets ?_
      change s.Quiet s.fire
      rw [SessionEvent.fireKept resets]
      exact .refl
    | close => exact .silent rfl nofun rfl (closeQuiet s)
    | keepOnTransition keep => exact .silent rfl nofun rfl (.aside (.page s))
    | lastMessageOnly lastOnly => exact .silent rfl nofun rfl (.aside (.page s))
    | setValue name v => exact .silent rfl nofun rfl (.aside (setValueAside name v s))
    | setDisabled name disabled => exact .silent rfl nofun rfl (.aside (setDisabledAside name disabled s))
    | drain => exact .silent rfl nofun rfl (.aside (.page s))
    | advance ms => exact advanceCourse ms s
    | late a => exact lateCourse (possible a rfl)

theorem validatedMove {s s' : Session} {name v event state} (ok : s.validate name v event = (.ok state,s')) :
    s.Move s' := by
  have outcomes := noted s name v event
  rw [ok] at outcomes
  cases outcomes with
  | excused found answered optional empty => exact .excuse found answered optional empty
  | shown found answered => exact .show found answered
  | postponed found answered => exact .postpone found answered

inductive Effect (e : SessionEvent) (s : Session) : Prop where
  | leads (leads : Leads s (e.run s).2 (e.BreaksDown s))
  | retunes {name given rules r s₁ o} (rebinding : e = .rebind (.text name) given)
      (spelled : rulesOf given = .ok rules) (retuned : s.retune name rules = (.ok r,s₁))
      (answered : s₁.judge r (s₁.source.value r.name) = .ok o) (post : (e.run s).2 = s₁.accept r o)

theorem eventEffect {e : SessionEvent} {s : Session} (possible : e.Possible s) : Effect e s := by
  have course := eventCourse possible
  generalize post : (e.run s).2 = s' at course
  cases course with
  | retunes rebinding spelled entry answered => exact .retunes rebinding spelled entry answered post
  | silent _ _ _ quiet => exact .leads (post ▸ .moves quiet.moves)
  | resets _ clears => exact .leads (post ▸ .moves clears.moves)
  | enrols _ _ entry answered => exact .leads (post ▸ .moves (.single (.enrol entry answered)))
  | enters _ ok => exact .leads (post ▸ .moves (.single (validatedMove ok)))
  | elapses passing =>
    subst passing
    exact .leads (advanceLeads _ s)
  | late _ free ok => exact .leads (post ▸ .moves (.single (.late free ok)))
  | breaks _ leads => exact .leads (post ▸ leads)

structure Rooted (s s' : Session) : Prop where
  obeysCancel : s'.obeysCancel = s.obeysCancel
  book : s.catalog.Remembers → s.catalog.SameBook s'.catalog ∧ s'.catalog.Remembers

theorem Rooted.still {s s' : Session} (obeysCancel : s'.obeysCancel = s.obeysCancel) (catalog : s'.catalog = s.catalog) :
    s.Rooted s' := by
  refine ⟨obeysCancel,fun remembers => ?_⟩
  rw [catalog]
  exact ⟨.refl _,remembers⟩

theorem Rooted.trans {s m s' : Session} (first : s.Rooted m) (second : m.Rooted s') : s.Rooted s' := by
  refine ⟨second.obeysCancel.trans first.obeysCancel,fun remembers => ?_⟩
  have before := first.book remembers
  have after := second.book before.2
  exact ⟨before.1.trans after.1,after.2⟩

theorem enlistedRooted {s s' : Session} {attributes r} (entry : s.enlist attributes = (.ok r,s')) : s.Rooted s' := by
  obtain ⟨_,_,_,_,_,rfl⟩ := enlisted entry
  exact ⟨rfl,fun remembers => Catalog.parseKeeps remembers _⟩

theorem retunedRooted {s s' : Session} {name rules r} (entry : s.retune name rules = (.ok r,s')) : s.Rooted s' := by
  obtain ⟨_,_,_,_,_,rfl⟩ := retuned entry
  exact ⟨rfl,fun remembers => Catalog.parseKeeps remembers _⟩

theorem expireRooted (s : Session) (a : Alarm) : s.Rooted (s.expire a).2 := by
  have outcomes := rung s a
  generalize s.expire a = answer at outcomes
  cases outcomes with
  | stale => exact .still rfl rfl
  | broken => exact .still rfl rfl
  | heard =>
    rw [presentEq]
    exact .still rfl rfl

theorem rangRooted {s s' : Session} {scheduler : Scheduler Alarm} {a : Alarm} {answer}
    (rang : { s with scheduler := scheduler }.expire a = (answer,s')) : s.Rooted s' := by
  have sounded := expireRooted { s with scheduler := scheduler } a
  rw [rang] at sounded
  exact ⟨sounded.obeysCancel,sounded.book⟩

theorem lateRooted {s s' : Session} {a : Alarm} {answer} (rang : s.expire a = (answer,s')) : s.Rooted s' := by
  have sounded := expireRooted s a
  rwa [rang] at sounded

theorem moveRooted {s s' : Session} (move : s.Move s') : s.Rooted s' := by
  cases move with
  | beside same => exact ⟨same.obeysCancel,same.book⟩
  | enrol entry => exact (enlistedRooted entry).trans (.still rfl rfl)
  | excuse =>
    rw [noteEq]
    exact .still rfl rfl
  | «show» =>
    rw [presentEq,noteEq]
    exact .still rfl rfl
  | postpone =>
    rw [noteEq]
    exact .still rfl rfl
  | discard name =>
    rw [removeEq]
    exact .still rfl rfl
  | reject e =>
    cases found : s.registry.find? e.field with
    | none =>
      rw [rejectAbsent found]
      exact .still rfl rfl
    | some r =>
      rw [rejectEq found]
      exact .still rfl rfl
  | abandon name =>
    cases found : s.registry.find? name with
    | none =>
      rw [abandonAbsent found]
      exact .still rfl rfl
    | some r =>
      rw [abandonEq found]
      exact .still rfl rfl
  | forget => exact .still rfl rfl
  | lapse => exact .still rfl rfl
  | ring _ _ rang => exact rangRooted rang
  | late _ rang => exact lateRooted rang

theorem breakdownRooted {s s' : Session} (broke : s.Breakdown s') : s.Rooted s' := by
  cases broke with
  | enrol entry => exact enlistedRooted entry
  | retune entry => exact retunedRooted entry
  | note => exact .still rfl rfl
  | ring _ _ broke => exact rangRooted broke
  | late _ broke => exact lateRooted broke

theorem movesRooted {s s' : Session} (moves : s.Moves s') : s.Rooted s' := by
  induction moves with
  | refl => exact .still rfl rfl
  | tail _ step ih => exact ih.trans (moveRooted step)

theorem eventRooted {e : SessionEvent} {s : Session} (possible : e.Possible s) : s.Rooted (e.run s).2 := by
  cases eventEffect possible with
  | leads leads =>
    cases leads with
    | moves moves => exact movesRooted moves
    | breakdown _ moves broke => exact (movesRooted moves).trans (breakdownRooted broke)
  | retunes _ _ entry _ post =>
    rw [post]
    exact (retunedRooted entry).trans (.still rfl rfl)

theorem runRooted {opening : Session} {past s} (run : opening.Run past s) : opening.Rooted s := by
  induction run with
  | start => exact .still rfl rfl
  | next _ e possible ih => exact ih.trans (eventRooted possible)

theorem movesObey {s s' : Session} (moves : s.Moves s') : s'.obeysCancel = s.obeysCancel := (movesRooted moves).obeysCancel

theorem eventObeys {e : SessionEvent} {s : Session} (possible : e.Possible s) :
    (e.run s).2.obeysCancel = s.obeysCancel := (eventRooted possible).obeysCancel

theorem runObeys {opening : Session} {past s} (run : opening.Run past s) : s.obeysCancel = opening.obeysCancel :=
  (runRooted run).obeysCancel

def live (opening : Session) : List SessionEvent → List Moment × Session
  | [] => ([],opening)
  | e :: earlier => (⟨(live opening earlier).2,e⟩ :: (live opening earlier).1,(e.run (live opening earlier).2).2)

theorem liveRun {opening : Session} {events : List SessionEvent}
    (free : opening.obeysCancel = false ∨ ∀ a, SessionEvent.late a ∉ events) :
    opening.Run (opening.live events).1 (opening.live events).2 := by
  induction events with
  | nil => exact .start
  | cons e earlier ih =>
    have before := ih (free.imp_right fun no a member => no a (List.mem_cons_of_mem _ member))
    refine .next before e fun a same => ?_
    rw [runObeys before]
    rcases free with free | no
    · exact free
    · exact absurd (by simp [same]) (no a)

end Session
end FormGuard
