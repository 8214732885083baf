import FormGuard.Proofs.FieldStates
import FormGuard.Proofs.FormContexts
import FormGuard.Proofs.LastVerdicts
import FormGuard.Proofs.LateTimers

/-! The check of a form. It succeeds when the last verdict on each field of the form was good. A field that stands in the
way is taken as left and shown with its message, and nothing else is touched. -/
namespace FormGuard

def Record.turnedDown (r : Record) : Record := { r with touched := true, state := .invalid }

namespace Summary

theorem memForm {s : Summary} {e : SummaryEntry} {form : Option String} :
    e ∈ s.ofForm form ↔ e ∈ s.all ∧ (form = none ∨ e.form = form) := by
  cases form <;> simp [ofForm]

theorem Filed.fields {s : Summary} (h : s.Filed) (form : Option String) : ((s.ofForm form).map (·.field)).Nodup := by
  have names : s.all.map (·.field) = s.entries.names := by
    unfold all Table.entries Table.names
    rw [List.map_map]
    refine List.map_congr_left fun e member => ?_
    exact h.field (getOfMem h.distinct member)
  have all : (s.all.map (·.field)).Nodup := by
    rw [names]
    exact h.distinct
  cases form with
  | none => exact all
  | some f => exact all.sublist (List.filter_sublist.map _)

end Summary

namespace Session

def Passed (past : List Moment) (name : String) : Prop := ∃ o, lastVerdict name past = some o ∧ o.valid = true

theorem passedIff {past s name r} (judged : Judged (verdicts past) s) (found : s.registry.find? name = some r) :
    Passed past name ↔ r.isValid = true := by
  obtain ⟨o,last,bears⟩ := judged name r found
  rw [bears.valid]
  constructor
  · rintro ⟨o',last',good⟩
    cases last.symm.trans last'
    exact good
  · exact fun good => ⟨o,last,good⟩

section Rejecting
variable {s s' : Session}

theorem Timed.silencedLive (h : s.Timed) {name : String} {t} (other : t.payload.field ≠ name) :
    t ∈ (s.silenced name).live ↔ t ∈ s.scheduler.live := by
  refine (@memLive { s with scheduler := s.silenced name } t).trans (Iff.trans ?_ memLive.symm)
  dsimp only
  rw [silencedQueue,List.mem_map]
  constructor
  · rintro ⟨⟨u,queued,same⟩,waiting⟩
    split at same
    · rw [← same] at waiting
      contradiction
    · exact ⟨same ▸ queued,waiting⟩
  · rintro ⟨queued,waiting⟩
    exact ⟨⟨t,queued,if_neg fun hit => other (h.hit queued hit.2)⟩,waiting⟩

structure Rejects (entries : List SummaryEntry) (s s' : Session) : Prop where
  record (name) : s'.registry.find? name =
    if name ∈ entries.map (·.field) then (s.registry.find? name).map Record.turnedDown else s.registry.find? name
  timer (name) : s'.timers.get? name = if name ∈ entries.map (·.field) then none else s.timers.get? name
  live (t) : t.payload.field ∉ entries.map (·.field) → (t ∈ s'.scheduler.live ↔ t ∈ s.scheduler.live)
  message : ∀ e ∈ entries, s'.display.messages.get? e.field = some e.message
  unshown (name) : name ∉ entries.map (·.field) → s'.display.messages.get? name = s.display.messages.get? name
  events : s'.display.events = s.display.events ++
    entries.map fun e => .shown e.field e.message ((s.registry.find? e.field).bind (·.target))
  rest : s' = { s with
    registry := s'.registry
    timers := s'.timers
    scheduler := s'.scheduler
    display := s'.display }

theorem rejectsOne {e : SummaryEntry} {r} (ordered : s.Ordered) (found : s.registry.find? e.field = some r) :
    Rejects [e] s (s.reject e) := by
  have named := (ordered.proper found).named
  have marked := rejectMarks found
  have post := rejectEq found
  generalize s.reject e = s' at marked post
  subst post
  have one (name : String) : name ∈ [e].map (·.field) ↔ name = e.field := by simp
  refine ⟨fun name => ?_,fun name => ?_,fun t => ?_,fun k member => ?_,fun name => ?_,?_,rfl⟩
  · rw [marked.registry]
    by_cases own : name = e.field
    · rw [if_pos (own.trans named.symm),if_pos ((one name).mpr own),own,found]
      rfl
    · rw [if_neg fun same => own (same.trans named),if_neg fun member => own ((one name).mp member)]
  · refine (Table.getAfterDrop _ _ _).trans ?_
    simp only [one]
  · rw [one]
    exact ordered.silencedLive
  · cases List.mem_singleton.mp member
    rw [← named]
    exact Table.getPut
  · rw [one,← named]
    exact Table.getBesidePut
  · rw [List.map_singleton,found,← named]
    rfl

theorem Rejects.append {before after : List SummaryEntry} {m : Session} (first : Rejects before s m)
    (second : Rejects after m s') (apart : ∀ e ∈ after, e.field ∉ before.map (·.field)) :
    Rejects (before ++ after) s s' := by
  -- No field is turned down twice, so each part leaves alone what the other has done.
  have either (name : String) : name ∈ (before ++ after).map (·.field) ↔
      name ∈ before.map (·.field) ∨ name ∈ after.map (·.field) := by
    rw [List.map_append,List.mem_append]
  have once {name : String} (later : name ∈ after.map (·.field)) : name ∉ before.map (·.field) := by
    obtain ⟨e,member,rfl⟩ := List.mem_map.mp later
    exact apart e member
  refine ⟨fun name => ?_,fun name => ?_,fun t out => ?_,fun e member => ?_,fun name out => ?_,?_,?_⟩
  · rw [second.record,first.record]
    simp only [either]
    by_cases later : name ∈ after.map (·.field)
    · rw [if_pos later,if_neg (once later),if_pos (.inr later)]
    · simp only [later,if_false,or_false]
  · rw [second.timer,first.timer]
    simp only [either]
    by_cases later : name ∈ after.map (·.field)
    · rw [if_pos later,if_pos (.inr later)]
    · simp only [later,if_false,or_false]
  · rw [either,not_or] at out
    exact (second.live t out.2).trans (first.live t out.1)
  · rcases List.mem_append.mp member with early | late
    · rw [second.unshown e.field fun later => once later (List.mem_map_of_mem early)]
      exact first.message e early
    · exact second.message e late
  · rw [either,not_or] at out
    exact (second.unshown name out.2).trans (first.unshown name out.1)
  · have targets : (after.map fun e => DisplayEvent.shown e.field e.message ((m.registry.find? e.field).bind (·.target))) =
        after.map fun e => .shown e.field e.message ((s.registry.find? e.field).bind (·.target)) := by
      refine List.map_congr_left fun e member => ?_
      rw [first.record,if_neg (apart e member)]
    rw [second.events,first.events,targets,List.map_append,List.append_assoc]
  · rw [second.rest,first.rest]

theorem rejects {entries : List SummaryEntry} {s : Session} (ordered : s.Ordered)
    (registered : ∀ e ∈ entries, ∃ r, s.registry.find? e.field = some r)
    (distinct : (entries.map (·.field)).Nodup) : Rejects entries s (entries.foldl reject s) := by
  induction entries generalizing s with
  | nil => exact ⟨by simp,by simp,by simp,by simp,by simp,by simp,rfl⟩
  | cons e rest ih =>
    obtain ⟨fresh,apart⟩ := List.nodup_cons.mp distinct
    obtain ⟨r,found⟩ := registered e List.mem_cons_self
    have first := rejectsOne ordered found
    have still : ∀ k ∈ rest, ∃ r, (s.reject e).registry.find? k.field = some r := by
      intro k member
      obtain ⟨r',found'⟩ := registered k (List.mem_cons_of_mem _ member)
      rw [first.record,found']
      split <;> exact ⟨_,rfl⟩
    refine first.append (ih (ordered.rejected e) still apart) fun k member same => ?_
    rw [List.map_singleton,List.mem_singleton] at same
    exact fresh (List.mem_map.mpr ⟨k,member,same⟩)

structure TurnedDown (s s' : Session) (r : Record) : Prop where
  record : s'.registry.find? r.name = some r.turnedDown
  timer : s'.timers.get? r.name = none
  silent : s.obeysCancel = true → ∀ t ∈ s'.scheduler.live, t.payload.field ≠ r.name
  message : s'.display.messages.get? r.name = some r.message

def SameTimers (s s' : Session) (name : String) : Prop :=
  ∀ t, t.payload.field = name → (t ∈ s'.scheduler.live ↔ t ∈ s.scheduler.live)

/-- The records that stand in the way of a form, in the order of the summary. -/
def obstacles (s : Session) (form : Option String) : List Record :=
  (s.summary.ofForm form).filterMap fun e => s.registry.find? e.field

structure Checked (past : List Moment) (form : Option String) (s : Session) (passed : Bool) (s' : Session) : Prop where
  answer : passed = true ↔ ∀ name r, s.registry.find? name = some r → r.BelongsTo form → Passed past name
  obstacle (r) : r ∈ s.obstacles form ↔
    s.registry.find? r.name = some r ∧ r.BelongsTo form ∧ ¬ Passed past r.name
  distinct : ((s.obstacles form).map (·.name)).Nodup
  failing : ∀ r ∈ s.obstacles form, TurnedDown s s' r
  events : s'.display.events =
    s.display.events ++ (s.obstacles form).map fun r => .shown r.name r.message r.target
  others (name) : name ∉ (s.obstacles form).map (·.name) → SameField s s' name ∧ SameTimers s s' name
  summary : s'.summary = s.summary
  rest : s' = { s with
    registry := s'.registry
    timers := s'.timers
    scheduler := s'.scheduler
    display := s'.display }

theorem enteredIff (ordered : s.Ordered) (agrees : s.Agrees) {e : SummaryEntry} {form} :
    e ∈ s.summary.ofForm form ↔ ∃ r, s.registry.find? e.field = some r ∧ r.isValid = false ∧ r.BelongsTo form ∧
      e = ⟨r.name,r.message,r.friendlyName,r.form⟩ := by
  rw [Summary.memForm,Summary.memAll ordered.summary,agrees.entry]
  constructor
  · rintro ⟨entered,belongs⟩
    obtain ⟨r,found,said⟩ := Option.bind_eq_some_iff.mp entered
    unfold Record.entry? at said
    split at said
    · contradiction
    · rename_i bad
      cases said
      exact ⟨r,found,by simpa using bad,belongs,rfl⟩
  · rintro ⟨r,found,bad,belongs,same⟩
    rw [found,Option.bind_some,Record.entry?,if_neg (by simp [bad]),same]
    exact ⟨rfl,belongs⟩

theorem obstacleEntries (ordered : s.Ordered) (agrees : s.Agrees) (form : Option String) :
    s.summary.ofForm form = (s.obstacles form).map fun r => ⟨r.name,r.message,r.friendlyName,r.form⟩ := by
  unfold obstacles
  rw [List.map_filterMap]
  refine List.filterMap_some.symm.trans (List.filterMap_congr fun e member => ?_)
  obtain ⟨r,found,_,_,same⟩ := (enteredIff ordered agrees).mp member
  rw [found,Option.map_some,← same]

theorem obstacleNames (ordered : s.Ordered) (agrees : s.Agrees) (form : Option String) :
    (s.summary.ofForm form).map (·.field) = (s.obstacles form).map (·.name) := by
  rw [obstacleEntries ordered agrees,List.map_map]
  rfl

theorem obstacleIff {past : List Moment} (ordered : s.Ordered) (agrees : s.Agrees) (judged : Judged (verdicts past) s)
    {r : Record} {form} :
    r ∈ s.obstacles form ↔ s.registry.find? r.name = some r ∧ r.BelongsTo form ∧ ¬ Passed past r.name := by
  have failed (found : s.registry.find? r.name = some r) : r.isValid = false ↔ ¬ Passed past r.name := by
    rw [passedIff judged found,Bool.not_eq_true]
  unfold obstacles
  rw [List.mem_filterMap]
  constructor
  · rintro ⟨e,member,found⟩
    obtain ⟨r',found',bad,belongs,_⟩ := (enteredIff ordered agrees).mp member
    cases found.symm.trans found'
    rw [← (ordered.proper found).named] at found
    exact ⟨found,belongs,(failed found).mp bad⟩
  · rintro ⟨found,belongs,bad⟩
    refine ⟨⟨r.name,r.message,r.friendlyName,r.form⟩,(enteredIff ordered agrees).mpr ?_,found⟩
    exact ⟨r,found,(failed found).mpr bad,belongs,rfl⟩

theorem unobstructed {past : List Moment} {form : Option String} (ordered : s.Ordered) (agrees : s.Agrees)
    (judged : Judged (verdicts past) s) : s.obstacles form = [] ↔
      ∀ name r, s.registry.find? name = some r → r.BelongsTo form → Passed past name := by
  rw [List.eq_nil_iff_forall_not_mem]
  constructor
  · intro none name r found belongs
    have named := (ordered.proper found).named
    by_contra failed
    rw [← named] at found failed
    exact none r ((obstacleIff ordered agrees judged).mpr ⟨found,belongs,failed⟩)
  · intro all r member
    obtain ⟨found,belongs,failed⟩ := (obstacleIff ordered agrees judged).mp member
    exact failed (all r.name r found belongs)

theorem Rejects.turnsDown {entries} (turned : Rejects entries s s') (ordered' : s'.Ordered) {r : Record}
    (found : s.registry.find? r.name = some r) (entered : ⟨r.name,r.message,r.friendlyName,r.form⟩ ∈ entries) :
    TurnedDown s s' r := by
  have named : r.name ∈ entries.map (·.field) := List.mem_map.mpr ⟨_,entered,rfl⟩
  have idle : s'.timers.get? r.name = none := (turned.timer _).trans (if_pos named)
  have obeys : s'.obeysCancel = s.obeysCancel := by rw [turned.rest]
  refine ⟨?_,idle,fun free t live own => ?_,turned.message _ entered⟩
  · rw [turned.record,if_pos named,found]
    rfl
  · exact (ordered'.trackedLive (obeys.trans free)).mp ⟨t,live,own⟩ idle

theorem Rejects.leaves {entries} (turned : Rejects entries s s') {name} (out : name ∉ entries.map (·.field)) :
    SameField s s' name ∧ SameTimers s s' name := by
  refine ⟨⟨?_,?_,turned.unshown name out,?_⟩,fun t own => turned.live t (by rwa [own])⟩
  · rw [turned.record,if_neg out]
  · rw [turned.rest]
  · rw [turned.timer,if_neg out]

theorem checkRejects {form : Option String} {b} (ordered : s.Ordered) (agrees : s.Agrees)
    (ok : s.check form = (.ok b,s')) :
    b = (s.summary.ofForm form).isEmpty ∧ Rejects (s.summary.ofForm form) s s' ∧ s'.Ordered := by
  have ordered' : s'.Ordered := by
    have quiet := checkQuiet form s
    rw [ok] at quiet
    exact ordered.moves (Quiet.moves quiet)
  unfold check at ok
  split at ok <;> cases ok
  refine ⟨rfl,rejects ordered (fun e member => ?_) (ordered.summary.fields form),ordered'⟩
  obtain ⟨r,found,_⟩ := (enteredIff ordered agrees).mp member
  exact ⟨r,found⟩

theorem checked {past : List Moment} {form : Option String} {b} (ordered : s.Ordered) (agrees : s.Agrees)
    (judged : Judged (verdicts past) s) (ok : s.check form = (.ok b,s')) : Checked past form s b s' := by
  -- The entries stand for the obstacles one for one, so what is done to entries is done to those.
  have entries := obstacleEntries ordered agrees form
  have fields := obstacleNames ordered agrees form
  have distinct := ordered.summary.fields form
  obtain ⟨rfl,turned,ordered'⟩ := checkRejects ordered agrees ok
  have obstacle (r : Record) := @obstacleIff s past ordered agrees judged r form
  rw [fields] at distinct
  refine ⟨?_,obstacle,distinct,fun r member => ?_,?_,fun name out => ?_,by rw [turned.rest],turned.rest⟩
  · rw [entries,List.isEmpty_map,List.isEmpty_iff]
    exact unobstructed ordered agrees judged
  · refine turned.turnsDown ordered' ((obstacle r).mp member).1 ?_
    rw [entries]
    exact List.mem_map_of_mem member
  · rw [turned.events,entries,List.map_map]
    refine congrArg (s.display.events ++ ·) (List.map_congr_left fun r member => ?_)
    simp only [Function.comp,((obstacle r).mp member).1,Option.bind_some]
  · rw [← fields] at out
    exact turned.leaves out

end Rejecting

/-- A check fails for want of a context, changing nothing, when no field was registered under the form since the page was
last forgotten; else it tells whether every field of the form passed its last verdict. -/
theorem checkDecides {opening : Session} {past s} (opened : opening.Opened) (run : opening.Run past s)
    (smooth : Smooth past) (form : Option String) :
    (¬ RegisteredSince form past ↔
      s.check form = (.error (.problem (.noContext "check_form_validity" (formValue form))),s)) ∧
    (RegisteredSince form past → ∃ passed s', s.check form = (.ok passed,s') ∧ Checked past form s passed s') := by
  have attached := runAttached opened run smooth form
  rw [← attached]
  cases known : s.summary.isAttached form with
  | false =>
    have refused : s.check form = (.error (.problem (.noContext "check_form_validity" (formValue form))),s) := by
      unfold check
      rw [known]
      rfl
    exact ⟨iff_of_true nofun refused,nofun⟩
  | true =>
    have answer : s.check form =
        (.ok (s.summary.ofForm form).isEmpty,(s.summary.ofForm form).foldl reject s) := by
      unfold check
      rw [known]
      rfl
    refine ⟨iff_of_false (fun never => never rfl) fun refused => ?_,fun _ => ⟨_,_,answer,?_⟩⟩
    · rw [answer] at refused
      cases refused
    · exact checked (runOrdered opened run) (runAgrees opened run smooth) (runJudged opened run smooth) answer

theorem smallCheck : ∃ opening past s s', Opened opening ∧ opening.Run past s ∧ Smooth past ∧
    s.check none = (.ok false,s') ∧ Checked past none s false s' ∧
    s.check (some "f") = (.error (.problem (.noContext "check_form_validity" (.text "f"))),s) := by
  have run := smallFieldRun true
  have opened := smallOpened true
  have form : ((smallPage true).addGiven (.text "x") (.text "letter")).1.toOption.map (·.form) = some none := by
    decide +kernel
  have wrong : ((smallField true).check none).1.toOption = some false := by decide +kernel
  generalize smallField true = s at *
  have smooth := smallSmooth true
  obtain ⟨r,added,formless⟩ := Option.map_eq_some_iff.mp form
  have page : RegisteredSince none [⟨smallPage true,smallEntry⟩] :=
    ⟨[],_,[],rfl,⟨_,_,r,rfl,answered added,.inl rfl⟩,by simp⟩
  have other : ¬ RegisteredSince (some "f") [⟨smallPage true,smallEntry⟩] := by
    rw [registeredSinceCons]
    rintro (⟨_,_,r',same,ok,belongs⟩ | ⟨_,newer,_,_,split,_⟩)
    · cases same
      cases (answered added).symm.trans ok
      simp [Record.BelongsTo,formless] at belongs
    · simp at split
  obtain ⟨passed,s',answer,decided⟩ := (checkDecides opened run smooth none).2 page
  rw [answer] at wrong
  cases wrong
  exact ⟨_,_,_,s',opened,run,smooth,answer,decided,(checkDecides opened run smooth (some "f")).1.mp other⟩

end Session
end FormGuard
