import FormGuard.Proofs.TimePassing

/-! The forms that have a context. A form has one from the first field that is registered under it until the page is
forgotten, and the page itself has one as soon as any form does. -/
namespace FormGuard

def Record.BelongsTo (r : Record) (form : Option String) : Prop := form = none ∨ r.form = form

def Moment.Registers (form : Option String) (m : Moment) : Prop := ∃ attributes rules r,
  m.event = .add attributes rules ∧ (m.before.addGiven attributes rules).1 = .ok r ∧ r.BelongsTo form

namespace Summary

theorem isAttachedIff {s : Summary} {form : Option String} :
    s.isAttached form = true ↔ ∃ f ∈ s.attached, form = none ∨ f = form := by
  cases form with
  | none => simp [isAttached,List.eq_nil_iff_forall_not_mem]
  | some form => simp [isAttached]

theorem memAttach {s : Summary} {form f : Option String} :
    f ∈ (s.attach form).attached ↔ f = form ∨ f ∈ s.attached := by
  unfold attach
  split
  · rename_i already
    have member : form ∈ s.attached := by simpa using already
    exact ⟨.inr,fun either => either.elim (fun same => same ▸ member) id⟩
  · simp [or_comm]

theorem attachIff {s : Summary} {r : Record} {form : Option String} :
    (s.attach r.form).isAttached form = true ↔ r.BelongsTo form ∨ s.isAttached form = true := by
  rw [isAttachedIff,isAttachedIff]
  constructor
  · rintro ⟨f,member,belongs⟩
    rcases memAttach.mp member with rfl | before
    · exact .inl belongs
    · exact .inr ⟨f,before,belongs⟩
  · rintro (belongs | ⟨f,before,belongs⟩)
    · exact ⟨r.form,memAttach.mpr (.inl rfl),belongs⟩
    · exact ⟨f,memAttach.mpr (.inr before),belongs⟩

theorem sameAttached {s s' : Summary} (same : s'.attached = s.attached) (form : Option String) :
    s'.isAttached form = s.isAttached form := by
  unfold isAttached
  rw [same]

theorem upsertAttached (s : Summary) (e : SummaryEntry) : (s.upsert e).attached = s.attached := by
  unfold upsert
  split <;> rfl

end Summary

namespace Session

def RegisteredSince (form : Option String) (past : List Moment) : Prop := ∃ newer m older,
  past = newer ++ m :: older ∧ m.Registers form ∧ ∀ k ∈ newer, k.event.resets k.before = false

theorem registeredSinceCons {form : Option String} {m : Moment} {past : List Moment} :
    RegisteredSince form (m :: past) ↔
      m.Registers form ∨ m.event.resets m.before = false ∧ RegisteredSince form past := by
  constructor
  · rintro ⟨newer,g,older,split,registers,kept⟩
    cases newer with
    | nil =>
      cases split
      exact .inl registers
    | cons k newer =>
      cases split
      exact .inr ⟨kept _ List.mem_cons_self,newer,g,older,rfl,registers,
        fun j member => kept j (List.mem_cons_of_mem _ member)⟩
  · rintro (registers | ⟨first,newer,g,older,rfl,registers,kept⟩)
    · exact ⟨[],m,past,rfl,registers,by simp⟩
    · refine ⟨m :: newer,g,older,rfl,registers,fun k member => ?_⟩
      rcases List.mem_cons.mp member with rfl | inside
      · exact first
      · exact kept k inside

section Attached
variable {s s' : Session}

theorem QuietStep.attached (step : s.QuietStep s') : s'.summary.attached = s.summary.attached := by
  cases step with
  | aside same => rw [same.summary]
  | discard name =>
    rw [removeEq]
    rfl
  | reject e => rw [rejectSummary]
  | abandon name =>
    cases found : s.registry.find? name with
    | none => rw [abandonAbsent found]
    | some r => rw [abandonEq found]

theorem Quiet.attached (quiet : s.Quiet s') : s'.summary.attached = s.summary.attached := by
  induction quiet with
  | refl => rfl
  | tail _ step ih => exact step.attached.trans ih

theorem validatedAttached {name v event state} (ok : s.validate name v event = (.ok state,s')) :
    s'.summary.attached = s.summary.attached := by
  have outcomes := noted s name v event
  rw [ok] at outcomes
  cases outcomes with
  | excused =>
    rw [noteEq]
    exact Summary.upsertAttached _ _
  | shown =>
    rw [presentEq,noteEq]
    exact Summary.upsertAttached _ _
  | postponed =>
    rw [noteEq]
    exact Summary.upsertAttached _ _

theorem expiredAttached (s : Session) (a : Alarm) : (s.expire a).2.summary.attached = s.summary.attached := by
  have outcomes := rung s a
  generalize s.expire a = answer at outcomes
  cases outcomes with
  | stale => rfl
  | broken => rfl
  | heard =>
    rw [presentEq]
    exact Summary.upsertAttached _ _

theorem Tick.attached {target} (tick : Tick target s s') : s'.summary.attached = s.summary.attached := by
  cases tick with
  | lapse => rfl
  | @ring t scheduler _ _ _ rang =>
    have kept := expiredAttached { s with scheduler := scheduler } t.payload
    rwa [rang] at kept

theorem Ticks.attached {target} (ticks : Ticks target s s') : s'.summary.attached = s.summary.attached := by
  induction ticks with
  | refl => rfl
  | tail _ tick ih => exact tick.attached.trans ih

inductive Attachment (e : SessionEvent) (s s' : Session) : Prop where
  | attaches {attributes rules r} (adding : e = .add attributes rules) (ok : (s.addGiven attributes rules).1 = .ok r)
      (attached : s'.summary.attached = (s.summary.attach r.form).attached)
  | forgets (resets : e.resets s = true) (attached : s'.summary.attached = [])
  | keeps (kept : e.resets s = false)
      (unregistered : ∀ attributes rules r, e = .add attributes rules → (s.addGiven attributes rules).1 ≠ .ok r)
      (attached : s'.summary.attached = s.summary.attached)

theorem Course.attachment {e} (course : Course e s s') (smooth : ¬ e.BreaksDown s) : Attachment e s s' := by
  cases course with
  | silent unasked _ kept quiet =>
    refine .keeps kept (fun attributes rules r adding ok => ?_) quiet.attached
    exact addAsks ok (adding ▸ unasked)
  | resets resets clears => exact .forgets resets (by cases clears <;> rfl)
  | enrols adding given entry answered =>
    refine .attaches adding (congrArg Prod.fst (addAnswered given entry answered)) ?_
    obtain ⟨_,_,_,_,_,rfl⟩ := enlisted entry
    exact Summary.upsertAttached _ _
  | retunes rebinding _ entry =>
    refine .keeps (by rw [rebinding]; rfl) (by simp [rebinding]) ?_
    obtain ⟨_,_,_,_,_,rfl⟩ := retuned entry
    exact Summary.upsertAttached _ _
  | enters entering ok => exact .keeps (by rw [entering]; rfl) (by simp [entering]) (validatedAttached ok)
  | elapses passing ok =>
    refine .keeps (by rw [passing]; rfl) (by simp [passing]) ?_
    obtain ⟨_,ticks,_,rfl⟩ := advancedTicks ok
    exact ticks.attached
  | @late a _ sounding _ ok =>
    refine .keeps (by rw [sounding]; rfl) (by simp [sounding]) ?_
    have kept := expiredAttached s a
    rwa [ok] at kept
  | breaks broke => exact absurd broke smooth

theorem runAttached {opening : Session} {past} (opened : opening.Opened) (run : opening.Run past s)
    (smooth : Smooth past) (form : Option String) : s.summary.isAttached form = true ↔ RegisteredSince form past := by
  induction run with
  | start =>
    have never : ¬ RegisteredSince form [] := by
      rintro ⟨newer,m,older,split,_⟩
      simp at split
    rw [opened.summary]
    exact iff_of_false (by cases form <;> simp [Summary.isAttached,Summary.empty]) never
  | @next past s before e possible ih =>
    rw [registeredSinceCons]
    cases (eventCourse possible).attachment smooth.head with
    | @attaches attributes rules _ adding ok attached =>
      subst adding
      rw [Summary.sameAttached attached,Summary.attachIff,ih smooth.tail]
      have kept : (SessionEvent.add attributes rules).resets s = false := rfl
      refine or_congr ⟨fun belongs => ⟨_,_,_,rfl,ok,belongs⟩,?_⟩ (and_iff_right kept).symm
      rintro ⟨_,_,r,same,done,belongs⟩
      cases same
      cases ok.symm.trans done
      exact belongs
    | forgets resets attached =>
      refine iff_of_false ?_ ?_
      · cases form <;> simp [Summary.isAttached,attached]
      · rintro (⟨_,_,_,adding,_⟩ | ⟨kept,_⟩)
        · dsimp only at adding
          rw [adding] at resets
          contradiction
        · exact absurd (resets.symm.trans kept) (by simp)
    | keeps kept unregistered attached =>
      rw [Summary.sameAttached attached,ih smooth.tail]
      refine ⟨fun since => .inr ⟨kept,since⟩,fun either => ?_⟩
      rcases either with ⟨_,_,r,adding,ok,_⟩ | ⟨_,since⟩
      · exact absurd ok (unregistered _ _ r adding)
      · exact since

end Attached

end Session
end FormGuard
