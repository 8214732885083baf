import FormGuard.Proofs.RecordHistory

/-! Timers of records that are gone. A record goes when its field is removed, registered anew or forgotten with the page.
From then on no alarm that was armed for it finds it, whatever is registered under its name later, and an
alarm that finds nothing leaves the session as it is. -/
namespace FormGuard

def removedNames : Value → List Value
  | .text name => [.text name]
  | .list names => names
  | .object fields => fields.map fun e => .text e.1
  | _ => []

inductive Moment.Dismisses (a : Alarm) : Moment → Prop where
  | removed {s names} (named : .text a.field ∈ removedNames names) (done : (s.removeGiven names).1 = .ok ()) :
      Dismisses a ⟨s,.remove names⟩
  | cleared {s form fields} (done : (s.clearAheadGiven form).1 = .ok fields) (member : a.field ∈ fields) :
      Dismisses a ⟨s,.clearAhead form⟩
  | replaced {s attributes rules r} (done : (s.addGiven attributes rules).1 = .ok r) (same : r.name = a.field) :
      Dismisses a ⟨s,.add attributes rules⟩
  | reset {s e} (resets : e.resets s = true) : Dismisses a ⟨s,e⟩

namespace Session

theorem removeGone (s : Session) (name m : String) :
    (s.remove name).registry.find? m = if m = name then none else s.registry.find? m := by
  rw [removeEq]
  exact Registry.findRemove

theorem discardsGone {names : List String} {s : Session} {m : String}
    (gone : m ∈ names ∨ s.registry.find? m = none) : (names.foldl remove s).registry.find? m = none := by
  induction names generalizing s with
  | nil => exact gone.resolve_left (List.not_mem_nil)
  | cons name rest ih =>
    refine ih ?_
    rw [removeGone]
    rcases gone with member | absent
    · rcases List.mem_cons.mp member with same | later
      · exact .inr (if_pos same)
      · exact .inl later
    · exact .inr (by rw [absent]; split <;> rfl)

theorem removeAllGone {names : List Value} {s : Session} {m : String} (done : (removeAll names s).1 = .ok ())
    (gone : .text m ∈ names ∨ s.registry.find? m = none) : (removeAll names s).2.registry.find? m = none := by
  induction names generalizing s with
  | nil => exact gone.resolve_left (List.not_mem_nil)
  | cons v rest ih =>
    rw [removeAllEq] at done ⊢
    have outcomes := s.struck v
    generalize s.removeNamed v = answer at outcomes done ⊢
    cases outcomes with
    | field name =>
      refine ih done ?_
      rw [removeGone]
      rcases gone with member | absent
      · rcases List.mem_cons.mp member with same | later
        · exact .inr (if_pos (Value.text.inj same))
        · exact .inl later
      · exact .inr (by rw [absent]; split <;> rfl)
    | cleared other =>
      refine ih done (gone.imp_left fun member => ?_)
      exact (List.mem_cons.mp member).resolve_left fun same => other m same.symm
    | refused | broken => cases done

theorem removeGivenGone {names : Value} {s : Session} {m : String} (done : (s.removeGiven names).1 = .ok ())
    (named : .text m ∈ removedNames names) : (s.removeGiven names).2.registry.find? m = none := by
  cases names with
  | text | list | object => exact removeAllGone done (.inl named)
  | _ => cases done

theorem clearAheadGone {form : Value} {s : Session} {fields : List String} {m : String}
    (done : (s.clearAheadGiven form).1 = .ok fields) (member : m ∈ fields) :
    (s.clearAheadGiven form).2.registry.find? m = none := by
  unfold clearAheadGiven clearAhead at done ⊢
  split at done
  · cases done
  · split at done
    · cases done
      rename_i attached
      rw [if_pos attached]
      exact discardsGone (.inl member)
    · cases done

theorem Clears.epoch {s s' : Session} (clears : s.Clears s') : s.epoch < s'.epoch := by
  have reset (m : Session) : m.reset.epoch = m.epoch + 1 := by
    obtain ⟨scheduler,post⟩ := resetEq m
    rw [post]
  induction clears with
  | once =>
    rw [reset]
    exact Nat.lt_succ_self _
  | again _ ih =>
    rw [reset]
    exact Nat.lt_succ_of_lt ih

theorem dismissedGone {g : Moment} {a : Alarm} (grounds : g.before.Grounds a) (dismisses : g.Dismisses a) :
    ∀ r, ¬ g.after.Finds a r := by
  intro r finds
  have found := finds.found
  have epoch := finds.epoch
  have stamp := finds.stamp
  cases dismisses with
  | @removed s names named done =>
    have gone : (Moment.after ⟨s,.remove names⟩).registry.find? a.field = none := removeGivenGone done named
    cases gone.symm.trans found
  | @cleared s form fields done member =>
    have gone : (Moment.after ⟨s,.clearAhead form⟩).registry.find? a.field = none := clearAheadGone done member
    cases gone.symm.trans found
  | @replaced s attributes rules r' done same =>
    -- The record that takes the place is younger than any that an alarm of old can have.
    have old : a.stamp < s.made := grounds.stamp
    obtain ⟨_,r₁,s₁,o,_,entry,_,rfl,post⟩ := added (Prod.ext done rfl)
    have after : Moment.after ⟨s,.add attributes rules⟩ = s₁.accept r₁ o := post
    obtain ⟨young,_⟩ := enlisted entry
    have registered : (s₁.accept r₁ o).registry.find? a.field = some (r₁.withVerdict o) := by
      rw [← same]
      exact Registry.findUpserted
    rw [after,registered] at found
    cases found
    have younger : (r₁.withVerdict o).stamp = s.made := young
    omega
  | @reset s e resets =>
    have later : s.epoch < (e.run s).2.epoch := (SessionEvent.resetsClears resets).epoch
    have old : a.epoch ≤ s.epoch := grounds.epoch
    have current : a.epoch = (e.run s).2.epoch := epoch
    omega

theorem missedInert {s : Session} {a : Alarm} (gone : ∀ r, ¬ s.Finds a r) : s.expire a = (.ok (),s) := by
  have outcomes := rung s a
  generalize s.expire a = answer at outcomes
  cases outcomes with
  | stale => rfl
  | broken found epoch stamp => exact absurd ⟨found,epoch,stamp⟩ (gone _)
  | heard found epoch stamp => exact absurd ⟨found,epoch,stamp⟩ (gone _)

theorem ringingFollows {s : Session} {target g} (ordered : s.Ordered) (goesOff : GoesOff target s g) :
    s.Follows g.before := by
  obtain ⟨m,scheduler,ticks,drawn,before⟩ := goesOff.way
  rw [before]
  exact (movesFollow ordered ticks.moves).trans (drawnFollows drawn)

/-- An alarm armed before its record went does nothing ever after, be it by a lapse of time or out of its time. -/
theorem goneInert {opening : Session} {newer older : List Moment} {g : Moment} {s a} (opened : opening.Opened)
    (run : opening.Run (newer ++ g :: older) s) (armed : ∃ m ∈ older, m.Arms a)
    (gone : g.Dismisses a ∨ ∀ r, ¬ g.after.Finds a r) :
    s.expire a = (.ok (),s) ∧
    ∀ ms, ∀ ringing ∈ s.ringings (s.scheduler.now + ms), ringing.timer.payload = a →
      ringing.before.expire a = (.ok (),ringing.before) := by
  obtain ⟨before,possible,since⟩ := run.since opened
  have grounds := armedGrounds opened before armed
  have left : ∀ r, ¬ g.after.Finds a r := gone.elim (dismissedGone grounds) id
  have after := grounds.later (eventFollows (runOrdered opened before) possible)
  have never {m : Session} (follows : g.after.Follows m) : m.expire a = (.ok (),m) := by
    refine missedInert fun r finds => ?_
    obtain ⟨r₀,earlier,_⟩ := finds.before follows after.epoch after.stamp
    exact left r₀ earlier
  refine ⟨never since,fun ms ringing member _ => ?_⟩
  exact never (since.trans (ringingFollows (runOrdered opened run) (ringingsGoOff member)))

theorem pendingArms {s s' : Session} {name v given} (filed : s.Filed)
    (ok : s.validateGiven (.text name) v given = (.ok .pending,s')) :
    ∃ r, s.registry.find? name = some r ∧
      Moment.Arms ⟨s,.validate (.text name) v given⟩ ⟨r.stamp,name,v,s.epoch⟩ := by
  have after : Moment.after ⟨s,.validate (.text name) v given⟩ = s' := congrArg Prod.snd ok
  obtain ⟨r,found,queued⟩ := pendingTimer filed ok
  rw [← after] at queued
  exact ⟨r,found,_,queued,Nat.le_refl _,rfl⟩

def dropped : SessionEvent := .remove (.list [.text "x"])

theorem renewedInert : ∃ opening past s a, Opened opening ∧ opening.Run past s ∧ (∃ m ∈ past, m.Arms a) ∧
    s.scheduler.pending = 1 ∧ (s.registry.find? a.field).isSome = true ∧ s.expire a = (.ok (),s) := by
  have run := smallFieldRun false
  have opened := smallOpened false
  have waits : ((smallField false).validateGiven (.text "x") (.text "b") .null).1.toOption = some .pending := by
    decide +kernel
  have removed : (dropped.run (retyped.run (smallField false)).2).1.toOption = some () := by decide +kernel
  have queued : (smallEntry.run (dropped.run (retyped.run (smallField false)).2).2).2.scheduler.pending = 1 := by
    decide +kernel
  have again : ((smallEntry.run (dropped.run (retyped.run (smallField false)).2).2).2.registry.find? "x").isSome =
      true := by decide +kernel
  generalize smallField false = s at *
  obtain ⟨r,_,arms⟩ := pendingArms (runOrdered opened run).toFiled (Prod.ext (answered waits) rfl)
  have later : (smallPage false).Run _ (smallEntry.run (dropped.run (retyped.run s).2).2).2 :=
    .next (.next (.next run retyped nofun) dropped nofun) smallEntry nofun
  refine ⟨_,_,_,_,opened,later,⟨_,.tail _ (.tail _ (.head _)),arms⟩,queued,again,?_⟩
  have gone : Moment.Dismisses ⟨r.stamp,"x",.text "b",s.epoch⟩ ⟨(retyped.run s).2,dropped⟩ :=
    .removed (.head _) (answered removed)
  exact (@goneInert _ [_] _ _ _ _ opened later ⟨_,.head _,arms⟩ (.inl gone)).1

end Session
end FormGuard
