import FormGuard.Session.Hook
import Mathlib.Data.List.Induction
import Mathlib.Data.List.Nodup
import Mathlib.Data.List.TakeWhile

/-! The subscriptions of a hook against the listeners that it calls. Ending a subscription takes out the first listener that is
equal to its own, so the hook calls the listeners of the live subscriptions, in the order in which those were made, as long as no
subscription is ended out of its turn: not in the place of one made later, nor in front of other listeners that stand between the
two. -/
namespace FormGuard

inductive HookUse (α : Type) where
  | subscribe (listener : α)
  | unsubscribe (number : Nat)

structure Subscription (α : Type) where
  listener : α
  ended : Bool

namespace Subscription
variable {α : Type}

def live (made : List (Subscription α)) : List α := (made.filter (!·.ended)).map (·.listener)

theorem liveAppend (older newer : List (Subscription α)) : live (older ++ newer) = live older ++ live newer := by
  unfold live
  rw [List.filter_append,List.map_append]

theorem parted {made : List (Subscription α)} {number : Nat} {c : Subscription α} (found : made[number]? = some c) :
    made.take number ++ c :: made.drop (number + 1) = made := by
  obtain ⟨inside,here⟩ := List.getElem?_eq_some_iff.1 found
  rw [← here,List.getElem_cons_drop,List.take_append_drop]

theorem liveEnded {c : Subscription α} (newer : List (Subscription α)) (ended : c.ended = true) :
    live (c :: newer) = live newer := by
  simp [live,ended]

theorem liveSubset (made : List (Subscription α)) : live made ⊆ made.map (·.listener) :=
  List.map_subset _ List.filter_sublist.subset

end Subscription

structure Subscribers (α : Type) where
  hook : Hook α
  made : List (Subscription α)

section Erasing
variable {α : Type} {older newer : List α} {listener : α}

theorem turnedOver : older ++ listener :: newer = listener :: (older ++ newer) ↔ ∀ l ∈ older, l = listener := by
  induction older with
  | nil => simp
  | cons l rest ih =>
    rw [List.forall_mem_cons,← ih,List.cons_append,List.cons_append,List.cons.injEq]
    refine and_congr_right fun same => ?_
    rw [same]

theorem eraseOwn [DecidableEq α] : (older ++ listener :: newer).erase listener = older ++ newer ↔
    ∀ l ∈ older.dropWhile (· ≠ listener), l = listener := by
  induction older with
  | nil => simp
  | cons l rest ih =>
    by_cases same : l = listener
    · subst same
      rw [List.cons_append,List.erase_cons_head,List.dropWhile_cons_of_neg (by simp),List.forall_mem_cons]
      exact turnedOver.trans (by simp)
    · rw [List.cons_append,List.erase_cons_tail (by simpa using same),List.dropWhile_cons_of_pos (by simpa using same),← ih,
        List.cons_append,List.cons.injEq]
      simp

end Erasing

namespace Subscription
variable {α : Type} [DecidableEq α]

theorem endOwn (older newer : List (Subscription α)) (c : Subscription α) :
    (live (older ++ c :: newer)).erase c.listener = live (older ++ { c with ended := true } :: newer) ↔
      if c.ended then c.listener ∉ live (older ++ c :: newer)
      else ∀ l ∈ (live older).dropWhile (· ≠ c.listener), l = c.listener := by
  split
  next ended => rw [liveAppend,liveAppend,liveEnded newer ended,liveEnded newer rfl,List.erase_eq_self_iff]
  next going =>
    have own : live (c :: newer) = c.listener :: live newer := by simp [live,going]
    rw [liveAppend,liveAppend,own,liveEnded newer rfl,eraseOwn]

end Subscription

namespace Subscribers
variable {α : Type} [DecidableEq α]

def silent : Subscribers α := ⟨.silent,[]⟩

def use (s : Subscribers α) : HookUse α → Subscribers α
  | .subscribe listener => ⟨s.hook.subscribe listener,s.made ++ [⟨listener,false⟩]⟩
  | .unsubscribe number =>
    match s.made[number]? with
    | none => s
    | some c => ⟨s.hook.unsubscribe c.listener,s.made.set number { c with ended := true }⟩

def Faithful (s : Subscribers α) : Prop := s.hook.listeners = Subscription.live s.made

/-- A subscription is ended in its turn: only equal listeners stand between it and the first of its listener, or, when it has
been ended before, no other subscription of its listener is live. -/
def InTurn (s : Subscribers α) : HookUse α → Prop
  | .subscribe _ => True
  | .unsubscribe number => ∀ c ∈ s.made[number]?,
    if c.ended then c.listener ∉ Subscription.live s.made
    else ∀ l ∈ (Subscription.live (s.made.take number)).dropWhile (· ≠ c.listener), l = c.listener

instance (s : Subscribers α) : (u : HookUse α) → Decidable (s.InTurn u)
  | .subscribe _ => .isTrue trivial
  | .unsubscribe number => inferInstanceAs (Decidable (∀ c ∈ s.made[number]?, if c.ended then _ else _))

theorem useFaithful {s : Subscribers α} (faithful : s.Faithful) (u : HookUse α) : (s.use u).Faithful ↔ s.InTurn u := by
  cases u with
  | subscribe listener =>
    refine iff_of_true ?_ trivial
    change s.hook.listeners ++ [listener] = _
    rw [show s.hook.listeners = _ from faithful,use,Subscription.liveAppend]
    rfl
  | unsubscribe number =>
    cases found : s.made[number]? with
    | none => exact iff_of_true (by rwa [use,found]) (by simp [InTurn,found])
    | some c =>
      have inside := (List.getElem?_eq_some_iff.1 found).1
      have ending := Subscription.endOwn (s.made.take number) (s.made.drop (number + 1)) c
      rw [Subscription.parted found] at ending
      rw [use,found]
      simp only [InTurn,found,Option.mem_some_iff,forall_eq']
      change s.hook.listeners.erase c.listener = Subscription.live (s.made.set number _) ↔ _
      rw [List.set_eq_take_append_cons_drop,if_pos inside,show s.hook.listeners = _ from faithful]
      exact ending

theorem madeKept (s : Subscribers α) (number : Nat) :
    (s.use (.unsubscribe number)).made.map (·.listener) = s.made.map (·.listener) := by
  rw [use]
  split
  · rfl
  next c found =>
    obtain ⟨inside,here⟩ := List.getElem?_eq_some_iff.1 found
    have inside : number < (s.made.map (·.listener)).length := by rwa [List.length_map]
    have own : c.listener = (s.made.map (·.listener))[number] := by rw [List.getElem_map,here]
    rw [List.map_set,own,List.set_getElem_self]

theorem ownListeners {s : Subscribers α} (distinct : (s.made.map (·.listener)).Nodup) (u : HookUse α) : s.InTurn u := by
  cases u with
  | subscribe _ => trivial
  | unsubscribe number =>
    intro c found
    rw [← Subscription.parted found,List.map_append,List.map_cons,List.nodup_middle] at distinct
    obtain ⟨older,newer⟩ : c.listener ∉ Subscription.live (s.made.take number) ∧
        c.listener ∉ Subscription.live (s.made.drop (number + 1)) := by
      have alone := (List.nodup_cons.1 distinct).1
      rw [List.mem_append,not_or] at alone
      exact ⟨fun mem => alone.1 (Subscription.liveSubset _ mem),fun mem => alone.2 (Subscription.liveSubset _ mem)⟩
    split
    next ended =>
      rw [← Subscription.parted found,Subscription.liveAppend,Subscription.liveEnded _ ended,List.mem_append,not_or]
      exact ⟨older,newer⟩
    next =>
      have none : (Subscription.live (s.made.take number)).dropWhile (· ≠ c.listener) = [] :=
        List.dropWhile_eq_nil_iff.2 fun l mem => decide_eq_true fun same : l = c.listener => older (same ▸ mem)
      rw [none]
      exact List.forall_mem_nil _

end Subscribers

inductive HookCall (α : Type) where
  | use (what : HookUse α)
  | fire (during : List (List (HookUse α)))

structure Used (α : Type) where
  before : Subscribers α
  what : HookUse α

structure Firing (α : Type) where
  before : Subscribers α
  called : List α

structure HookRun (α : Type) where
  now : Subscribers α
  uses : List (Used α)
  firings : List (Firing α)

namespace HookRun
variable {α : Type} [DecidableEq α]

def start : HookRun α := ⟨.silent,[],[]⟩

def use (r : HookRun α) (what : HookUse α) : HookRun α := ⟨r.now.use what,⟨r.now,what⟩ :: r.uses,r.firings⟩

def callEach : List α → List (List (HookUse α)) → HookRun α → List α × HookRun α
  | [],_,r => ([],r)
  | listener :: rest,during,r =>
    let (called,r) := callEach rest during.tail ((during.headD []).foldl use r)
    (listener :: called,r)

def fire (r : HookRun α) (during : List (List (HookUse α))) : HookRun α :=
  let (called,after) := callEach r.now.hook.listeners during r
  { after with firings := ⟨r.now,called⟩ :: after.firings }

def call (r : HookRun α) : HookCall α → HookRun α
  | .use what => r.use what
  | .fire during => r.fire during

def after (calls : List (HookCall α)) : HookRun α := calls.foldl call start

def Orderly (r : HookRun α) : Prop := ∀ u ∈ r.uses, u.before.InTurn u.what

structure Sound (r : HookRun α) : Prop where
  orderly : r.Orderly ↔ ∀ u ∈ r.uses, (u.before.use u.what).Faithful
  now : r.Orderly → r.now.Faithful
  called : ∀ f ∈ r.firings, f.called = f.before.hook.listeners
  fired : r.Orderly → ∀ f ∈ r.firings, f.before.Faithful

theorem startSound : (start : HookRun α).Sound where
  orderly := by simp [Orderly,start]
  now _ := rfl
  called := by simp [start]
  fired := by simp [start]

theorem useSound {r : HookRun α} (sound : r.Sound) (what : HookUse α) : (r.use what).Sound := by
  have split : (r.use what).Orderly ↔ r.now.InTurn what ∧ r.Orderly := List.forall_mem_cons
  have joined : (∀ u ∈ (r.use what).uses, (u.before.use u.what).Faithful) ↔
      (r.now.use what).Faithful ∧ ∀ u ∈ r.uses, (u.before.use u.what).Faithful := List.forall_mem_cons
  refine ⟨?_,fun orderly => ?_,sound.called,fun orderly => sound.fired (split.1 orderly).2⟩
  · calc (r.use what).Orderly
      _ ↔ r.now.InTurn what ∧ r.Orderly := split
      _ ↔ (r.now.use what).Faithful ∧ r.Orderly :=
        and_congr_left fun orderly => (Subscribers.useFaithful (sound.now orderly) what).symm
      _ ↔ (r.now.use what).Faithful ∧ ∀ u ∈ r.uses, (u.before.use u.what).Faithful := and_congr_right' sound.orderly
      _ ↔ ∀ u ∈ (r.use what).uses, (u.before.use u.what).Faithful := joined.symm
  · obtain ⟨turn,orderly⟩ := split.1 orderly
    exact (Subscribers.useFaithful (sound.now orderly) what).2 turn

theorem calledAll (listeners : List α) (during : List (List (HookUse α))) (r : HookRun α) :
    (callEach listeners during r).1 = listeners := by
  induction listeners generalizing during r with
  | nil => rfl
  | cons listener rest ih => exact congrArg (listener :: ·) (ih _ _)

theorem callEachKeeps {P : HookRun α → Prop} (keeps : ∀ r what, P r → P (r.use what)) (listeners : List α)
    (during : List (List (HookUse α))) {r : HookRun α} (holds : P r) : P (callEach listeners during r).2 := by
  have uses (what : List (HookUse α)) {r : HookRun α} (holds : P r) : P (what.foldl use r) := by
    induction what generalizing r with
    | nil => exact holds
    | cons first rest ih => exact ih (keeps r first holds)
  induction listeners generalizing during r with
  | nil => exact holds
  | cons listener rest ih => exact ih _ (uses _ holds)

theorem callEachFirings (listeners : List α) (during : List (List (HookUse α))) (r : HookRun α) :
    (callEach listeners during r).2.firings = r.firings :=
  callEachKeeps (P := (·.firings = r.firings)) (fun _ _ same => same) listeners during rfl

theorem fireSound {r : HookRun α} (sound : r.Sound) (during : List (List (HookUse α))) : (r.fire during).Sound := by
  have after := callEachKeeps (P := Sound) (fun _ what sound => useSound sound what) r.now.hook.listeners during sound
  -- what the listeners do comes on top of the uses before the firing
  have kept : r.uses ⊆ (r.fire during).uses :=
    callEachKeeps (P := (r.uses ⊆ ·.uses)) (fun _ _ kept => List.Subset.trans kept (List.subset_cons_self _ _))
      r.now.hook.listeners during (List.Subset.refl _)
  refine ⟨after.orderly,after.now,List.forall_mem_cons.2 ⟨calledAll _ _ _,after.called⟩,fun orderly => ?_⟩
  exact List.forall_mem_cons.2 ⟨sound.now fun u mem => orderly u (kept mem),after.fired orderly⟩

theorem callSound {r : HookRun α} (sound : r.Sound) (c : HookCall α) : (r.call c).Sound := by
  cases c with
  | use what => exact useSound sound what
  | fire during => exact fireSound sound during

theorem afterCall (calls : List (HookCall α)) (c : HookCall α) : after (calls ++ [c]) = (after calls).call c :=
  List.foldl_concat _ _ _ _

theorem afterSound (calls : List (HookCall α)) : (after calls).Sound := by
  induction calls using List.reverseRecOn with
  | nil => exact startSound
  | append_singleton calls c ih => exact (afterCall calls c) ▸ callSound ih c

/-- A hook calls, in the order of the subscriptions and once for each, the listeners of those that are live when it is fired, as
long as each subscription is ended in its turn: no other condition will do for every use of the hook. -/
theorem subscriptionsIndependent (calls : List (HookCall α)) :
    (∀ f ∈ (after calls).firings, f.called = f.before.hook.listeners) ∧
    ((∀ u ∈ (after calls).uses, u.before.InTurn u.what) ↔ ∀ u ∈ (after calls).uses, (u.before.use u.what).Faithful) ∧
    ((∀ u ∈ (after calls).uses, u.before.InTurn u.what) →
      ∀ f ∈ (after calls).firings, f.called = Subscription.live f.before.made) := by
  have sound := afterSound calls
  refine ⟨sound.called,sound.orderly,fun orderly f mem => ?_⟩
  exact (sound.called f mem).trans (sound.fired orderly f mem)

def crossed : List (HookCall String) :=
  [.use (.subscribe "a"),.use (.subscribe "b"),.use (.subscribe "a"),.use (.unsubscribe 0),.fire [[.unsubscribe 1]],
    .use (.unsubscribe 1),.fire []]

theorem crossedIndependent : (∀ u ∈ (after crossed).uses, u.before.InTurn u.what) ∧
    (∀ f ∈ (after crossed).firings, f.called = Subscription.live f.before.made) ∧
    (after crossed).firings.map (·.called) = [["a"],["b","a"]] := by
  have turns : ∀ u ∈ (after crossed).uses, u.before.InTurn u.what := by decide
  exact ⟨turns,(subscriptionsIndependent crossed).2.2 turns,by decide⟩

/-- One of two equal listeners is ended twice, and the other is no longer called. -/
theorem endedTwice : ¬ ∀ calls : List (HookCall String),
    ∀ f ∈ (after calls).firings, f.called = Subscription.live f.before.made := by
  intro faithful
  have same := faithful
    [.use (.subscribe "a"),.use (.subscribe "a"),.use (.unsubscribe 0),.use (.unsubscribe 0),.fire []]
  revert same
  decide

end HookRun

namespace Switchboard

structure Wired (b : Switchboard) (numbers : String → Nat) (s : Subscribers String) : Prop where
  hook : b.hook = s.hook
  named : ∀ name listener, b.subscriptions.get? name = some listener →
    (s.made.map (·.listener))[numbers name]? = some listener

variable {b after : Switchboard} {numbers : String → Nat}

theorem wiredSubscribe {s : Subscribers String} (wired : b.Wired numbers s) (name listener : String) (ending : Option String) :
    (b.subscribe name listener ending).Wired (Function.update numbers name s.made.length) (s.use (.subscribe listener)) where
  hook := by rw [subscribe,Subscribers.use,wired.hook]
  named other heard found := by
    rw [subscribe,Table.getAfterPut] at found
    rw [Subscribers.use,List.map_append]
    split at found
    next same =>
      cases found
      rw [same,Function.update_self,← List.length_map (·.listener)]
      exact List.getElem?_concat_length
    next different =>
      have here := wired.named other _ found
      rw [Function.update_of_ne different,List.getElem?_append_left (List.getElem?_eq_some_iff.1 here).1]
      exact here

theorem wiredUnsubscribe {s : Subscribers String} (wired : b.Wired numbers s) {name : String}
    (ended : b.unsubscribe name = .ok after) : after.Wired numbers (s.use (.unsubscribe (numbers name))) := by
  unfold unsubscribe at ended
  split at ended
  · cases ended
  next listener found =>
    cases ended
    have meant := wired.named name listener found
    rw [List.getElem?_map,Option.map_eq_some_iff] at meant
    obtain ⟨c,here,rfl⟩ := meant
    refine ⟨?_,fun other listener found => ?_⟩
    · simp only [Subscribers.use,here,wired.hook]
    · rw [Subscribers.madeKept]
      exact wired.named other listener found

open HookRun (callEach)

theorem wiredCall {r : HookRun String} (wired : b.Wired numbers r.now) {listener : String}
    (called : b.call listener = .ok after) :
    ∃ uses : List (HookUse String), after.Wired numbers (uses.foldl HookRun.use r).now := by
  unfold call at called
  split at called
  · cases called
    exact ⟨[],wired⟩
  next name _ => exact ⟨[.unsubscribe (numbers name)],wiredUnsubscribe wired called⟩

theorem wiredCallAll {r : HookRun String} (wired : b.Wired numbers r.now) {listeners called : List String}
    (done : callAll listeners b = ((.ok (),called),after)) :
    ∃ during, (callEach listeners during r).1 = called ∧ after.Wired numbers (callEach listeners during r).2.now := by
  induction listeners generalizing b r called with
  | nil =>
    cases done
    exact ⟨[],rfl,wired⟩
  | cons listener rest ih =>
    unfold callAll at done
    split at done
    · cases done
    next b' first =>
      obtain ⟨uses,wired⟩ := wiredCall wired first
      rcases others : callAll rest b' with ⟨⟨answer,names⟩,final⟩
      rw [others] at done
      cases done
      obtain ⟨during,same,wired⟩ := ih wired others
      exact ⟨uses :: during,congrArg (listener :: ·) same,wired⟩

inductive Runs : Switchboard → List (List String) → Prop where
  | silent : Runs .silent []
  | subscribe {b fired} (name listener : String) (ending : Option String) (run : Runs b fired) :
      Runs (b.subscribe name listener ending) fired
  | unsubscribe {b after fired} {name : String} (run : Runs b fired) (ended : b.unsubscribe name = .ok after) : Runs after fired
  | fire {b after fired} {called : List String} (run : Runs b fired) (done : b.fire = ((.ok (),called),after)) :
      Runs after (called :: fired)

theorem runFollows {fired : List (List String)} (run : Runs b fired) : ∃ calls numbers,
    b.Wired numbers (HookRun.after calls).now ∧ (HookRun.after calls).firings.map (·.called) = fired := by
  induction run with
  | silent => exact ⟨[],fun _ => 0,⟨rfl,fun _ _ found => nomatch found⟩,rfl⟩
  | subscribe name listener ending _ ih =>
    obtain ⟨calls,numbers,wired,same⟩ := ih
    refine ⟨calls ++ [.use (.subscribe listener)],Function.update numbers name (HookRun.after calls).now.made.length,?_⟩
    rw [HookRun.afterCall]
    exact ⟨wiredSubscribe wired name listener ending,same⟩
  | @unsubscribe _ _ _ name _ ended ih =>
    obtain ⟨calls,numbers,wired,same⟩ := ih
    refine ⟨calls ++ [.use (.unsubscribe (numbers name))],numbers,?_⟩
    rw [HookRun.afterCall]
    exact ⟨wiredUnsubscribe wired ended,same⟩
  | fire _ done ih =>
    obtain ⟨calls,numbers,wired,same⟩ := ih
    rw [fire,wired.hook] at done
    obtain ⟨during,called,next⟩ := wiredCallAll wired done
    refine ⟨calls ++ [.fire during],numbers,?_⟩
    rw [HookRun.afterCall]
    refine ⟨next,?_⟩
    change _ :: List.map _ (callEach _ during (HookRun.after calls)).2.firings = _
    rw [HookRun.callEachFirings,same]
    exact congrArg (· :: _) called

end Switchboard

end FormGuard
