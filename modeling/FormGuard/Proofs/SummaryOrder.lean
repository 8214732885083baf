import FormGuard.Proofs.SummaryAgreement
import FormGuard.Proofs.TimePassing
import Mathlib.Data.List.Chain

/-! The order of the summary. From one moment to the next some fields leave it, the others keep their order, and at most one
field comes, which is put last. What stands in the summary is therefore in the order in which the stays began. -/
namespace FormGuard

def InLine (before after : List String) : Prop :=
  ∃ fresh : List String, after = before.filter (· ∈ after) ++ fresh ∧ fresh.length ≤ 1 ∧ ∀ name ∈ fresh, name ∉ before

def Thins (before after : List String) : Prop := after = before.filter (· ∈ after)

theorem Thins.refl (names : List String) : Thins names names := (List.filter_eq_self.mpr (by simp)).symm

theorem Thins.trans {a b c : List String} (first : Thins a b) (second : Thins b c) : Thins a c := by
  have inside : ∀ name, name ∈ c → name ∈ b := fun name member => by
    rw [second] at member
    exact (List.mem_filter.mp member).1
  calc
    c = b.filter (· ∈ c) := second
    _ = (a.filter (· ∈ b)).filter (· ∈ c) := by rw [← first]
    _ = a.filter (· ∈ c) := by
      rw [List.filter_filter]
      refine List.filter_congr fun name _ => ?_
      have := inside name
      by_cases name ∈ c <;> simp_all

theorem Thins.inLine {a b : List String} (thins : Thins a b) : InLine a b :=
  ⟨[],by rw [List.append_nil]; exact thins,Nat.zero_le _,by simp⟩

theorem dropThins {α} (t : Table α) (name : String) : Thins t.names (t.drop name).names := by
  unfold Thins
  rw [Table.namesDrop]
  refine List.filter_congr fun n member => ?_
  by_cases n = name <;> simp_all

theorem putInLine {α} (t : Table α) (name : String) (a : α) : InLine t.names (t.put name a).names := by
  rw [Table.namesPut]
  split
  · exact (Thins.refl _).inLine
  · rename_i absent
    refine ⟨[name],?_,Nat.le_refl _,by simpa using absent⟩
    rw [List.filter_eq_self.mpr fun n member => by simp [member]]

theorem upsertInLine (s : Summary) (e : SummaryEntry) : InLine s.entries.names (s.upsert e).entries.names := by
  unfold Summary.upsert
  split
  · exact (dropThins _ _).inLine
  · exact putInLine _ _ _

namespace Session

def listed (s : Session) : List String := s.summary.entries.names

variable {s s' : Session}

theorem Judges.inLine {r o state} (judged : Judges s s' r o state) : InLine s.listed s'.listed := by
  unfold listed
  rw [judged.entries]
  exact upsertInLine _ _

theorem QuietStep.thins (step : s.QuietStep s') : Thins s.listed s'.listed := by
  cases step with
  | aside same =>
    rw [listed,listed,same.summary]
    exact .refl _
  | discard name =>
    rw [removeEq]
    exact dropThins _ _
  | reject e =>
    rw [listed,listed,rejectSummary]
    exact .refl _
  | abandon name =>
    cases found : s.registry.find? name with
    | none =>
      rw [abandonAbsent found]
      exact .refl _
    | some r =>
      rw [abandonEq found]
      exact .refl _

theorem Quiet.thins (quiet : s.Quiet s') : Thins s.listed s'.listed := by
  induction quiet with
  | refl => exact .refl _
  | tail _ step ih => exact ih.trans step.thins

theorem Clears.listed (clears : s.Clears s') : s'.listed = [] := by
  cases clears <;> rfl

theorem expireInLine (s : Session) (a : Alarm) : InLine s.listed (s.expire a).2.listed := by
  have outcomes := rung s a
  generalize s.expire a = answer at outcomes
  cases outcomes with
  | stale => exact (Thins.refl _).inLine
  | broken => exact (Thins.refl _).inLine
  | heard _ _ _ answered => exact (heardJudges answered).inLine

theorem firedInLine {target : Int} {count n : Nat} (ok : fireUntil target count s = (.ok n,s')) :
    (s.listed :: ((s.ringings target).map fun g => g.after.listed) ++ [s'.listed]).IsChain InLine := by
  fun_induction fireUntil target count s with
  | case1 count s idle =>
    cases ok
    rw [ringingsIdle idle]
    exact .cons_cons (Thins.refl _).inLine (.singleton _)
  | case2 count s t scheduler drawn due dead ih =>
    rw [ringingsLapse drawn dead]
    exact ih ok
  | case3 => cases ok
  | case4 count s t scheduler drawn due live done ih =>
    rw [ringingsRing drawn (by simpa using live) done]
    exact .cons_cons (expireInLine due t.payload) (ih ok)

end Session

namespace SessionEvent
open Session

/-- Where the session stands after each step of the event, the latest first; a lapse of time makes a step with every alarm. -/
def stages : SessionEvent → Session → List Session
  | advance ms,s => (s.advance ms).2 :: ((s.ringings (s.scheduler.now + ms)).map Ringing.after).reverse
  | e,s => [(e.run s).2]

theorem stagesTimeless {e : SessionEvent} (timeless : ∀ ms, e ≠ advance ms) (s : Session) : e.stages s = [(e.run s).2] := by
  cases e <;> first | exact absurd rfl (timeless _) | rfl

end SessionEvent

namespace Session

/-- Where the session has stood so far, the latest first. -/
def stages (opening : Session) (past : List Moment) : List Session :=
  past.flatMap (fun m => m.event.stages m.before) ++ [opening]

def began (name : String) (stages : List Session) : Nat := (stages.dropWhile fun s => name ∈ s.listed).length

variable {s s' : Session}

theorem beganStays {name : String} {s : Session} (stays : name ∈ s.listed) (earlier : List Session) :
    began name (s :: earlier) = began name earlier := by
  simp [began,stays]

theorem beganFresh {name : String} {s : Session} (out : name ∉ s.listed) (earlier : List Session) :
    began name (s :: earlier) = earlier.length + 1 := by
  simp [began,out]

theorem beganWithin (name : String) (stages : List Session) : began name stages ≤ stages.length :=
  (List.dropWhile_suffix _).length_le

theorem beganOrdered {stages : List Session} (chain : stages.IsChain fun later earlier => InLine earlier.listed later.listed)
    (blank : ∀ opening, stages.getLast? = some opening → opening.listed = []) :
    ∀ s earlier, stages = s :: earlier → s.listed.Pairwise fun f g => began f stages < began g stages := by
  induction stages with
  | nil => nofun
  | cons s earlier ih =>
    rintro _ _ ⟨⟩
    cases earlier with
    | nil => simp [blank s rfl]
    | cons m rest =>
      obtain ⟨follows,chain⟩ := List.isChain_cons_cons.mp chain
      have before := ih chain (fun opening last => blank opening (by rwa [List.getLast?_cons_cons])) m rest rfl
      have stays {f} (member : f ∈ m.listed.filter (· ∈ s.listed)) : began f (s :: m :: rest) = began f (m :: rest) :=
        beganStays (by simpa using (List.mem_filter.mp member).2) _
      obtain ⟨fresh,whole,few,new⟩ := follows
      have comes {g} (member : g ∈ fresh) : began g (s :: m :: rest) = rest.length + 1 := by
        rw [beganStays (by rw [whole]; exact List.mem_append_right _ member),beganFresh (new g member)]
      rw [whole,List.pairwise_append]
      refine ⟨?_,?_,fun f member g member' => ?_⟩
      · exact (before.filter _).imp_of_mem fun left right less => by rwa [stays left,stays right]
      · match fresh,few with
        | [],_ => exact .nil
        | [_],_ => exact List.pairwise_singleton _ _
      · rw [stays member,comes member',beganStays (List.mem_filter.mp member).1]
        exact Nat.lt_succ_of_le (beganWithin f rest)

theorem validatedInLine {name v event state} (ok : s.validate name v event = (.ok state,s')) :
    InLine s.listed s'.listed := by
  have outcomes := noted s name v event
  rw [ok] at outcomes
  cases outcomes with
  | excused _ answered => exact (settleJudges s name .valid answered).inLine
  | shown _ answered => exact (showJudges s name answered).inLine
  | postponed _ answered => exact ((settleJudges s name .pending answered).arm _ _).inLine

theorem Course.inLine {e : SessionEvent} (course : Course e s (e.run s).2) (smooth : ¬ e.BreaksDown s) :
    (e.stages s ++ [s]).IsChain fun later earlier => InLine earlier.listed later.listed := by
  have single (timeless : ∀ ms, e ≠ .advance ms) (follows : InLine s.listed (e.run s).2.listed) :
      (e.stages s ++ [s]).IsChain fun later earlier => InLine earlier.listed later.listed := by
    rw [SessionEvent.stagesTimeless timeless]
    exact .cons_cons follows (.singleton _)
  generalize post : (e.run s).2 = s' at course single
  cases course with
  | silent _ timeless _ quiet => exact single timeless quiet.thins.inLine
  | resets resets clears =>
    refine single (by rintro ms rfl; contradiction) (Thins.inLine ?_)
    rw [clears.listed]
    simp [Thins]
  | enrols adding _ entry answered => exact single (by simp [adding]) (enrolJudges entry answered).inLine
  | retunes rebinding _ entry answered => exact single (by simp [rebinding]) (retuneJudges entry answered).inLine
  | enters entering ok => exact single (by simp [entering]) (validatedInLine ok)
  | @elapses ms _ _ passing ok =>
    subst passing
    obtain rfl : s' = (s.advance ms).2 := (congrArg Prod.snd ok).symm
    have forward : (s :: (s.ringings (s.scheduler.now + ms)).map Ringing.after ++ [(s.advance ms).2]).IsChain
        fun earlier later => InLine earlier.listed later.listed := by
      rw [← List.isChain_map]
      simpa [Function.comp_def] using firedInLine ok
    simpa [SessionEvent.stages] using List.isChain_reverse.mpr forward
  | @late a _ sounding _ ok =>
    have follows := expireInLine s a
    rw [ok] at follows
    exact single (by simp [sounding]) follows
  | breaks broke => exact absurd broke smooth

theorem stagesNext (opening : Session) (m : Moment) (past : List Moment) :
    stages opening (m :: past) = m.event.stages m.before ++ stages opening past := by
  simp [stages]

theorem runInLine {opening : Session} {past} (run : opening.Run past s) (smooth : Smooth past) :
    (∃ earlier, stages opening past = s :: earlier) ∧
    (stages opening past).IsChain fun later earlier => InLine earlier.listed later.listed := by
  induction run with
  | start => exact ⟨⟨[],rfl⟩,.singleton _⟩
  | @next past s before e possible ih =>
    obtain ⟨⟨earlier,stands⟩,chain⟩ := ih smooth.tail
    have follow := (eventCourse possible).inLine smooth.head
    obtain ⟨on,first⟩ : ∃ on, e.stages s = (e.run s).2 :: on := by cases e <;> exact ⟨_,rfl⟩
    rw [stagesNext]
    refine ⟨⟨on ++ stages opening past,by rw [first]; rfl⟩,?_⟩
    rw [stands]
    rw [stands] at chain
    exact List.isChain_split.mpr ⟨follow,chain⟩

structure Keeps (s : Session) : Prop where
  ordered : s.Ordered
  agrees : s.Agrees

theorem Keeps.moves (h : s.Keeps) (moves : s.Moves s') : s'.Keeps := ⟨h.ordered.moves moves,h.agrees.moves h.ordered moves⟩

theorem Keeps.stages (h : s.Keeps) {e : SessionEvent} (possible : e.Possible s) (smooth : ¬ e.BreaksDown s) :
    ∀ m ∈ e.stages s, m.Keeps := by
  have last : (e.run s).2.Keeps := ⟨h.ordered.event possible,h.agrees.event h.ordered possible smooth⟩
  by_cases passing : ∃ ms, e = .advance ms
  · obtain ⟨ms,rfl⟩ := passing
    obtain ⟨n,ok⟩ : ∃ n, s.advance ms = (.ok n,(s.advance ms).2) := by
      cases answer : (s.advance ms).1 with
      | ok n => exact ⟨n,Prod.ext answer rfl⟩
      | error f => exact absurd (.inl ⟨ms,f,rfl,answer⟩) smooth
    intro m member
    simp only [SessionEvent.stages,List.mem_cons,List.mem_reverse,List.mem_map] at member
    rcases member with rfl | ⟨g,goesOff,rfl⟩
    · exact last
    · obtain ⟨⟨k,scheduler,ticks,drawn,before⟩,live⟩ := ringingsGoOff goesOff
      have rang : g.before.expire g.timer.payload = (.ok (),g.after) := Prod.ext (firedRings ok g goesOff) rfl
      rw [before] at rang
      exact (h.moves ticks.moves).moves (.single (.ring drawn live rang))
  · rw [SessionEvent.stagesTimeless fun ms same => passing ⟨ms,same⟩]
    exact fun m member => List.mem_singleton.mp member ▸ last

theorem runKeeps {opening : Session} {past} (opened : opening.Opened) (run : opening.Run past s) (smooth : Smooth past) :
    ∀ m ∈ stages opening past, m.Keeps := by
  induction run with
  | start =>
    intro m member
    rw [List.mem_singleton.mp member]
    exact ⟨openedOrdered opened,runAgrees opened .start smooth⟩
  | @next past s before e possible ih =>
    intro m member
    rw [stagesNext] at member
    rcases List.mem_append.mp member with new | old
    · have keeps : s.Keeps := ⟨runOrdered opened before,runAgrees opened before smooth.tail⟩
      exact keeps.stages possible smooth.head m new
    · exact ih smooth.tail m old

theorem Keeps.listed (h : s.Keeps) : s.summary.all.map (·.field) = s.listed ∧ s.listed.Nodup ∧
    ∀ name, name ∈ s.listed ↔ ∃ r, s.registry.find? name = some r ∧ r.isValid = false := by
  refine ⟨?_,h.ordered.summary.distinct,fun name => ?_⟩
  · rw [Summary.all,Table.entries,List.map_map]
    refine List.map_congr_left fun e member => ?_
    exact h.ordered.summary.field (getOfMem h.ordered.summary.distinct member)
  · have entry := h.agrees.entry name
    unfold Summary.get? at entry
    rw [Session.listed,Table.namedIff,entry]
    cases s.registry.find? name with
    | none => simp
    | some r => cases valid : r.isValid <;> simp [Record.entry?,valid]

/-- At every stage the summary lists the invalid fields, each once. From one stage to the next those that stay keep their
order and a new one is put last, so that they stand in the order in which their stays began; the summary of a form is
the part of it that belongs to the form. -/
theorem summaryOrder {opening : Session} {past} (opened : opening.Opened) (run : opening.Run past s) (smooth : Smooth past) :
    (∃ earlier, stages opening past = s :: earlier) ∧
    (∀ m ∈ stages opening past, m.summary.all.map (·.field) = m.listed ∧ m.listed.Nodup ∧
      ∀ name, name ∈ m.listed ↔ ∃ r, m.registry.find? name = some r ∧ r.isValid = false) ∧
    ((stages opening past).IsChain fun later earlier => InLine earlier.listed later.listed) ∧
    (s.listed.Pairwise fun f g => began f (stages opening past) < began g (stages opening past)) ∧
    s.summaryGiven .null = s.summary.all ∧
    ∀ form, s.summaryGiven (.text form) = s.summary.all.filter fun e => e.form = some form := by
  obtain ⟨⟨earlier,stands⟩,chain⟩ := runInLine run smooth
  have blank : ∀ m, (stages opening past).getLast? = some m → m.listed = [] := fun m last => by
    obtain rfl : opening = m := by simpa [stages] using last
    rw [listed,opened.summary]
    rfl
  refine ⟨⟨earlier,stands⟩,fun m member => (runKeeps opened run smooth m member).listed,chain,
    beganOrdered chain blank s earlier stands,rfl,fun form => ?_⟩
  exact List.filter_congr fun e _ => beq_eq_decide _ _

def returningPast : List SessionEvent :=
  [.validate (.text "x") (.text "b") (.text "blur"),.validate (.text "x") (.text "a") (.text "blur"),
    .validate (.text "y") (.text "b") (.text "blur"),.add (.text "y") (.text "letter"),.add (.text "x") (.text "letter")]

theorem returningLast : ((smallPage true).live returningPast).2.listed = ["y","x"] ∧
    began "y" ((smallPage true).stages ((smallPage true).live returningPast).1) <
      began "x" ((smallPage true).stages ((smallPage true).live returningPast).1) := by
  have listed : ((smallPage true).live returningPast).2.listed = ["y","x"] := by decide +kernel
  have run : (smallPage true).Run _ ((smallPage true).live returningPast).2 := liveRun (.inr (by simp [returningPast]))
  have placed := (summaryOrder (smallOpened true) run (by decide +kernel)).2.2.2.1
  rw [listed] at placed
  exact ⟨listed,(List.pairwise_cons.mp placed).1 "x" (.head _)⟩

end Session
end FormGuard
