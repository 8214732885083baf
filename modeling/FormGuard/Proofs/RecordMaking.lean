import FormGuard.Proofs.FormContexts
import FormGuard.Proofs.OwnAttributes
import FormGuard.Proofs.RecordHistory

/-! How the records of a session are made. A record is made of its attributes and of what the session has for all records, its
texts and its usual limit, which stay what they are; it is made in one moment, when its field is registered, and bears the number
of that moment. -/
namespace FormGuard
namespace Session
variable {s s' : Session}

def mint (s : Session) : Translator × Delay × Nat := (s.translator,s.inactivityLimit,s.made)

section Mint

theorem foldMint {α} {f : Session → α → Session} (step : ∀ s a, (f s a).mint = s.mint) (items : List α) (s : Session) :
    (items.foldl f s).mint = s.mint := by
  induction items generalizing s with
  | nil => rfl
  | cons a rest ih => exact (ih (f s a)).trans (step s a)

theorem removeMint (s : Session) (name : String) : (s.remove name).mint = s.mint := by
  rw [removeEq]
  rfl

theorem rejectMint (s : Session) (e : SummaryEntry) : (s.reject e).mint = s.mint := by
  cases found : s.registry.find? e.field with
  | none => rw [rejectAbsent found]
  | some r =>
    rw [rejectEq found]
    rfl

theorem abandonMint (s : Session) (name : String) : (s.abandon name).mint = s.mint := by
  cases found : s.registry.find? name with
  | none =>
    rw [abandonAbsent found]
    rfl
  | some r =>
    rw [abandonEq found]
    rfl

theorem clearPendingMint (s : Session) : s.clearPending.2.mint = s.mint := foldMint abandonMint _ _

theorem transitionMint (s : Session) : s.onTransition.2.mint = s.mint := by
  unfold onTransition
  split
  · rfl
  · exact clearPendingMint s

theorem presentMint (s : Session) (r : Record) (o : FieldOutcome) : (s.present r o).mint = s.mint := by
  rw [presentEq]
  rfl

theorem noteMint (s : Session) (name : String) (r : Record) (o : FieldOutcome) : (s.note name r o).mint = s.mint := by
  rw [noteEq]
  rfl

theorem validateMint (s : Session) (name : String) (v : Value) (event : InputEvent) :
    (s.validate name v event).2.mint = s.mint := by
  have outcomes := noted s name v event
  generalize s.validate name v event = answer at outcomes
  cases outcomes with
  | absent => rfl
  | broken => rfl
  | excused => exact noteMint s _ _ _
  | shown => exact (presentMint _ _ _).trans (noteMint s _ _ _)
  | postponed => exact noteMint s _ _ _

theorem expireMint (s : Session) (a : Alarm) : (s.expire a).2.mint = s.mint := by
  have outcomes := rung s a
  generalize s.expire a = answer at outcomes
  cases outcomes with
  | stale => rfl
  | broken => rfl
  | heard => exact presentMint _ _ _

theorem fireUntilMint (target : Int) (count : Nat) (s : Session) : (fireUntil target count s).2.mint = s.mint := by
  fun_induction fireUntil target count s with
  | case1 => rfl
  | case2 _ _ _ _ _ _ _ ih => exact ih
  | case3 => exact expireMint _ _
  | case4 _ _ _ _ _ _ _ _ ih => exact ih.trans (expireMint _ _)

theorem removeGivenMint (names : Value) (s : Session) : (s.removeGiven names).2.mint = s.mint :=
  removeGivenKeeps (P := fun t => t.mint = s.mint) (fun t name same => (removeMint t name).trans same) (fun _ _ same => same)
    names rfl

theorem checkGivenMint (s : Session) (form : Value) : (s.checkGiven form).2.mint = s.mint := by
  unfold checkGiven check
  split
  · rfl
  · split
    · exact foldMint rejectMint _ s
    · rfl

theorem clearAheadGivenMint (s : Session) (form : Value) : (s.clearAheadGiven form).2.mint = s.mint := by
  unfold clearAheadGiven clearAhead
  split
  · rfl
  · split
    · exact foldMint removeMint _ s
    · rfl

theorem validateGivenMint (s : Session) (name v event : Value) : (s.validateGiven name v event).2.mint = s.mint := by
  by_cases text : ∃ n, name = .text n
  · obtain ⟨n,rfl⟩ := text
    exact validateMint s n v _
  · obtain ⟨_,refused⟩ := validateOther s v event text
    rw [refused]

theorem changedMint {change : Except Fault Session} (kept : ∀ s', change = .ok s' → s'.mint = s.mint) :
    (s.changed change).2.mint = s.mint := by
  cases change with
  | error f => rfl
  | ok s' => exact kept s' rfl

theorem setValueMint (s : Session) (name v : Value) : (s.changed (s.setValueGiven name v)).2.mint = s.mint := by
  refine changedMint fun s' changed => ?_
  unfold setValueGiven at changed
  split at changed
  · cases changed
    rfl
  · split at changed <;> cases changed
    rfl

theorem setDisabledMint (s : Session) (name : Value) (disabled : Bool) :
    (s.changed (s.setDisabledGiven name disabled)).2.mint = s.mint := by
  refine changedMint fun s' changed => ?_
  unfold setDisabledGiven at changed
  split at changed
  · cases changed
    rfl
  · split at changed <;> cases changed
    rfl

theorem setOptionsMint (s : Session) (options : Value) : (s.setOptions options).2.mint = s.mint := by
  unfold setOptions
  split
  · rfl
  · split <;> rfl

theorem discoverGivenMint (s : Session) (rules : Value) : (s.discoverGiven rules).2.mint = s.mint := by
  unfold discoverGiven
  split <;> rfl

theorem judgeSilentlyMint (s : Session) (r : Record) : (s.judgeSilently r).2.mint = s.mint := by
  rw [judgeSilentlyEq]
  split <;> rfl

theorem Read.mint (read : s.Read s') : s'.mint = s.mint := by
  rcases read with rfl | ⟨_,rfl⟩ <;> rfl

theorem rebindGivenMint (s : Session) (name rules : Value) : (s.rebindGiven name rules).2.mint = s.mint := by
  cases spelled : rulesOf rules with
  | error f =>
    unfold rebindGiven
    rw [spelled]
    rfl
  | ok rules' =>
    by_cases text : ∃ n, name = .text n
    · obtain ⟨n,rfl⟩ := text
      have asked : s.rebindGiven (.text n) rules = s.rebind n rules' := by
        unfold rebindGiven
        rw [spelled]
      rw [asked,rebindEq]
      rcases entry : s.retune n rules' with ⟨f | r,s₁⟩
      · exact (retuneFails entry).mint
      · refine (judgeSilentlyMint s₁ r).trans ?_
        obtain ⟨_,_,_,_,_,rfl⟩ := retuned entry
        rfl
    · rw [rebindOther text spelled]
      rfl

end Mint

structure Enters (e : SessionEvent) (s : Session) (own : Value.Fields) (r : Record) (s₁ : Session) : Prop where
  adding : ∃ attributes rules, e = .add attributes rules ∧ attributesGiven attributes rules = .ok own
  entry : s.enlist own = (.ok r,s₁)
  post : (e.run s).2 = (s₁.judgeSilently r).2

theorem addMint (attributes rules : Value) (s : Session) :
    ((SessionEvent.add attributes rules).run s).2.mint = s.mint ∨ ∃ own r s₁, Enters (.add attributes rules) s own r s₁ := by
  have post : ((SessionEvent.add attributes rules).run s).2 = (s.addGiven attributes rules).2 := rfl
  cases given : attributesGiven attributes rules with
  | error f =>
    rw [post,addGivenEq,given]
    exact .inl rfl
  | ok own =>
    have added : s.addGiven attributes rules = s.add own := by rw [addGivenEq,given]
    rcases entry : s.enlist own with ⟨f | r,s₁⟩
    · rw [post,added,addEq,entry]
      exact .inl (enlistFails entry).mint
    · refine .inr ⟨own,r,s₁,⟨_,_,rfl,given⟩,entry,?_⟩
      rw [post,added,addEq,entry]

theorem eventMint (e : SessionEvent) (s : Session) : (e.run s).2.mint = s.mint ∨ ∃ own r s₁, Enters e s own r s₁ := by
  cases e with
  | add attributes rules => exact addMint attributes rules s
  | rebind name rules => exact .inl (rebindGivenMint s name rules)
  | remove names => exact .inl (removeGivenMint names s)
  | validate name v event => exact .inl (validateGivenMint s name v event)
  | check form => exact .inl (checkGivenMint s form)
  | clearAhead form => exact .inl (clearAheadGivenMint s form)
  | setOptions options => exact .inl (setOptionsMint s options)
  | discover rules => exact .inl (discoverGivenMint s rules)
  | clearPending => exact .inl (clearPendingMint s)
  | reset => exact .inl (clearPendingMint s)
  | transition => exact .inl (transitionMint s)
  | fire => exact .inl (foldMint (fun s _ => transitionMint s) _ s)
  | close => exact .inl (clearPendingMint s)
  | setValue name v => exact .inl (setValueMint s name v)
  | setDisabled name disabled => exact .inl (setDisabledMint s name disabled)
  | advance ms => exact .inl (fireUntilMint _ 0 s)
  | late a => exact .inl (expireMint s a)
  | keepOnTransition | lastMessageOnly | drain => exact .inl rfl

theorem enlistedRecord {own r} (entry : s.enlist own = (.ok r,s')) : ∃ r₀ p,
    Attributes.record s.translator s.inactivityLimit s.made (s.options.overlay own) = .ok r₀ ∧
      r = { r₀ with pipeline := some p } := by
  unfold enlist at entry
  split at entry
  · cases entry
  · rename_i r₀ made
    split at entry
    · cases entry
    · rename_i p _ _
      cases entry
      exact ⟨r₀,p,made,rfl⟩

theorem recordBears {t usual stamp attributes r} (ok : Attributes.record t usual stamp attributes = .ok r) :
    r.attributes = attributes := by
  unfold Attributes.record at ok
  dsimp only at ok
  split at ok
  · contradiction
  · split at ok <;> cases ok
    rfl

namespace Enters
variable {e : SessionEvent} {own : Value.Fields} {r r' : Record} {s₁ : Session} {name : String}

theorem mint (enters : Enters e s own r s₁) : (e.run s).2.mint = (s.translator,s.inactivityLimit,s.made + 1) := by
  rw [enters.post,judgeSilentlyMint]
  obtain ⟨_,_,_,_,_,rfl⟩ := enlisted enters.entry
  rfl

theorem registered (enters : Enters e s own r s₁) (found : (e.run s).2.registry.find? name = some r') :
    r.Becomes r' ∨ s.registry.find? name = some r' := by
  have entered : ∀ m r₁, s₁.registry.find? m = some r₁ → r.Becomes r₁ ∨ s.registry.find? m = some r₁ := by
    intro m r₁ found
    obtain ⟨_,_,_,_,_,rfl⟩ := enlisted enters.entry
    have there : (s.registry.upsert r).find? m = some r₁ := found
    rw [Registry.findUpsert] at there
    split at there
    · cases there
      exact .inl (.refl r)
    · exact .inr there
  rw [enters.post,judgeSilentlyEq] at found
  split at found
  · exact entered name r' found
  · rename_i o _
    have there : (s₁.registry.upsert (r.withVerdict o)).find? name = some r' := found
    rw [Registry.findUpsert] at there
    split at there
    · cases there
      exact .inl (.judged r o r.state)
    · exact entered name r' there

end Enters
end Session

def Moment.Makes (m : Moment) (r : Record) : Prop := m.before.made = r.stamp ∧ r.stamp < m.after.made

theorem Record.Becomes.attributes {r r' : Record} (becomes : r.Becomes r') : r'.attributes = r.attributes := by
  have same : r'.origin.attributes = r.origin.attributes := by rw [becomes.origin]
  exact same

theorem Record.Becomes.form {r r' : Record} (becomes : r.Becomes r') : r'.form = r.form := by
  have same : r'.origin.form = r.origin.form := by rw [becomes.origin]
  exact same

namespace Session

structure Minted (past : List Moment) (s : Session) (r : Record) : Prop where
  moment : ∃ m ∈ past, m.Makes r ∧ ∃ own, r.attributes = m.before.options.overlay own
  record : ∃ r₀, Attributes.record s.translator s.inactivityLimit r.stamp r.attributes = .ok r₀ ∧ r₀.Becomes r

theorem Minted.later {past : List Moment} {m : Moment} {r r' : Record} (minted : Minted past s r) (becomes : r.Becomes r')
    (texts : s'.translator = s.translator) (limit : s'.inactivityLimit = s.inactivityLimit) : Minted (m :: past) s' r' := by
  obtain ⟨⟨k,member,makes,own⟩,r₀,made,since⟩ := minted
  refine ⟨⟨k,List.mem_cons_of_mem _ member,?_,?_⟩,r₀,?_,since.trans becomes⟩
  · unfold Moment.Makes
    rw [becomes.stamp]
    exact makes
  · rwa [becomes.attributes]
  · rwa [texts,limit,becomes.stamp,becomes.attributes]

theorem Enters.minted {e : SessionEvent} {own r r' s₁} {past : List Moment} (enters : Enters e s own r s₁)
    (becomes : r.Becomes r') : Minted (⟨s,e⟩ :: past) (e.run s).2 r' := by
  obtain ⟨r₀,p,made,rfl⟩ := enlistedRecord enters.entry
  have mint := enters.mint
  simp only [Session.mint,Prod.mk.injEq] at mint
  obtain ⟨texts,limit,count⟩ := mint
  have stamp : r'.stamp = s.made := becomes.stamp.trans (recorded made).1
  have bears := recordBears made
  have attributes : r'.attributes = s.options.overlay own := becomes.attributes.trans bears
  refine ⟨⟨_,List.mem_cons_self,⟨stamp.symm,?_⟩,own,attributes⟩,r₀,?_,⟨becomes.origin,becomes.handled⟩⟩
  · rw [stamp]
    exact Nat.lt_of_lt_of_eq (Nat.lt_succ_self _) count.symm
  · rwa [texts,limit,stamp,attributes]

theorem eventTexts (e : SessionEvent) (s : Session) :
    (e.run s).2.translator = s.translator ∧ (e.run s).2.inactivityLimit = s.inactivityLimit := by
  rcases eventMint e s with mint | ⟨_,_,_,enters⟩
  · simp only [Session.mint,Prod.mk.injEq] at mint
    exact ⟨mint.1,mint.2.1⟩
  · have mint := enters.mint
    simp only [Session.mint,Prod.mk.injEq] at mint
    exact ⟨mint.1,mint.2.1⟩

theorem descends (ordered : s.Ordered) {e : SessionEvent} (possible : e.Possible s) {name r}
    (found : (e.run s).2.registry.find? name = some r) :
    (∃ r₀, s.registry.find? name = some r₀ ∧ r₀.Becomes r) ∨ ∃ own r₁ s₁, Enters e s own r₁ s₁ ∧ r₁.Becomes r := by
  rcases eventMint e s with mint | ⟨own,r₁,s₁,enters⟩
  · refine .inl (((eventFollows ordered possible).grown name r found).resolve_left fun young => ?_)
    have made := ((ordered.event possible).proper found).made
    simp only [Session.mint,Prod.mk.injEq] at mint
    omega
  · rcases enters.registered found with becomes | registered
    · exact .inr ⟨own,r₁,s₁,enters,becomes⟩
    · exact .inl ⟨r,registered,.refl r⟩

theorem runMinted {opening : Session} {past} (opened : opening.Opened) (run : opening.Run past s) {name r}
    (found : s.registry.find? name = some r) : Minted past s r := by
  induction run generalizing name r with
  | start =>
    rw [opened.registry] at found
    contradiction
  | @next past s before e possible ih =>
    rcases descends (runOrdered opened before) possible found with ⟨r₀,found₀,becomes⟩ | ⟨own,r₁,s₁,enters,becomes⟩
    · exact (ih found₀).later becomes (eventTexts e s).1 (eventTexts e s).2
    · exact enters.minted becomes

theorem Enters.context {e : SessionEvent} {own r s₁} (enters : Enters e s own r s₁) :
    r.form ∈ (e.run s).2.summary.attached := by
  have entered : r.form ∈ s₁.summary.attached := by
    obtain ⟨_,_,_,_,_,rfl⟩ := enlisted enters.entry
    exact Summary.memAttach.mpr (.inl rfl)
  rw [enters.post,judgeSilentlyEq]
  split
  · exact entered
  · unfold accept
    dsimp only
    rwa [Summary.upsertAttached]

theorem runContexts {opening : Session} {past} (opened : opening.Opened) (run : opening.Run past s) (smooth : Smooth past)
    {name r} (found : s.registry.find? name = some r) : r.form ∈ s.summary.attached := by
  induction run generalizing name r with
  | start =>
    rw [opened.registry] at found
    contradiction
  | @next past s before e possible ih =>
    rcases descends (runOrdered opened before) possible found with ⟨r₀,found₀,becomes⟩ | ⟨own,r₁,s₁,enters,becomes⟩
    · have known := ih smooth.tail found₀
      rw [becomes.form]
      cases (eventCourse possible).attachment smooth.head with
      | attaches _ _ attached =>
        rw [attached]
        exact Summary.memAttach.mpr (.inr known)
      | forgets resets =>
        rw [(SessionEvent.resetsClears resets).registry] at found
        contradiction
      | keeps _ _ attached =>
        rw [attached]
        exact known
    · rw [becomes.form]
      exact enters.context

end Session
end FormGuard
