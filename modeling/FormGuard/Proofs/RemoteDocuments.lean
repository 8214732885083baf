import FormGuard.Proofs.DocumentSources

/-! Remote documents are fetched once. What is kept of the remote side is what the requests so far have brought, so that a
request is made again only as long as none has brought a document; the catalog, once it has been given out, stays. -/
namespace FormGuard
namespace Visit
variable {m : Visit} {u : String} {v : Value}

def after (m : Visit) : Loader := (m.call.run m.before).2

def Requests (m : Visit) (u : String) : Prop := m.call.address? m.before = some u ∧ m.before.fetched < m.after.fetched

def brought (m : Visit) (u : String) : Except Failure Value := m.before.outside.answer m.before.fetched u

theorem requestsIff : m.Requests u ↔
    m.call.address? m.before = some u ∧ m.before.source u = .remote ∧ m.before.kept.lookup u = none := by
  refine and_congr_right fun used => ?_
  unfold after
  rw [(DocumentCall.runLoads used).1]
  have outcomes := m.before.loads u
  generalize m.before.load u = answer at outcomes
  cases outcomes with
  | here near => simp [near]
  | kept _ kept => simp [kept]
  | refused remote unkept => simp [remote,unkept]
  | fetched remote unkept => simp [remote,unkept]

theorem keptAfter : m.after.kept.lookup u = some v ↔
    m.before.kept.lookup u = some v ∨ m.Requests u ∧ m.brought u = .ok v := by
  rw [requestsIff]
  unfold after brought
  cases used : m.call.address? m.before with
  | none =>
    obtain ⟨_,_,_,ran⟩ := DocumentCall.runUnused used
    simp [ran]
  | some w =>
    rw [(DocumentCall.runLoads used).2]
    have outcomes := m.before.loads w
    generalize m.before.load w = answer at outcomes
    cases outcomes with
    | here near =>
      simp only [Option.some.injEq,iff_self_or]
      rintro ⟨⟨rfl,remote,_⟩,_⟩
      contradiction
    | kept _ kept =>
      simp only [Option.some.injEq,iff_self_or]
      rintro ⟨⟨rfl,_,unkept⟩,_⟩
      cases kept.symm.trans unkept
    | refused _ _ refused =>
      simp only [Option.some.injEq,iff_self_or]
      rintro ⟨⟨rfl,_,_⟩,brought⟩
      cases refused.symm.trans brought
    | @fetched d remote unkept fetched =>
      simp only [List.lookup_cons,Option.some.injEq]
      by_cases same : u = w
      · subst same
        simp [remote,unkept,fetched]
      · simp [beq_false_of_ne same,Ne.symm same]

theorem requestSame {l' : Loader} (same : m.before.Same l') (requests : m.Requests u) : l'.source u = .remote :=
  (same.source u).trans (requestsIff.mp requests).2.1

end Visit

namespace Loader
variable {opening l : Loader} {past : List Visit} {u : String} {v : Value}

theorem keptIff (empty : opening.kept = []) (run : opening.Run past l) :
    l.kept.lookup u = some v ↔ ∃ m ∈ past, m.Requests u ∧ m.brought u = .ok v := by
  induction run with
  | start => simp [empty]
  | @next past l _ call ih =>
    have step := Visit.keptAfter (m := ⟨l,call⟩) (u := u) (v := v)
    simp only [List.mem_cons,exists_eq_or_imp]
    rw [← ih,or_comm]
    exact step

theorem unkeptIff (empty : opening.kept = []) (run : opening.Run past l) :
    l.kept.lookup u = none ↔ ∀ m ∈ past, m.Requests u → ∃ f, m.brought u = .error f := by
  constructor
  · intro none m inside requests
    cases brought : m.brought u with
    | error f => exact ⟨f,rfl⟩
    | ok v =>
      have kept := (keptIff empty run).mpr ⟨m,inside,requests,brought⟩
      cases none.symm.trans kept
  · intro failed
    cases kept : l.kept.lookup u with
    | none => rfl
    | some v =>
      obtain ⟨m,inside,requests,brought⟩ := (keptIff empty run).mp kept
      obtain ⟨f,broken⟩ := failed m inside requests
      cases brought.symm.trans broken

theorem runThrough (run : opening.Run past l) : ∀ m ∈ past, m.before.Same l := by
  induction run with
  | start => simp
  | next before call ih =>
    refine List.forall_mem_cons.mpr ⟨call.runSame,fun m inside => (ih m inside).trans call.runSame⟩

theorem loadKept (remote : l.source u = .remote) (kept : l.kept.lookup u = some v) : l.load u = (.ok v,l) := by
  rw [loadEq,remote]
  dsimp only
  rw [requestEq,kept]

theorem loadRequested {call : DocumentCall} (requests : Visit.Requests ⟨l,call⟩ u) :
    l.load u =
      match Visit.brought ⟨l,call⟩ u with
      | .error f => (.error f,{ l with fetched := l.fetched + 1 })
      | .ok v => (.ok v,{ l with fetched := l.fetched + 1, kept := (u,v) :: l.kept }) := by
  obtain ⟨_,remote,unkept⟩ := Visit.requestsIff.mp requests
  dsimp only at remote unkept
  rw [loadEq,remote]
  dsimp only
  rw [requestEq,unkept]
  rfl

theorem runCounts (call : DocumentCall) (l : Loader) : (call.run l).2.fetched ≤ l.fetched + 1 := by
  cases used : call.address? l with
  | none =>
    obtain ⟨_,_,_,ran⟩ := DocumentCall.runUnused used
    simp [ran]
  | some u =>
    rw [(DocumentCall.runLoads used).1]
    have outcomes := l.loads u
    generalize l.load u = answer at outcomes
    cases outcomes <;> simp

theorem catalogStays {call : DocumentCall} (held : l.catalog = some v) : (call.run l).2.catalog = some v := by
  cases used : call.address? l with
  | none =>
    obtain ⟨_,_,_,ran⟩ := DocumentCall.runUnused used
    rw [ran]
    exact held
  | some w =>
    cases call with
    | catalog => simp [DocumentCall.address?,held] at used
    | messages =>
      rw [DocumentCall.runUsed used]
      split <;> exact (l.loadCatalog w).trans held

theorem catalogGiven (given : (DocumentCall.catalog.run l).1 = .ok v) : (DocumentCall.catalog.run l).2.catalog = some v := by
  cases used : DocumentCall.catalog.address? l with
  | none =>
    obtain ⟨w,_,held,ran⟩ := DocumentCall.runUnused used
    rw [ran] at given ⊢
    cases given
    exact held
  | some w =>
    rw [DocumentCall.runUsed used] at given ⊢
    split at given
    · contradiction
    · cases given
      simp_all [DocumentCall.keep]

theorem catalogKept (run : opening.Run past l) :
    ∀ m ∈ past, m.call = .catalog → (m.call.run m.before).1 = .ok v → l.catalog = some v := by
  induction run with
  | start => simp
  | next _ call ih =>
    refine List.forall_mem_cons.mpr ⟨?_,fun m inside asked given => catalogStays (ih m inside asked given)⟩
    rintro rfl given
    exact catalogGiven given

structure Once (past : List Visit) (l : Loader) (call : DocumentCall) (u : String) : Prop where
  asksAgain : Visit.Requests ⟨l,call⟩ u ↔
    call.address? l = some u ∧ l.source u = .remote ∧ ∀ m ∈ past, m.Requests u → ∃ f, m.brought u = .error f
  counted : (call.run l).2.fetched ≤ l.fetched + 1
  failed {f : Failure} : Visit.Requests ⟨l,call⟩ u → Visit.brought ⟨l,call⟩ u = .error f →
    call.run l = (.error f,{ l with fetched := l.fetched + 1 })
  succeeded {v : Value} : Visit.Requests ⟨l,call⟩ u → Visit.brought ⟨l,call⟩ u = .ok v → (call.run l).1 = call.verdict u v
  afterwards {m : Visit} {v : Value} : m ∈ past → m.Requests u → m.brought u = .ok v → call.address? l = some u →
    (call.run l).1 = call.verdict u v ∧ (call.run l).2.fetched = l.fetched ∧ (call.run l).2.kept = l.kept
  settled {m : Visit} {v : Value} : m ∈ past → m.call = .catalog → (m.call.run m.before).1 = .ok v → l.ruleCatalog = (.ok v,l)

/-- Whatever the remote side answers, and whatever has been asked for, an address is requested again only as long as no
request for it has brought a document; every later use of it sees that document, whether or not it meets a schema. -/
theorem fetchedOnce {o path} (read : Loader.ofFile o path = .ok opening) (run : opening.Run past l) (call : DocumentCall)
    (u : String) : Once past l call u := by
  have empty := (readFresh read).1
  refine ⟨?_,runCounts call l,?_,?_,?_,?_⟩
  · rw [Visit.requestsIff,unkeptIff empty run]
  · intro f requests brought
    have loaded := loadRequested requests
    rw [brought] at loaded
    rw [DocumentCall.runUsed requests.1,loaded]
    rfl
  · intro v requests brought
    have loaded := loadRequested requests
    rw [brought] at loaded
    rw [DocumentCall.answerUsed requests.1,loaded]
    rfl
  · intro m v inside requests brought used
    have kept := (keptIff empty run).mpr ⟨m,inside,requests,brought⟩
    have loaded := loadKept (Visit.requestSame (runThrough run m inside) requests) kept
    obtain ⟨fetched,still⟩ := DocumentCall.runLoads used
    rw [DocumentCall.answerUsed used,fetched,still,loaded]
    exact ⟨rfl,rfl,rfl⟩
  · intro m v inside asked given
    unfold ruleCatalog
    rw [catalogKept run m inside asked given]

def remoteConfig : Value :=
  .object [("rule_catalog_uri",.text "https://h/en.yaml"),("locales_location",.text "https://h")]

/-- A remote side that cannot be reached, then sends no document, then an empty one, and then another. -/
def unsteady : Outside where
  files := ⟨[(["c".toList],.ok remoteConfig)]⟩
  fetch
    | 0,_ => .error "unreachable"
    | 1,_ => .ok "[1"
    | 2,_ => .ok ""
    | _,_ => .ok "- another"
  parse
    | "" => .ok .null
    | "- another" => .ok (.list [.text "another"])
    | _ => .error .malformed

def unsteadyLoader : Loader := ⟨unsteady,"/c".toList,remoteConfig,0,[],none⟩

/-- The catalog and the table share an address: the empty document is no catalog, and is still the table. -/
theorem emptyKept : ofFile unsteady "/c" = .ok unsteadyLoader ∧ ∃ past l, unsteadyLoader.Run past l ∧ l.fetched = 3 ∧
    (∃ m ∈ past, m.call = .catalog ∧ m.Requests "https://h/en.yaml" ∧ m.brought "https://h/en.yaml" = .ok .null) ∧
    (l.messageDocument "en").1 = .ok (.object []) ∧ (l.messageDocument "en").2.fetched = 3 := by
  have read : ofFile unsteady "/c" = .ok unsteadyLoader := by rfl
  have run : unsteadyLoader.Run _ _ := .next (.next (.next .start .catalog) (.messages "en")) .catalog
  have requests : Visit.Requests ⟨((DocumentCall.messages "en").run (DocumentCall.catalog.run unsteadyLoader).2).2,.catalog⟩
      "https://h/en.yaml" := ⟨by decide +kernel,by decide +kernel⟩
  obtain ⟨answered,fetched,_⟩ :=
    (fetchedOnce read run (.messages "en") "https://h/en.yaml").afterwards (List.mem_cons_self ..) requests rfl rfl
  have three : (DocumentCall.catalog.run
      ((DocumentCall.messages "en").run (DocumentCall.catalog.run unsteadyLoader).2).2).2.fetched = 3 := by decide +kernel
  exact ⟨read,_,_,run,three,⟨_,List.mem_cons_self ..,rfl,requests,rfl⟩,answered,fetched.trans three⟩

end Loader
end FormGuard
