import FormGuard.Proofs.DocumentSources

/-! How a configuration fails. A document that is given out has met its schema, and whatever else goes wrong with it is a
problem of the configuration, except that an address can lead astray: its host or its path cannot be used at all, or the
reading of what stands there breaks down. -/
namespace FormGuard

namespace Schema

theorem demandMet {s : Schema} {source v} : s.demand source v = .ok () ↔ s.Meets v := by
  unfold demand
  rw [← checkedMeets]
  cases s.check v <;> simp

theorem demandFailure {s : Schema} {source v f} (failed : s.demand source v = .error f) :
    ∃ path c, f = .problem (.badDocument source path c) := by
  unfold demand at failed
  split at failed
  · contradiction
  · cases failed
    exact ⟨_,_,rfl⟩

theorem messageTableMet {v} : messageTable.Meets v ↔ ∃ fields, v = .object fields ∧ ∀ e ∈ fields, ∃ s, e.2 = .text s := by
  have entry (w : Value) : text.Meets w ↔ ∃ s, w = .text s := by
    simp only [text,meetsAll,List.forall_mem_singleton,kindsMet]
    refine ⟨textOfKind,?_⟩
    rintro ⟨s,rfl⟩
    rfl
  simp only [messageTable,meetsAll,List.forall_mem_cons,List.not_mem_nil,false_imp_iff,implies_true,and_true,kindsMet]
  constructor
  · rintro ⟨kind,others⟩
    obtain ⟨fields,rfl⟩ := objectOfKind kind
    exact ⟨fields,rfl,fun e inside => (entry e.2).mp (otherEntriesMet.mp others e inside)⟩
  · rintro ⟨fields,rfl,texts⟩
    exact ⟨rfl,otherEntriesMet.mpr fun e inside => (entry e.2).mpr (texts e inside)⟩

end Schema

namespace DocumentCall
variable {call : DocumentCall} {u : String} {v : Value}

theorem verdictMet {w} : call.verdict u v = .ok w ↔ call.schema.Meets (call.taken v) ∧ w = call.taken v := by
  have met : call.schema.demand u (call.taken v) = .ok () ↔ call.schema.Meets (call.taken v) := Schema.demandMet
  unfold verdict
  rw [← met]
  cases call.schema.demand u (call.taken v) <;> simp [Except.map,eq_comm]

theorem verdictFailure {f} (failed : call.verdict u v = .error f) : ∃ p, f = .problem p ∧ p.family = .configuration := by
  unfold verdict at failed
  cases demanded : call.schema.demand u (call.taken v) with
  | ok =>
    rw [demanded] at failed
    contradiction
  | error g =>
    rw [demanded] at failed
    cases failed
    obtain ⟨path,c,rfl⟩ := Schema.demandFailure demanded
    exact ⟨_,rfl,rfl⟩

end DocumentCall

namespace Loader
variable {l : Loader} {u : String}

/-- The ways in which the use of an address breaks down without being a problem of the configuration: no host can be read
off it, its path holds a null character, or what stands there cannot be read to its end. -/
inductive Astray (l : Loader) (u : String) : Fault → Prop where
  | host (source : l.source u = .nowhere) : Astray l u .badValue
  | path {path} (source : l.source u = .file path) (null : '\x00' ∈ path) : Astray l u .badValue
  | file {path d f} (source : l.source u = .file path) (plain : '\x00' ∉ path)
      (held : l.outside.files.open? path = some (.error d)) (breaks : d.fault? = some f) : Astray l u f
  | answer {body d f} (source : l.source u = .remote) (unkept : l.kept.lookup u = none)
      (answered : l.outside.fetch l.fetched u = .ok body) (held : l.outside.parse body = .error d)
      (breaks : d.fault? = some f) : Astray l u f

inductive Fails (l : Loader) (u : String) : Failure → Prop where
  | problem {p} (configuration : p.family = .configuration) : Fails l u (.problem p)
  | fault {f} (astray : l.Astray u f) : Fails l u (.fault f)

theorem defectFails {d : DocumentDefect} {p : Problem} (configuration : p.family = .configuration)
    (breaks : ∀ f, d.fault? = some f → l.Astray u f) : l.Fails u (d.failure p) := by
  unfold DocumentDefect.failure
  cases fault : d.fault? with
  | none => exact .problem configuration
  | some f => exact .fault (breaks f fault)

theorem loadFails {f} (failed : (l.load u).1 = .error f) : l.Fails u f := by
  rw [loadEq] at failed
  cases source : l.source u with
  | nowhere =>
    rw [source] at failed
    cases failed
    exact .fault (.host source)
  | foreign scheme =>
    rw [source] at failed
    cases failed
    exact .problem rfl
  | file path =>
    rw [source] at failed
    dsimp only at failed
    rw [Outside.fileAtEq] at failed
    split at failed
    · rename_i null
      cases failed
      exact .fault (.path source (List.contains_iff_mem.mp null))
    · rename_i plain
      split at failed
      · cases failed
        exact .problem rfl
      · contradiction
      · rename_i d held
        cases failed
        exact defectFails rfl fun f breaks => .file source (by simpa using plain) held breaks
  | remote =>
    rw [source] at failed
    dsimp only at failed
    rw [requestEq] at failed
    split at failed
    · contradiction
    · rename_i unkept
      unfold Outside.answer at failed
      cases answered : l.outside.fetch l.fetched u with
      | error reason =>
        rw [answered] at failed
        cases failed
        exact .problem rfl
      | ok body =>
        cases held : l.outside.parse body with
        | ok v => simp [answered,held] at failed
        | error d =>
          simp only [answered,held] at failed
          cases failed
          exact defectFails rfl fun f breaks => .answer source unkept answered held breaks

theorem astrayFails {f} (astray : l.Astray u f) : (l.load u).1 = .error (.fault f) := by
  rw [loadEq]
  cases astray with
  | host source => rw [source]
  | path source null =>
    rw [source]
    simp [Outside.fileAtEq,null]
  | file source plain held breaks =>
    rw [source]
    simp [Outside.fileAtEq,plain,held,DocumentDefect.failure,breaks]
  | answer source unkept answered held breaks =>
    rw [source]
    simp [requestEq,unkept,Outside.answer,answered,held,DocumentDefect.failure,breaks]

theorem loadFault {f} : (l.load u).1 = .error (.fault f) ↔ l.Astray u f := by
  constructor
  · intro failed
    cases loadFails failed with
    | fault astray => exact astray
  · exact astrayFails

theorem loadProblem {p} (failed : (l.load u).1 = .error (.problem p)) : p.family = .configuration := by
  cases loadFails failed with
  | problem configuration => exact configuration

def Vetted (l : Loader) : Prop := ∀ v, l.catalog = some v → Schema.ruleCatalog.Meets v

theorem Vetted.run (vetted : l.Vetted) (call : DocumentCall) : (call.run l).2.Vetted := by
  cases used : call.address? l with
  | none =>
    obtain ⟨_,_,_,ran⟩ := DocumentCall.runUnused used
    rw [ran]
    exact vetted
  | some u =>
    have still : (l.load u).2.Vetted := by
      unfold Vetted
      rw [l.loadCatalog u]
      exact vetted
    rw [DocumentCall.runUsed used]
    split
    · exact still
    · rename_i w answered
      cases call with
      | messages => exact still
      | catalog =>
        obtain ⟨v,_,judged⟩ := bindOk.mp answered
        obtain ⟨meets,rfl⟩ := DocumentCall.verdictMet.mp judged
        rintro _ ⟨⟩
        exact meets

theorem runVetted {o path opening past} (read : ofFile o path = .ok opening) (run : opening.Run past l) : l.Vetted := by
  induction run with
  | start => simp [Vetted,(readFresh read).2]
  | next _ call ih => exact ih.run call

section Answers
variable {call : DocumentCall}

theorem answerMeets (vetted : l.Vetted) {v} (given : (call.run l).1 = .ok v) : call.schema.Meets v := by
  cases used : call.address? l with
  | none =>
    obtain ⟨w,rfl,held,ran⟩ := DocumentCall.runUnused used
    rw [ran] at given
    cases given
    exact vetted v held
  | some u =>
    rw [DocumentCall.answerUsed used] at given
    obtain ⟨_,_,judged⟩ := bindOk.mp given
    obtain ⟨meets,rfl⟩ := DocumentCall.verdictMet.mp judged
    exact meets

theorem answerFailed {f} (failed : (call.run l).1 = .error f) : ∃ u, call.address? l = some u ∧
    ((l.load u).1 = .error f ∨ ∃ p, f = .problem p ∧ p.family = .configuration) := by
  cases used : call.address? l with
  | none =>
    obtain ⟨_,_,_,ran⟩ := DocumentCall.runUnused used
    rw [ran] at failed
    contradiction
  | some u =>
    rw [DocumentCall.answerUsed used] at failed
    refine ⟨u,rfl,(bindError.mp failed).imp_right ?_⟩
    rintro ⟨v,_,judged⟩
    exact DocumentCall.verdictFailure judged

theorem answerProblem {p} (failed : (call.run l).1 = .error (.problem p)) : p.family = .configuration := by
  obtain ⟨u,_,unloaded | ⟨_,⟨⟩,configuration⟩⟩ := answerFailed failed
  · exact loadProblem unloaded
  · exact configuration

theorem answerFault {f} : (call.run l).1 = .error (.fault f) ↔ ∃ u, call.address? l = some u ∧ l.Astray u f := by
  constructor
  · intro failed
    obtain ⟨u,used,unloaded | ⟨_,⟨⟩,_⟩⟩ := answerFailed failed
    exact ⟨u,used,loadFault.mp unloaded⟩
  · rintro ⟨u,used,astray⟩
    rw [DocumentCall.answerUsed used]
    exact bindError.mpr (.inl (astrayFails astray))

end Answers

theorem tableTaken {v : Value} : Schema.messageTable.Meets (tableFields v) ↔
    v.truthy = false ∨ ∃ fields, v = .object fields ∧ ∀ e ∈ fields, ∃ s, e.2 = .text s := by
  rw [Schema.messageTableMet]
  unfold tableFields
  cases counts : v.truthy with
  | true => simp [counts]
  | false => exact iff_of_true ⟨[],by simp [counts],by simp⟩ (.inl rfl)

theorem tableAnswered {locale v} (loaded : (l.load (l.tableAddress locale)).1 = .ok v) :
    (∃ table, (l.messageDocument locale).1 = .ok table) ↔ Schema.messageTable.Meets (tableFields v) := by
  have used : (DocumentCall.messages locale).address? l = some (l.tableAddress locale) := rfl
  have answer : (l.messageDocument locale).1 = (DocumentCall.messages locale).verdict (l.tableAddress locale) v := by
    refine (DocumentCall.answerUsed used).trans ?_
    rw [loaded]
    rfl
  simp only [answer,DocumentCall.verdictMet,exists_eq_right]
  rfl

/-- Over any configuration that met its schema, after any calls, and whatever there is to read: a document given out has
met its schema, and all that is refused is refused as a problem of the configuration, except where an address leads astray.
A document that counts as false is taken for an empty table. -/
theorem documentsVetted {o path opening past} (read : ofFile o path = .ok opening) (run : opening.Run past l)
    (call : DocumentCall) :
    (∀ v, (call.run l).1 = .ok v → call.schema.Meets v) ∧
    (∀ p, (call.run l).1 = .error (.problem p) → p.family = .configuration) ∧
    (∀ f, (call.run l).1 = .error (.fault f) ↔ ∃ u, call.address? l = some u ∧ l.Astray u f) ∧
    ∀ locale v, (l.load (l.tableAddress locale)).1 = .ok v →
      ((∃ table, (l.messageDocument locale).1 = .ok table) ↔
        v.truthy = false ∨ ∃ fields, v = .object fields ∧ ∀ e ∈ fields, ∃ s, e.2 = .text s) := by
  have vetted := runVetted read run
  refine ⟨fun v given => answerMeets vetted given,fun p failed => answerProblem failed,fun f => answerFault,?_⟩
  intro locale v loaded
  rw [tableAnswered loaded,tableTaken]

def localTables : Value :=
  .object [("rule_catalog_uri",.text "catalog.yaml"),("locales_location",.text "locales")]

def tableFolder : Outside where
  files := ⟨[(["local-config.yaml".toList],.ok localTables),(["locales".toList,"fr.yaml".toList],.ok (.list [])),
    (["locales".toList,"en.yaml".toList],.ok (.object [("K",.text "m")]))]⟩
  fetch _ _ := .error "unreachable"
  parse _ := .error .malformed

def tableLoader : Loader := ⟨tableFolder,"/local-config.yaml".toList,localTables,0,[],none⟩

theorem englishVetted : ofFile tableFolder "/local-config.yaml" = .ok tableLoader ∧
    (tableLoader.messageDocument "en").1 = .ok (.object [("K",.text "m")]) ∧
    Schema.messageTable.Meets (.object [("K",.text "m")]) ∧ ¬ ∃ f, tableLoader.Astray "locales/en.yaml" f := by
  have read : ofFile tableFolder "/local-config.yaml" = .ok tableLoader := by rfl
  have given : (tableLoader.messageDocument "en").1 = .ok (.object [("K",.text "m")]) := by rfl
  obtain ⟨vetted,_,faults,_⟩ := documentsVetted read .start (.messages "en")
  refine ⟨read,given,vetted _ given,?_⟩
  rintro ⟨f,astray⟩
  have failed := (faults f).mpr ⟨_,rfl,astray⟩
  cases given.symm.trans failed

/-- An empty list is taken for a table, and the name of a locale can break the reading of its table down. -/
theorem emptyListTaken : ofFile tableFolder "/local-config.yaml" = .ok tableLoader ∧
    (tableLoader.load (tableLoader.tableAddress "fr")).1 = .ok (.list []) ∧
    (tableLoader.messageDocument "fr").1 = .ok (.object []) ∧
    (tableLoader.messageDocument "e\x00n").1 = .error (.fault .badValue) :=
  ⟨by rfl,by rfl,by rfl,by rfl⟩

end Loader
end FormGuard
