import FormGuard.Proofs.FieldVerdict
import FormGuard.Proofs.SessionMoves

/-! The records of a session and the entries of its summary, and the few ways in which moves change them: a field is
judged, a field is seen differently, a field goes, or all fields go. -/
namespace FormGuard

theorem getOfMem {α} {t : Table α} {name a} (distinct : t.names.Nodup) (member : (name,a) ∈ t) :
    t.get? name = some a := by
  induction t with
  | nil => simp at member
  | cons e rest ih =>
    obtain ⟨n,b⟩ := e
    obtain ⟨fresh,tail⟩ := List.nodup_cons.mp distinct
    rw [Table.getOfCons]
    rcases List.mem_cons.mp member with first | inside
    · cases first
      exact if_pos rfl
    · have named : name ∈ Table.names rest := List.mem_map.mpr ⟨(name,a),inside,rfl⟩
      rw [if_neg fun same : name = n => fresh (same ▸ named)]
      exact ih tail inside

namespace Summary

structure Filed (s : Summary) : Prop where
  field {name e} : s.get? name = some e → e.field = name
  distinct : s.entries.names.Nodup

theorem getUpsert {s : Summary} {e : SummaryEntry} {name} :
    (s.upsert e).get? name =
      if name = e.field then (if e.message = "" then none else some e) else s.get? name := by
  unfold upsert get?
  split
  · exact Table.getAfterDrop s.entries e.field name
  · exact Table.getAfterPut s.entries e.field name e

theorem Filed.upsert {s : Summary} (h : s.Filed) (e : SummaryEntry) : (s.upsert e).Filed where
  field := by
    intro name k found
    rw [getUpsert] at found
    split at found
    · rename_i own
      split at found
      · contradiction
      · cases found
        exact own.symm
    · exact h.field found
  distinct := by
    unfold Summary.upsert
    split
    · exact Table.nodupDrop h.distinct e.field
    · exact Table.nodupPut h.distinct e.field e

theorem Filed.same {s s' : Summary} (h : s.Filed) (entries : s'.entries = s.entries) : s'.Filed where
  field found := by
    unfold get? at found
    rw [entries] at found
    exact h.field found
  distinct := by rw [entries]; exact h.distinct

theorem Filed.clear {s : Summary} (h : s.Filed) (name : String) : (s.clear name).Filed where
  field {m e} found := by
    have entry : (s.entries.drop name).get? m = some e := found
    rw [Table.getAfterDrop] at entry
    split at entry
    · contradiction
    · exact h.field entry
  distinct := Table.nodupDrop h.distinct name

theorem memAll {s : Summary} (h : s.Filed) {e} : e ∈ s.all ↔ s.get? e.field = some e := by
  constructor
  · intro member
    obtain ⟨⟨name,e⟩,inside,rfl⟩ := List.mem_map.mp member
    have found := getOfMem h.distinct inside
    rwa [← h.field found] at found
  · intro found
    exact List.mem_map.mpr ⟨(e.field,e),memOfGet found,rfl⟩

theorem attachEntries (s : Summary) (form : Option String) : (s.attach form).entries = s.entries := by
  unfold attach
  split <;> rfl

end Summary

namespace Session

structure Proper (s : Session) (name : String) (r : Record) : Prop where
  named : r.name = name
  made : r.stamp < s.made
  read : ∃ p, r.pipeline = some p ∧ (s.catalog.parse r.rules).1 = .ok p

structure Filed (s : Session) : Prop where
  remembers : s.catalog.Remembers
  keyed : s.catalog.Keyed
  proper {name r} : s.registry.find? name = some r → s.Proper name r
  summary : s.summary.Filed

structure Judges (s s' : Session) (r : Record) (o : FieldOutcome) (state : FieldState) : Prop where
  registry (name) : s'.registry.find? name =
    if name = r.name then some { r.withVerdict o with state := state } else s.registry.find? name
  entries : s'.summary.entries =
    (s.summary.upsert ⟨r.name,(r.withVerdict o).message,r.friendlyName,r.form⟩).entries
  judged : ∃ q : Session, ∃ v, q.judge r v = .ok o

theorem upsertEntries {s s' : Summary} (same : s'.entries = s.entries) (e : SummaryEntry) :
    (s'.upsert e).entries = (s.upsert e).entries := by
  unfold Summary.upsert Summary.clear
  split <;> simp [same]

theorem enrolJudges {s s₁ : Session} {attributes r o} (entry : s.enlist attributes = (.ok r,s₁))
    (answered : s₁.judge r (s₁.source.value r.name) = .ok o) :
    Judges s (s₁.accept r o) r o .unvalidated := by
  obtain ⟨_,state,_,_,_,rfl⟩ := enlisted entry
  refine ⟨fun name => ?_,upsertEntries (Summary.attachEntries _ _) _,_,_,answered⟩
  simp only [accept,store,Registry.findUpsert,Record.withVerdict]
  split
  · rw [← state]
  · rfl

theorem retuneJudges {s s₁ : Session} {name rules r o} (entry : s.retune name rules = (.ok r,s₁))
    (answered : s₁.judge r (s₁.source.value r.name) = .ok o) :
    Judges s (s₁.accept r o) r o r.state := by
  obtain ⟨_,_,_,_,_,rfl⟩ := retuned entry
  refine ⟨fun name => ?_,rfl,_,_,answered⟩
  simp only [accept,store,Registry.findUpsert,Record.withVerdict]
  split <;> rfl

theorem settleJudges (s : Session) (name : String) (state : FieldState) {q : Session} {r v o}
    (answered : q.judge r v = .ok o) :
    Judges s (((s.note name r o).clearMessage name).store { r.withVerdict o with state := state }) r o state := by
  rw [noteEq]
  refine ⟨fun name => ?_,rfl,q,v,answered⟩
  simp only [clearMessage,store,Registry.findUpsert,Record.withVerdict]
  split <;> rfl

theorem showJudges (s : Session) (name : String) {q : Session} {r v o} (answered : q.judge r v = .ok o) :
    Judges s ((s.note name r o).present (r.withVerdict o) o) r o (verdictState o) := by
  rw [presentEq,noteEq]
  refine ⟨fun name => ?_,rfl,q,v,answered⟩
  simp only [store,Registry.findUpsert,Record.withVerdict]
  split <;> rfl

theorem Judges.arm {s s' : Session} {r o state} (judged : Judges s s' r o state) (r' : Record) (v : Value) :
    Judges s (s'.arm r' v) r o state := ⟨judged.registry,judged.entries,judged.judged⟩

theorem heardJudges {s : Session} {name r v o} (answered : (s.untrack name).judge r v = .ok o) :
    Judges s (((s.untrack name).accept r o).present (r.withVerdict o) o) r o (verdictState o) := by
  rw [presentEq]
  refine ⟨fun name => ?_,rfl,_,v,answered⟩
  simp only [untrack,accept,store,Registry.findUpsert,Record.withVerdict]
  split <;> rfl

structure Marks (s s' : Session) (name : String) (r : Record) (state : FieldState) (dirty touched : Bool) :
    Prop where
  found : s.registry.find? name = some r
  registry (m) : s'.registry.find? m =
    if m = r.name then some { r with state := state, dirty := dirty, touched := touched } else s.registry.find? m
  entries : s'.summary.entries = s.summary.entries

theorem markMarks {s : Session} {name r event} (found : s.registry.find? name = some r) :
    Marks s (s.store (mark r event)) name r r.state (mark r event).dirty (mark r event).touched := by
  refine ⟨found,fun m => ?_,rfl⟩
  cases event <;> exact Registry.findUpsert

theorem rejectMarks {s : Session} {e r} (found : s.registry.find? e.field = some r) :
    Marks s (s.reject e) e.field r .invalid r.dirty true := by
  rw [rejectEq found]
  exact ⟨found,fun m => Registry.findUpsert,rfl⟩

theorem abandonMarks {s : Session} {name r} (found : s.registry.find? name = some r) (named : r.name = name) :
    Marks s (s.abandon name) name r (if r.state = .pending then .unvalidated else r.state) r.dirty r.touched := by
  rw [abandonEq found]
  refine ⟨found,fun m => ?_,rfl⟩
  dsimp only
  split
  · exact Registry.findUpsert
  · split
    · rename_i same
      rw [same]
      exact (congrArg s.registry.find? named).trans found
    · rfl

theorem Proper.later {s s' : Session} {name r} (before : s.Proper name r) (made : s.made ≤ s'.made)
    (remembers : s.catalog.Remembers) (book : s.catalog.SameBook s'.catalog ∧ s'.catalog.Remembers) :
    s'.Proper name r := by
  obtain ⟨p,pipeline,read⟩ := before.read
  refine ⟨before.named,Nat.lt_of_lt_of_le before.made made,p,pipeline,?_⟩
  rw [Catalog.parseSameBook remembers book.2 book.1]
  exact read

theorem Proper.still {s s' : Session} {name r} (before : s.Proper name r) (catalog : s'.catalog = s.catalog)
    (made : s'.made = s.made) : s'.Proper name r where
  named := before.named
  made := by rw [made]; exact before.made
  read := by rw [catalog]; exact before.read

theorem Proper.like {s : Session} {name r r'} (proper : s.Proper name r) (named : r'.name = r.name)
    (stamp : r'.stamp = r.stamp) (rules : r'.rules = r.rules) (pipeline : r'.pipeline = r.pipeline) :
    s.Proper name r' := by
  refine ⟨named.trans proper.named,by rw [stamp]; exact proper.made,?_⟩
  rw [rules,pipeline]
  exact proper.read

namespace Filed
variable {s s' : Session}

theorem put (h : s.Filed) {name r} (book : s.catalog.SameBook s'.catalog ∧ s'.catalog.Remembers)
    (made : s.made ≤ s'.made) (proper : s'.Proper name r)
    (registry : ∀ m, s'.registry.find? m = if m = name then some r else s.registry.find? m)
    (summary : s'.summary.Filed) : s'.Filed where
  remembers := book.2
  keyed := h.keyed.sameBook book.1
  proper := by
    intro m r' found
    rw [registry] at found
    split at found
    · rename_i same
      cases found
      rw [same]
      exact proper
    · exact (h.proper found).later made h.remembers book
  summary := summary

theorem book (h : s.Filed) (catalog : s'.catalog = s.catalog) :
    s.catalog.SameBook s'.catalog ∧ s'.catalog.Remembers := by
  rw [catalog]
  exact ⟨.refl _,h.remembers⟩

theorem same (h : s.Filed) (book : s.catalog.SameBook s'.catalog ∧ s'.catalog.Remembers)
    (registry : s'.registry = s.registry) (entries : s'.summary.entries = s.summary.entries)
    (made : s'.made = s.made) : s'.Filed where
  remembers := book.2
  keyed := h.keyed.sameBook book.1
  proper found := by
    rw [registry] at found
    exact (h.proper found).later (Nat.le_of_eq made.symm) h.remembers book
  summary := h.summary.same entries

theorem beside (h : s.Filed) (same : s.Beside s') : s'.Filed :=
  h.same (same.book h.remembers) same.registry same.entries same.made

theorem untouched (h : s.Filed) (catalog : s'.catalog = s.catalog) (registry : s'.registry = s.registry)
    (entries : s'.summary.entries = s.summary.entries) (made : s'.made = s.made) : s'.Filed :=
  h.same (h.book catalog) registry entries made

theorem judges (h : s.Filed) {r o state} (judged : Judges s s' r o state) (proper : s'.Proper r.name r)
    (book : s.catalog.SameBook s'.catalog ∧ s'.catalog.Remembers) (made : s.made ≤ s'.made) : s'.Filed := by
  have own : s'.Proper r.name { r.withVerdict o with state := state } := proper.like rfl rfl rfl rfl
  exact h.put book made own judged.registry ((h.summary.upsert _).same judged.entries)

theorem marks (h : s.Filed) {name r state dirty touched} (marked : Marks s s' name r state dirty touched)
    (catalog : s'.catalog = s.catalog) (made : s'.made = s.made) : s'.Filed := by
  have proper := h.proper marked.found
  have own : s'.Proper r.name r := by
    rw [proper.named]
    exact proper.still catalog made
  have like : s'.Proper r.name { r with state := state, dirty := dirty, touched := touched } :=
    own.like rfl rfl rfl rfl
  exact h.put (h.book catalog) (Nat.le_of_eq made.symm) like marked.registry (h.summary.same marked.entries)

end Filed
end Session
end FormGuard
