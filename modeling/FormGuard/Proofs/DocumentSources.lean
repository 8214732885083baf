import FormGuard.Config.Loader
import FormGuard.Proofs.CatalogReading

/-! Where documents come from, and what the calls that ask a loader for one do to it. Each call is taken apart once, into
the outcomes that it can have; runs of calls, with a remote side that may answer every request differently, follow from
these. -/
namespace FormGuard

inductive DocumentSource where
  | nowhere
  | file (path : List Char)
  | remote
  | foreign (scheme : String)
  deriving DecidableEq

namespace DocumentDefect

def fault? : DocumentDefect → Option Fault
  | malformed => none
  | breakdown f => some f

def failure (problem : Problem) (d : DocumentDefect) : Failure := (d.fault?.map .fault).getD (.problem problem)

end DocumentDefect

namespace Outside

def answer (o : Outside) (n : Nat) (address : String) : Except Failure Value :=
  match o.fetch n address with
  | .error reason => .error (.problem (.unfetched address reason))
  | .ok body =>
    match o.parse body with
    | .ok v => .ok v
    | .error d => .error (d.failure (.unparsable address "the answer holds no document"))

theorem fileAtEq (o : Outside) (otherwise : String → Problem) (path : List Char) :
    o.fileAt otherwise path =
      if path.contains '\x00' then .error (.fault .badValue)
      else match o.files.open? path with
        | none => .error (.problem (otherwise "there is no such file"))
        | some (.ok v) => .ok v
        | some (.error d) => .error (d.failure (otherwise "the file holds no document")) := by
  unfold fileAt
  split
  · rfl
  · rcases o.files.open? path with _ | _ | v
    · rfl
    · rename_i d
      cases d <;> rfl
    · rfl

end Outside

namespace Loader

def source (l : Loader) (address : String) : DocumentSource :=
  match Address.read address with
  | .error _ => .nowhere
  | .ok a =>
    if a.scheme = "" then .file (l.fromHere address)
    else if a.scheme = "file" then .file (Address.unescape a.path)
    else if a.scheme = "http" ∨ a.scheme = "https" then .remote
    else .foreign a.scheme

theorem requestEq (l : Loader) (address : String) :
    l.request address =
      match l.kept.lookup address with
      | some v => (.ok v,l)
      | none =>
        match l.outside.answer l.fetched address with
        | .error f => (.error f,{ l with fetched := l.fetched + 1 })
        | .ok v => (.ok v,{ l with fetched := l.fetched + 1, kept := (address,v) :: l.kept }) := by
  unfold request Outside.answer
  cases l.kept.lookup address with
  | some v => rfl
  | none =>
    dsimp only
    cases l.outside.fetch l.fetched address with
    | error reason => rfl
    | ok body =>
      dsimp only
      rcases l.outside.parse body with d | v
      · cases d <;> rfl
      · rfl

theorem loadEq (l : Loader) (address : String) :
    l.load address =
      match l.source address with
      | .nowhere => (.error (.fault .badValue),l)
      | .file path => (l.outside.fileAt (.unreadable (String.ofList path)) path,l)
      | .remote => l.request address
      | .foreign scheme => (.error (.problem (.unsupportedScheme scheme address)),l) := by
  unfold load source
  cases read : Address.read address with
  | error f =>
    have unusable : f = .badValue := by
      simp only [Address.read] at read
      split at read <;> cases read
      rfl
    rw [unusable]
  | ok a =>
    dsimp only
    split
    · rfl
    · split
      · rfl
      · split <;> rfl

inductive Loads (l : Loader) (address : String) : Except Failure Value × Loader → Prop where
  | here {answer} (near : l.source address ≠ .remote) : Loads l address (answer,l)
  | kept {v} (remote : l.source address = .remote) (kept : l.kept.lookup address = some v) : Loads l address (.ok v,l)
  | refused {f} (remote : l.source address = .remote) (unkept : l.kept.lookup address = none)
      (answer : l.outside.answer l.fetched address = .error f) :
      Loads l address (.error f,{ l with fetched := l.fetched + 1 })
  | fetched {v} (remote : l.source address = .remote) (unkept : l.kept.lookup address = none)
      (answer : l.outside.answer l.fetched address = .ok v) :
      Loads l address (.ok v,{ l with fetched := l.fetched + 1, kept := (address,v) :: l.kept })

theorem loads (l : Loader) (address : String) : Loads l address (l.load address) := by
  rw [loadEq]
  cases source : l.source address with
  | nowhere => exact .here (by simp [source])
  | file => exact .here (by simp [source])
  | foreign => exact .here (by simp [source])
  | remote =>
    dsimp only
    rw [requestEq]
    cases kept : l.kept.lookup address with
    | some v => exact .kept source kept
    | none =>
      dsimp only
      cases answer : l.outside.answer l.fetched address with
      | error f => exact .refused source kept answer
      | ok v => exact .fetched source kept answer

end Loader

inductive DocumentCall where
  | catalog
  | messages (locale : String)

namespace DocumentCall

def run : DocumentCall → Loader → Except Failure Value × Loader
  | catalog,l => l.ruleCatalog
  | messages locale,l => l.messageDocument locale

def address? : DocumentCall → Loader → Option String
  | catalog,l => if l.catalog.isSome then none else some (l.text "rule_catalog_uri")
  | messages locale,l => some (l.tableAddress locale)

def schema : DocumentCall → Schema
  | catalog => .ruleCatalog
  | messages _ => .messageTable

def taken : DocumentCall → Value → Value
  | catalog,v => v
  | messages _,v => Loader.tableFields v

def verdict (call : DocumentCall) (address : String) (v : Value) : Except Failure Value :=
  (call.schema.demand address (call.taken v)).map fun _ => call.taken v

def keep : DocumentCall → Value → Loader → Loader
  | catalog,v,l => { l with catalog := some v }
  | messages _,_,l => l

theorem runUnused {call : DocumentCall} {l : Loader} (unused : call.address? l = none) :
    ∃ v, call = .catalog ∧ l.catalog = some v ∧ call.run l = (.ok v,l) := by
  cases call with
  | messages => contradiction
  | catalog =>
    cases held : l.catalog with
    | none => simp [address?,held] at unused
    | some v =>
      refine ⟨v,rfl,rfl,?_⟩
      change l.ruleCatalog = _
      unfold Loader.ruleCatalog
      rw [held]

theorem runUsed {call : DocumentCall} {l : Loader} {u} (used : call.address? l = some u) :
    call.run l =
      match (l.load u).1 >>= call.verdict u with
      | .error f => (.error f,(l.load u).2)
      | .ok w => (.ok w,call.keep w (l.load u).2) := by
  cases call with
  | catalog =>
    cases held : l.catalog with
    | some v => simp [address?,held] at used
    | none =>
      obtain rfl : l.text "rule_catalog_uri" = u := by simpa [address?,held] using used
      simp only [run,Loader.ruleCatalog,held]
      rcases l.load (l.text "rule_catalog_uri") with ⟨_ | v,l'⟩
      · rfl
      · simp only [bind,Except.bind,verdict,schema,taken]
        cases Schema.ruleCatalog.demand (l.text "rule_catalog_uri") v <;> rfl
  | messages locale =>
    cases used
    simp only [run,Loader.messageDocument]
    rcases l.load (l.tableAddress locale) with ⟨_ | v,l'⟩
    · rfl
    · simp only [bind,Except.bind,verdict,schema,taken]
      cases Schema.messageTable.demand (l.tableAddress locale) (Loader.tableFields v) <;> rfl

theorem answerUsed {call : DocumentCall} {l : Loader} {u} (used : call.address? l = some u) :
    (call.run l).1 = (l.load u).1 >>= call.verdict u := by
  rw [runUsed used]
  cases (l.load u).1 >>= call.verdict u <;> rfl

end DocumentCall

namespace Loader

structure Same (l l' : Loader) : Prop where
  outside : l'.outside = l.outside
  configPath : l'.configPath = l.configPath
  config : l'.config = l.config

theorem Same.refl (l : Loader) : Same l l := ⟨rfl,rfl,rfl⟩

theorem Same.trans {a b c : Loader} (first : Same a b) (second : Same b c) : Same a c :=
  ⟨second.outside.trans first.outside,second.configPath.trans first.configPath,second.config.trans first.config⟩

theorem Same.source {l l' : Loader} (same : Same l l') (address : String) : l'.source address = l.source address := by
  unfold Loader.source fromHere
  rw [same.configPath]

theorem loadSame (l : Loader) (address : String) : l.Same (l.load address).2 := by
  have outcomes := l.loads address
  generalize l.load address = answer at outcomes
  cases outcomes <;> exact ⟨rfl,rfl,rfl⟩

theorem loadCatalog (l : Loader) (address : String) : (l.load address).2.catalog = l.catalog := by
  have outcomes := l.loads address
  generalize l.load address = answer at outcomes
  cases outcomes <;> rfl

end Loader

namespace DocumentCall
variable {call : DocumentCall} {l : Loader}

theorem keepSame (w : Value) : l.Same (call.keep w l) := by
  cases call <;> exact ⟨rfl,rfl,rfl⟩

theorem runSame : l.Same (call.run l).2 := by
  cases used : call.address? l with
  | none =>
    obtain ⟨v,_,_,ran⟩ := runUnused used
    rw [ran]
    exact .refl l
  | some u =>
    rw [runUsed used]
    split
    · exact l.loadSame u
    · exact (l.loadSame u).trans (keepSame _)

theorem runLoads {u} (used : call.address? l = some u) :
    (call.run l).2.fetched = (l.load u).2.fetched ∧ (call.run l).2.kept = (l.load u).2.kept := by
  rw [runUsed used]
  split
  · exact ⟨rfl,rfl⟩
  · cases call <;> exact ⟨rfl,rfl⟩

end DocumentCall

structure Visit where
  before : Loader
  call : DocumentCall

inductive Loader.Run (opening : Loader) : List Visit → Loader → Prop where
  | start : Run opening [] opening
  | next {past l} (before : Run opening past l) (call : DocumentCall) : Run opening (⟨l,call⟩ :: past) (call.run l).2

theorem Loader.readFresh {o path l} (read : Loader.ofFile o path = .ok l) : l.kept = [] ∧ l.catalog = none := by
  simp only [Loader.ofFile,bindOk] at read
  obtain ⟨_,_,_,_,last⟩ := read
  cases last
  exact ⟨rfl,rfl⟩

end FormGuard
