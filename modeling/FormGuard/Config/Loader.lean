import FormGuard.Config.Address
import FormGuard.Config.FileTree
import FormGuard.Config.Settings
import FormGuard.Config.Shape
import FormGuard.Message.Translator

/-! Loading the configuration. A local configuration names a rule catalog and the place of the message tables, by path
or by address. What was fetched from a remote address once is kept, whether or not it is of use; a request that
fails leaves nothing behind. The catalog is kept as soon as it has met its schema. -/
namespace FormGuard

/-- What keeps the reader of documents from giving one: the text is none, or the reader itself breaks down on it. -/
inductive DocumentDefect where
  | malformed
  | breakdown (f : Fault)

/-- What there is to load from. The reader of documents belongs to it: each file is as the reader finds it, and `parse`
is what it makes of the text that a request brings. Requests are answered by their number. -/
structure Outside where
  files : FileTree (Except DocumentDefect Value)
  fetch : Nat → String → Except String String
  parse : String → Except DocumentDefect Value

structure Loader where
  outside : Outside
  configPath : List Char
  config : Value
  -- requests made so far
  fetched : Nat
  kept : List (String × Value)
  catalog : Option Value

namespace Outside

def fileAt (o : Outside) (otherwise : String → Problem) (path : List Char) : Except Failure Value :=
  if path.contains '\x00' then .error (.fault .badValue)
  else
    match o.files.open? path with
    | none => .error (.problem (otherwise "there is no such file"))
    | some (.ok v) => .ok v
    | some (.error .malformed) => .error (.problem (otherwise "the file holds no document"))
    | some (.error (.breakdown f)) => .error (.fault f)

end Outside

namespace Schema

def demand (s : Schema) (source : String) (v : Value) : Except Failure Unit :=
  match s.check v with
  | none => .ok ()
  | some (path,c) => .error (.problem (.badDocument source path c))

end Schema

namespace Loader

def ofFile (o : Outside) (path : String) : Except Failure Loader := do
  let config ← o.fileAt (.unreadableConfig path) path.toList
  Schema.localConfig.demand path config
  return ⟨o,path.toList,config,0,[],none⟩

def text (l : Loader) (name : String) : String :=
  match l.config with
  | .object fields =>
    match Table.get? fields name with
    | some (.text s) => s
    | _ => ""
  | _ => ""

def settings (l : Loader) : Settings := .ofEntries (Settings.entries l.config)

def fromHere (l : Loader) (path : String) : List Char :=
  Path.join (Path.folder (Path.normalize l.configPath)) path.toList

def resolve (l : Loader) (address : String) : Except Fault String := do
  let a ← Address.read address
  return if a.scheme = "" then String.ofList (l.fromHere address) else address

def request (l : Loader) (address : String) : Except Failure Value × Loader :=
  match l.kept.lookup address with
  | some v => (.ok v,l)
  | none =>
    let answer := l.outside.fetch l.fetched address
    let l := { l with fetched := l.fetched + 1 }
    match answer with
    | .error reason => (.error (.problem (.unfetched address reason)),l)
    | .ok body =>
      match l.outside.parse body with
      | .ok v => (.ok v,{ l with kept := (address,v) :: l.kept })
      | .error .malformed => (.error (.problem (.unparsable address "the answer holds no document")),l)
      | .error (.breakdown f) => (.error (.fault f),l)

def load (l : Loader) (address : String) : Except Failure Value × Loader :=
  match Address.read address with
  | .error f => (.error (.fault f),l)
  | .ok a =>
    let file (path : List Char) := (l.outside.fileAt (.unreadable (String.ofList path)) path,l)
    if a.scheme = "" then file (l.fromHere address)
    else if a.scheme = "file" then file (Address.unescape a.path)
    else if a.scheme = "http" ∨ a.scheme = "https" then l.request address
    else (.error (.problem (.unsupportedScheme a.scheme address)),l)

def ruleCatalog (l : Loader) : Except Failure Value × Loader :=
  match l.catalog with
  | some v => (.ok v,l)
  | none =>
    let address := l.text "rule_catalog_uri"
    match l.load address with
    | (.error f,l) => (.error f,l)
    | (.ok v,l) =>
      match Schema.ruleCatalog.demand address v with
      | .error f => (.error f,l)
      | .ok () => (.ok v,{ l with catalog := some v })

def tableAddress (l : Loader) (locale : String) : String :=
  let place := l.text "locales_location"
  place ++ (if place.toList.getLast? = some '/' then "" else "/") ++ locale ++ ".yaml"

def tableFields : Value → Value
  | v => if v.truthy then v else .object []

def messageDocument (l : Loader) (locale : String) : Except Failure Value × Loader :=
  let address := l.tableAddress locale
  match l.load address with
  | (.error f,l) => (.error f,l)
  | (.ok v,l) =>
    let v := tableFields v
    match Schema.messageTable.demand address v with
    | .error f => (.error f,l)
    | .ok () => (.ok v,l)

def tableOf : Value → MessageTable
  | .object fields => fields.filterMap fun (n,v) =>
    match v with
    | .text s => some (n,s)
    | _ => none
  | _ => []

def messages (l : Loader) (locale : String) : Except Failure MessageTable × Loader :=
  match l.messageDocument locale with
  | (.error f,l) => (.error f,l)
  | (.ok v,l) => (.ok (tableOf v),l)

def translator (l : Loader) (locale : Option String) : Except Failure Translator × Loader :=
  let locale := locale.getD l.settings.locale
  match l.messages locale with
  | (.error f,l) => (.error f,l)
  | (.ok table,l) =>
    match l.settings.fallbackLocale.filter (· != locale) with
    | none => (.ok ⟨table,[],locale⟩,l)
    | some other =>
      match l.messages other with
      | (.error f,l) => (.error f,l)
      | (.ok fallback,l) => (.ok ⟨table,fallback,locale⟩,l)

end Loader
end FormGuard
