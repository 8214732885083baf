import FormGuard.Rule.Definition

/-! Rule catalogs. A name is an alias, one step deep, or the name of a rule; `find` answers from the document,
`lookup` also remembers its answers under the name that was asked for. -/
namespace FormGuard

structure Catalog where
  rules : Option Value.Fields
  aliases : Option Value.Fields
  loaded : List (String × RuleDefinition)
  deriving Repr

namespace Catalog

def table? : Value → Option Value.Fields
  | .object fields => some fields
  | _ => none

def ofDocument : Value → Except Fault Catalog
  | .object fields =>
    let rules := match Table.get? fields "rules" with
      | none => some []
      | some v => table? v
    let aliases := match Table.get? fields "aliases" with
      | none => some []
      | some v => if v.truthy then table? v else some []
    .ok ⟨rules,aliases,[]⟩
  | _ => .error .noTable

def insertSorted (s : String) : List String → List String
  | [] => [s]
  | t :: rest =>
    match Value.compareChars s.toList t.toList with
    | .lt => s :: t :: rest
    | .eq => t :: rest
    | .gt => t :: insertSorted s rest

def sorted (names : List String) : List String := names.foldr insertSorted []

def names (c : Catalog) : Except Fault (List String) :=
  match c.rules,c.aliases with
  | some rules,some aliases => .ok (sorted (rules.map (·.1) ++ aliases.map (·.1)))
  | _,_ => .error .badKind

def canonical (c : Catalog) (name : String) : Except Fault Value :=
  match c.aliases with
  | none => .error .noTable
  | some aliases => .ok ((Table.get? aliases name).getD (.text name))

def unknown (c : Catalog) (name : String) : Failure :=
  match c.names with
  | .ok known => .problem (.unknownRule name known)
  | .error f => .fault f

def find (c : Catalog) (name : String) : Except Failure RuleDefinition :=
  match c.canonical name,c.rules with
  | .error f,_ => .error (.fault f)
  | _,none => .error (.fault .noTable)
  | .ok (.text key),some rules =>
    match Table.get? rules key with
    | none | some .null => .error (c.unknown name)
    | some entry =>
      match RuleDefinition.ofEntry key entry with
      | .ok d => .ok d
      | .error f => .error (.fault f)
  | .ok key,some _ => .error (if key.canName then c.unknown name else .fault .badKind)

def lookup (c : Catalog) (name : String) : Except Failure RuleDefinition × Catalog :=
  match c.loaded.lookup name with
  | some d => (.ok d,c)
  | none =>
    match c.find name with
    | .ok d => (.ok d,{ c with loaded := (name,d) :: c.loaded })
    | .error f => (.error f,c)

end Catalog
end FormGuard
