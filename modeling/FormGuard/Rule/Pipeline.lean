import FormGuard.Calendar.Naming
import FormGuard.Pattern.Reader
import FormGuard.Rule.Catalog

/-! Rule strings. Tokens stand between bars and parameters between colons; a parameter that begins with `alt=` opens the
alternative text, which runs to the end of the token. One custom clause `regex:<message>:=<pattern>:regex` may hold
bars and colons of its own: it is taken out first, and the token `regex:` stays in its place. -/
namespace FormGuard
open FormGuard.Text

structure Descriptor where
  ruleName : String
  kind : RuleKind
  messageKey : String
  pattern : Option String
  altText : String
  params : List String
  condition : Condition
  dateFormat : Option String
  deriving DecidableEq, Repr

structure CustomClause where
  message : String
  pattern : String
  deriving DecidableEq, Repr

structure Pipeline where
  -- the rule string without the custom clause
  source : String
  descriptors : List Descriptor
  isRequired : Bool
  custom : Option CustomClause
  deriving DecidableEq, Repr

def requiredRule : String := "required"
def customRule : String := "regex"

namespace Clause

def opening : List Char := "regex:".toList
def closing : List Char := ":regex".toList
def separator : List Char := ":=".toList

def next? (cs : List Char) : Option (List Char × List Char × List Char) := do
  let (before,rest) ← breakOn? opening cs
  let (body,behind) ← breakOn? closing rest
  return (before,body,behind)

/-- A pattern that is merely ill-formed is `none`; other defects break off. -/
def readable (pattern : List Char) (otherwise : String → Problem) : Except Failure Unit :=
  match Pattern.read .none pattern with
  | .ok _ => .ok ()
  | .error d =>
    match d.fault with
    | .badPattern => .error (.problem (otherwise d.detail))
    | f => .error (.fault f)

def extract (rules : String) : Except Failure (List Char × Option CustomClause) :=
  let cs := rules.toList
  if !occurs opening cs then .ok (cs,none)
  else
    match next? cs with
    | none => .error (.problem (.unclosedClause rules))
    | some (before,body,behind) =>
      if (next? behind).isSome then .error (.problem (.repeatedClause rules))
      else
        match breakOn? separator body with
        | none => .error (.problem (.clauseWithoutSeparator (String.ofList (opening ++ body ++ closing))))
        | some (message,pattern) =>
          match readable pattern (.badClausePattern (String.ofList pattern)) with
          | .error f => .error f
          | .ok () =>
            .ok (before ++ opening ++ behind,some ⟨String.ofList message,String.ofList pattern⟩)

end Clause

structure Token where
  name : String
  params : List String
  altText : String
  deriving DecidableEq, Repr

namespace Token

def altMark : List Char := "alt=".toList

def splitAlt : List (List Char) → List (List Char) × List Char
  | [] => ([],[])
  | p :: ps =>
    if startsWith altMark p then ([],join [':'] (p :: ps))
    else
      let (params,alt) := splitAlt ps
      (p :: params,alt)

def ofChars? (cs : List Char) : Option Token :=
  match splitOn ':' cs with
  | [] => none
  | head :: rest =>
    let name := strip head
    if name.isEmpty then none
    else
      let (params,alt) := splitAlt rest
      some ⟨String.ofList name,params.map String.ofList,String.ofList alt⟩

end Token

namespace RuleDefinition

/-- Empty parameters do not count, and a rule with up to two takes a single one apart at its commas. -/
def arrangeParams (d : RuleDefinition) (params : List String) : List String :=
  let params := params.filter (· != "")
  match params with
  | [p] =>
    if d.mostParams = 2 ∧ p.toList.contains ',' then (splitOn ',' p.toList).map String.ofList else params
  | _ => params

def checkArity (d : RuleDefinition) (params : List String) : Except Failure (List String) :=
  let params := d.arrangeParams params
  if d.leastParams ≤ params.length ∧ params.length ≤ d.mostParams then .ok params
  else .error (.problem (.wrongArity d.name d.leastParams d.mostParams params))

def isWhole (p : String) : Bool := !p.isEmpty && p.toList.all fun c => isAsciiDigit c.toNat

def isNumber (p : String) : Bool :=
  match Numeral.readDecimal? p.toList with
  | some x => !x.isNan
  | none => false

def layoutName (d : RuleDefinition) : String :=
  match d.dateFormat with
  | some s => if s = "" then "ISO" else s
  | none => "ISO"

/-- A date that overflows is no misfit: it breaks off. -/
def isDate (d : RuleDefinition) (p : String) : Except Failure Bool :=
  match readDate false (.text d.layoutName) (.text p) with
  | .ok _ => .ok true
  | .error (.fault .badValue) => .ok false
  | .error (.problem (.unknownLayout _)) => .ok false
  | .error f => .error f

def suits (d : RuleDefinition) (p : String) : Except Failure (Bool × String) :=
  match d.paramType with
  | .integer => .ok (isWhole p,"a whole number")
  | .number => .ok (isNumber p,"a number")
  | .date => do return (← d.isDate p,"a " ++ d.layoutName ++ " date")
  | .free _ => .ok (true,"")

def checkParams (d : RuleDefinition) : List String → Except Failure Unit
  | [] => .ok ()
  | p :: ps => do
    let (fine,expected) ← d.suits p
    if fine then d.checkParams ps else .error (.problem (.unsuitableParam d.name expected p))

def checkPattern (d : RuleDefinition) (params : List String) : Option String → Except Failure Unit
  | none => .ok ()
  | some p => Clause.readable p.toList (.unusablePattern d.name params)

def describe (d : RuleDefinition) (custom : Option CustomClause) (t : Token) : Except Failure Descriptor :=
  if d.name = customRule then
    match custom with
    | none => .error (.problem .clauseMissing)
    | some c => .ok ⟨d.name,d.kind,d.messageKey,some c.pattern,t.altText,[c.message],.absent,none⟩
  else do
    let params ← d.checkArity t.params
    d.checkParams params
    let pattern := d.buildPattern params
    d.checkPattern params pattern
    return ⟨d.name,d.kind,d.messageKey,pattern,t.altText,params,d.condition,d.dateFormat⟩

end RuleDefinition

namespace Catalog

def describeTokens (custom : Option CustomClause) :
    (position : Nat) → (tokens : List (List Char)) → Catalog → Except Failure (List Descriptor) × Catalog
  | _,[],c => (.ok [],c)
  | position,t :: ts,c =>
    match Token.ofChars? t with
    | none => (.error (.problem (.emptyRule position)),c)
    | some token =>
      match c.lookup token.name with
      | (.error f,c) => (.error f,c)
      | (.ok d,c) =>
        match d.describe custom token with
        | .error f => (.error f,c)
        | .ok descriptor =>
          match describeTokens custom (position + 1) ts c with
          | (.ok rest,c) => (.ok (descriptor :: rest),c)
          | (.error f,c) => (.error f,c)

def parse (c : Catalog) (rules : String) : Except Failure Pipeline × Catalog :=
  match Clause.extract rules with
  | .error f => (.error f,c)
  | .ok (source,custom) =>
    match c.describeTokens custom 0 (splitOn '|' source) with
    | (.error f,c) => (.error f,c)
    | (.ok descriptors,c) =>
      (.ok ⟨String.ofList source,descriptors,descriptors.any (·.ruleName == requiredRule),custom⟩,c)

end Catalog

/-- The rule string that a value stands for: whatever counts as false stands for the empty one. Rules in a list or an
object cannot be cut into tokens, nor can a clause be sought among them when its mark is there. -/
def rulesOf : Value → Except Fault String
  | .text s => .ok s
  | v =>
    if !v.truthy then .ok ""
    else match v with
      | .list vs => .error (if vs.any (·.equals (.text "regex:")) then .badKind else .noTable)
      | .object fields => .error (if Table.has fields "regex:" then .badKind else .noTable)
      | _ => .error .badKind

end FormGuard
