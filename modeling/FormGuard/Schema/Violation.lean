import FormGuard.Pattern.Matching
import FormGuard.Pattern.Reader
import FormGuard.Schema.Basic

/-! Violations of a schema, and the one that is reported: of all violations the one nearest the root, of those
the one with the greatest path; a choice between branches is reported only for want of anything else, and then
gives way to the most telling violation inside its branches, as long as that one stands out. -/
namespace FormGuard

inductive Violation where
  | mk (path : List PathStep) (complaint : Complaint) (branches : List Violation) (ofDeclaredKind : Bool)

namespace Violation

def path : Violation → List PathStep
  | mk p _ _ _ => p

def complaint : Violation → Complaint
  | mk _ c _ _ => c

def branches : Violation → List Violation
  | mk _ _ bs _ => bs

def ofDeclaredKind : Violation → Bool
  | mk _ _ _ k => k

def under (step : PathStep) : Violation → Violation
  | mk p c bs k => mk (step :: p) c bs k

def isChoice (v : Violation) : Bool :=
  match v.complaint with
  | .noBranch _ => true
  | _ => false

end Violation

namespace Schema

def matchesPattern (source s : String) : Bool :=
  match Pattern.read .none source.toList with
  | .ok p => p.search s.toList
  | .error _ => false

def ltInt (v : Value) (n : Int) : Bool := v.standing (.int n) == .ordered .lt
def gtInt (v : Value) (n : Int) : Bool := v.standing (.int n) == .ordered .gt

def isNumber : Value → Bool
  | .int _ | .float _ => true
  | _ => false

def reported (declared : List SchemaKind) (v : Value) (c : Complaint) (branches : List Violation) : Violation :=
  .mk [] c branches (declared.any (·.fits v))

def complain (declared : List SchemaKind) (v : Value) (c : Complaint) : List Violation := [reported declared v c []]

def choice (declared : List SchemaKind) (v : Value) : Option (List Violation) → List Violation
  | none => []
  | some inner => [reported declared v (.noBranch v) inner]

mutual

def violations (declared : List SchemaKind) : Schema → Value → List Violation
  | all demands,v => violationsOfAll (Schema.declared demands) demands v
  | kinds ks,v => if ks.any (·.fits v) then [] else complain declared v (.wrongKind v ks)
  | minLength n,v =>
    match v with
    | .text s => if s.length < n then complain declared v (.tooShort v n) else []
    | _ => []
  | pattern source,v =>
    match v with
    | .text s => if matchesPattern source s then [] else complain declared v (.unmatched v source)
    | _ => []
  | minimum n,v => if isNumber v && ltInt v n then complain declared v (.tooSmall v n) else []
  | maximum n,v => if isNumber v && gtInt v n then complain declared v (.tooGreat v n) else []
  | minItems n,v =>
    match v with
    | .list vs => if vs.length < n then complain declared v (.tooFewItems v n) else []
    | _ => []
  | maxItems n,v =>
    match v with
    | .list vs => if n < vs.length then complain declared v (.tooManyItems v n) else []
    | _ => []
  | minEntries n,v =>
    match v with
    | .object fields => if fields.length < n then complain declared v (.tooFewEntries v n) else []
    | _ => []
  | options texts,v =>
    match v with
    | .text s => if texts.contains s then [] else complain declared v (.noOption v texts)
    | _ => complain declared v (.noOption v texts)
  | entries known,v =>
    match v with
    | .object fields => violationsOfEntries known fields
    | _ => []
  | otherEntries known s,v =>
    match v with
    | .object fields =>
      (fields.filter fun (n,_) => !known.contains n).flatMap fun (n,w) =>
        (violations [] s w).map (·.under (.entry n))
    | _ => []
  | noOtherEntries known,v =>
    match v with
    | .object fields =>
      let extra := (fields.map (·.1)).filter fun n => !known.contains n
      let sorted := extra.mergeSort fun a b => Value.compareChars a.toList b.toList != .gt
      if extra.isEmpty then [] else complain declared v (.unexpected sorted)
    | _ => []
  | required names,v =>
    match v with
    | .object fields =>
      (names.filter fun n => !Table.has fields n).flatMap fun n => complain declared v (.missing n)
    | _ => []
  | items s,v =>
    match v with
    | .list vs => (vs.zipIdx).flatMap fun (w,i) => (violations [] s w).map (·.under (.position i))
    | _ => []
  | anyOf branches,v => choice declared v (violationsOfBranches branches v)
  | oneOf branches,v => choice declared v (violationsOfBranches branches v)

def violationsOfAll (declared : List SchemaKind) : List Schema → Value → List Violation
  | [],_ => []
  | s :: rest,v => violations declared s v ++ violationsOfAll declared rest v

def violationsOfEntries : List (String × Schema) → Value.Fields → List Violation
  | [],_ => []
  | (n,s) :: rest,fields =>
    (match Table.get? fields n with
      | some v => (violations [] s v).map (·.under (.entry n))
      | none => []) ++ violationsOfEntries rest fields

def violationsOfBranches : List Schema → Value → Option (List Violation)
  | [],_ => some []
  | s :: rest,v =>
    match violations [] s v with
    | [] => none
    | vs => (violationsOfBranches rest v).map (vs ++ ·)

end

end Schema

namespace Violation

def comparePaths : List PathStep → List PathStep → Ordering
  | [],[] => .eq
  | [],_ :: _ => .lt
  | _ :: _,[] => .gt
  | a :: as,b :: bs => (a.compare b).then (comparePaths as bs)

def weigh (a b : Violation) : Ordering :=
  (compare b.path.length a.path.length).then <| (comparePaths a.path b.path).then <|
    (compare (!a.isChoice).toNat (!b.isChoice).toNat).then <|
      compare (!a.ofDeclaredKind).toNat (!b.ofDeclaredKind).toNat

def heaviest? : List Violation → Option Violation
  | [] => none
  | v :: rest => some (rest.foldl (fun best w => if weigh best w == .lt then w else best) v)

def lightestTwo : List Violation → Option (Violation × Option Violation)
  | [] => none
  | v :: rest =>
    some <| rest.foldl
      (fun (best,second) w =>
        if weigh w best == .lt then (w,some best)
        else match second with
          | none => (best,some w)
          | some s => if weigh w s == .lt then (best,some w) else (best,second))
      (v,none)

def depth : Violation → Nat
  | mk _ _ bs _ => 1 + depths bs
where
  depths : List Violation → Nat
    | [] => 0
    | v :: vs => max (depth v) (depths vs)

/-- Goes down the branches while one violation is lighter than all others; the path is from the root. -/
def settle : (fuel : Nat) → (above : List PathStep) → Violation → List PathStep × Complaint
  | 0,above,v => (above ++ v.path,v.complaint)
  | fuel + 1,above,v =>
    match lightestTwo v.branches with
    | none => (above ++ v.path,v.complaint)
    | some (best,second) =>
      if second.any (weigh best · == .eq) then (above ++ v.path,v.complaint)
      else settle fuel (above ++ v.path) best

end Violation

namespace Schema

def check (s : Schema) (v : Value) : Option (List PathStep × Complaint) :=
  (Violation.heaviest? (s.violations [] v)).map fun w => w.settle w.depth []

end Schema

def pathText (path : List PathStep) : String :=
  if path.isEmpty then "root" else String.intercalate " -> " (path.map PathStep.text)

end FormGuard
