import FormGuard.Value.Text

/-! Schemas for documents and attribute tables. A schema is a list of demands, kept in the order in which they are
checked; a demand on one kind of value says nothing about values of other kinds. -/
namespace FormGuard

inductive SchemaKind where
  | object
  | array
  | text
  | integer
  | boolean
  | null
  deriving DecidableEq, Repr

namespace SchemaKind

def label : SchemaKind → String
  | object => "object"
  | array => "array"
  | text => "string"
  | integer => "integer"
  | boolean => "boolean"
  | null => "null"

def fits : SchemaKind → Value → Bool
  | object,.object _ => true
  | array,.list _ => true
  | text,.text _ => true
  | integer,.int _ => true
  | integer,.float x => x.toInt?.isSome
  | boolean,.bool _ => true
  | null,.null => true
  | _,_ => false

end SchemaKind

inductive Schema where
  | kinds (ks : List SchemaKind)
  | minLength (n : Nat)
  | pattern (source : String)
  | minimum (n : Int)
  | maximum (n : Int)
  | minItems (n : Nat)
  | maxItems (n : Nat)
  | minEntries (n : Nat)
  | options (texts : List String)
  | entries (known : List (String × Schema))
  | otherEntries (known : List String) (s : Schema)
  | noOtherEntries (known : List String)
  | required (names : List String)
  | items (s : Schema)
  | anyOf (branches : List Schema)
  -- branches of which no value meets two
  | oneOf (branches : List Schema)
  | all (demands : List Schema)

namespace Schema

def declared : List Schema → List SchemaKind
  | [] => []
  | kinds ks :: rest => ks ++ declared rest
  | _ :: rest => declared rest

end Schema

inductive PathStep where
  | entry (name : String)
  | position (i : Nat)
  deriving DecidableEq, Repr

namespace PathStep

def text : PathStep → String
  | entry n => n
  | position i => toString i

def compare : PathStep → PathStep → Ordering
  | entry m,entry n => Value.compareChars m.toList n.toList
  | position i,position j => Ord.compare i j
  | entry _,position _ => .lt
  | position _,entry _ => .gt

end PathStep

inductive Complaint where
  | wrongKind (v : Value) (ks : List SchemaKind)
  | noOption (v : Value) (texts : List String)
  | unmatched (v : Value) (source : String)
  | tooShort (v : Value) (least : Nat)
  | tooSmall (v : Value) (least : Int)
  | tooGreat (v : Value) (most : Int)
  | tooFewItems (v : Value) (least : Nat)
  | tooManyItems (v : Value) (most : Nat)
  | tooFewEntries (v : Value) (least : Nat)
  | missing (name : String)
  | unexpected (names : List String)
  | noBranch (v : Value)
  deriving Repr

structure Wording where
  shown : Value → String
  detail : String → String

def Wording.plain : Wording := ⟨Value.quoted,id⟩

namespace Complaint

def listed (texts : List String) : String := String.intercalate ", " (texts.map Text.quoted)

def message (w : Wording) : Complaint → String
  | wrongKind v ks => w.shown v ++ " is not of type " ++ listed (ks.map SchemaKind.label)
  | noOption v texts => w.shown v ++ " is not one of [" ++ listed texts ++ "]"
  | unmatched v source => w.shown v ++ " does not match " ++ Text.quoted source
  | tooShort v least | tooFewItems v least =>
    w.shown v ++ (if least = 1 then " should be non-empty" else " is too short")
  | tooSmall v least => w.shown v ++ " is less than the minimum of " ++ toString least
  | tooGreat v most => w.shown v ++ " is greater than the maximum of " ++ toString most
  | tooManyItems v most => w.shown v ++ (if most = 0 then " is expected to be empty" else " is too long")
  | tooFewEntries v least =>
    w.shown v ++ (if least = 1 then " should be non-empty" else " does not have enough properties")
  | missing name => Text.quoted name ++ " is a required property"
  | unexpected names =>
    "Additional properties are not allowed (" ++ listed names ++
      (if names.length = 1 then " was" else " were") ++ " unexpected)"
  | noBranch v => w.shown v ++ " is not valid under any of the given schemas"

end Complaint
end FormGuard
