import FormGuard.Value.Text

/-! Tables spelled as values: an object, or a list of pairs of a name and an entry. -/
namespace FormGuard.Value

def entryName : Value → Except Fault String
  | null => .ok "null"
  | bool b => .ok (if b then "true" else "false")
  | text s => .ok s
  | list _ | object _ => .error .badKind
  | v => v.textOf

def pair : Value → Except Fault (Value × Value)
  | list [a,b] => .ok (a,b)
  | object [(m,_),(n,_)] => .ok (.text m,.text n)
  | text s =>
    match s.toList with
    | [c,d] => .ok (.text (String.singleton c),.text (String.singleton d))
    | _ => .error .badValue
  | list _ | object _ => .error .badValue
  | _ => .error .badKind

def ofPairs : Fields → List Value → Except Fault Fields
  | fields,[] => .ok fields
  | fields,v :: rest => do
    let (name,entry) ← v.pair
    ofPairs (Table.put fields (← name.entryName) entry) rest

/-- The table a value spells; whatever is neither object, list nor text spells none. -/
def spelled : Value → Except Fault Fields
  | object fields => .ok fields
  | list items => ofPairs [] items
  | text s => ofPairs [] (s.toList.map fun c => .text (String.singleton c))
  | _ => .error .badKind

end FormGuard.Value
