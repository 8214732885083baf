import FormGuard.Text.Pieces

/-! The arguments of the command: `--debug` and `--help`, which may be cut short, and `-h`. Help is given as soon as it
is asked for; an option with a value, and anything else, is refused. -/
namespace FormGuard
namespace Arguments
open FormGuard.Text

inductive Argument where
  | debug
  | help
  | misused
  -- refused before any other argument is looked at
  | ambiguous
  -- refused in the end, if help is not asked for before
  | surplus
  deriving DecidableEq, Repr

def options : List (List Char × Argument) := [("--help".toList,.help),("--debug".toList,.debug)]

def readLong (cs : List Char) : Argument :=
  let name := cs.takeWhile (· != '=')
  match options.filter fun o => startsWith name o.1 with
  | [] => .surplus
  | [o] => if name.length = cs.length then o.2 else .misused
  | _ => .ambiguous

def readShort : List Char → Argument
  | [] => .help
  | c :: cs => if c = '=' ∨ c = '-' then .misused else if c = 'h' then readShort cs else .help

def readOne : List Char → Argument
  | '-' :: '-' :: cs => readLong ('-' :: '-' :: cs)
  | '-' :: 'h' :: cs => readShort cs
  | _ => .surplus

def readAll : List (List Char) → List Argument
  | [] => []
  | cs :: rest =>
    if cs = ['-','-'] then .surplus :: rest.map fun _ => .surplus else readOne cs :: readAll rest

inductive Task where
  | serve (debug : Bool)
  | showHelp
  | refuse
  deriving DecidableEq, Repr

def settle : (debug surplus : Bool) → List Argument → Task
  | debug,surplus,[] => if surplus then .refuse else .serve debug
  | debug,surplus,a :: rest =>
    match a with
    | .debug => settle true surplus rest
    | .help => .showHelp
    | .misused | .ambiguous => .refuse
    | .surplus => settle debug true rest

def read (args : List String) : Task :=
  let arguments := readAll (args.map String.toList)
  if arguments.contains .ambiguous then .refuse else settle false false arguments

end Arguments
end FormGuard
