import FormGuard.Service.Server
import FormGuard.Text.Pieces

/-! The loop of a server: a line, an answer, until the input ends, an interrupt comes, or a stop was asked for. A
stop lets the line in hand be answered; empty lines are passed over. -/
namespace FormGuard
namespace Service

inductive Reading where
  | line (s : String)
  | ended
  | interrupted
  deriving DecidableEq, Repr

structure Turn where
  stops : Bool
  reading : Reading
  deriving DecidableEq, Repr

def strip (s : String) : String := String.ofList (Text.strip s.toList)

def takeTurn (t : Turn) (s : Session) : List Trace × Bool × Session :=
  let before := if t.stops then [Trace.stopRequested] else []
  match t.reading with
  | .ended => (before ++ [.endOfInput],false,s)
  | .interrupted => (before ++ [.interrupted],false,s)
  | .line line =>
    let stripped := strip line
    if stripped = "" then (before,!t.stops,s)
    else
      let (traces,r,s) := answerLine line s
      (before ++ .received stripped :: traces ++ [.sending r],!t.stops,s)

def takeTurns : List Turn → Session → List Trace × Session
  | [],s => ([],s)
  | t :: rest,s =>
    let (traces,goesOn,s) := takeTurn t s
    if goesOn then
      let (more,s) := takeTurns rest s
      (traces ++ more,s)
    else (traces,s)

def serve (turns : List Turn) (s : Session) : List Trace × Session :=
  let (traces,s) := takeTurns turns s
  (.started :: traces ++ [.stopped],s.close)

def linesOf (cs : List Char) : List (List Char) :=
  match Text.splitOn '\n' cs with
  | [] => []
  | pieces =>
    (pieces.dropLast.map (· ++ ['\n'])) ++ (pieces.getLast?.toList.filter (!·.isEmpty))

def turnsOf (input : String) (stop interrupt : Option Nat) : List Turn :=
  let readings := (linesOf input.toList).map (fun cs => Reading.line (String.ofList cs)) ++ [.ended]
  readings.zipIdx.map fun (r,i) => ⟨stop == some i,if interrupt == some i then .interrupted else r⟩

end Service
end FormGuard
