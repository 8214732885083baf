import FormGuard.Config.Bundled
import FormGuard.Service.Arguments
import FormGuard.Service.Loop

/-! The command: a server for the lines of standard input, over the configuration that comes with the library. -/
namespace FormGuard

def usage : String :=
  "usage: formguard [-h] [--debug]\n\nAnswers JSON-RPC 2.0 requests, one on a line.\n\noptions:\n" ++
    "  -h, --help  show this message\n  --debug     say on standard error what is done"

def libraryFolder : String := "/formguard"

def bundledSession : Except Failure Session := do
  let files := Bundled.addTo ⟨[]⟩ libraryFolder
  let outside : Outside := ⟨files,fun _ _ => .error "unreachable",fun _ => .error .malformed⟩
  Service.start (← Loader.ofFile outside (libraryFolder ++ "/local-config.yaml"))

def report (debug : Bool) (t : Trace) : IO Unit := do
  if debug then IO.eprintln ("[DEBUG] " ++ t.text .plain)
  match t with
  | .sending r =>
    IO.println (Json.write (r.toValue .plain))
    (← IO.getStdout).flush
  | _ => pure ()

partial def answerInput (debug : Bool) (s : Session) : IO Session := do
  let line ← (← IO.getStdin).getLine
  let reading := if line.isEmpty then Service.Reading.ended else .line line
  let (traces,goesOn,s) := Service.takeTurn ⟨false,reading⟩ s
  traces.forM (report debug)
  if goesOn then answerInput debug s else return s

def runServer (debug : Bool) : IO UInt32 := do
  match bundledSession with
  | .error _ =>
    IO.eprintln "the configuration cannot be loaded"
    return 1
  | .ok s =>
    report debug .started
    let _ ← answerInput debug s
    report debug .stopped
    return 0

end FormGuard

open FormGuard in
def main (args : List String) : IO UInt32 := do
  match Arguments.read args with
  | .serve debug => runServer debug
  | .showHelp =>
    IO.println usage
    return 0
  | .refuse =>
    IO.eprintln "usage: formguard [-h] [--debug]"
    return 2
