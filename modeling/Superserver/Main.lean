import Superserver.Server.Serving

/-!
The command line. A run is rehearsed on the modelled system: the environment is the real one, every
line of the standard input is what one client sends, and after the log stands what each client was
sent back.
-/

namespace Superserver

namespace Terminal

def consulted : List String := ["HOME", "PATH", "RUST_LOG", "XDG_CONFIG_HOME", "XDG_STATE_HOME"]

def readEnvironment : IO (List (String × String)) := do
  let values ← consulted.mapM fun name => do return (name, ← IO.getEnv name)
  return values.filterMap fun entry => entry.2.map fun value => (entry.1, value)

partial def readLines (input : IO.FS.Stream) : IO (List String) := do
  let line ← input.getLine
  if line.isEmpty then return []
  return line :: (← readLines input)

def workplace : Path := [bytesOf "run"]

/-- The number of the rehearsed process; workers have those after it. -/
def processNumber : Pid := 1000

def socketPath (arguments : List String) : Bytes :=
  match Options.parse arguments with
  | .ok { address := some (.unix path), .. } => path
  | _ => []

def rehearse (arguments lines : List String) (environment : List (String × String)) :
    Transcript :=
  let host := { (Host.workingIn workplace).withEnvironment environment with
    nextPid := processNumber + 1 }
  Transcript.ofRun processNumber arguments (socketPath arguments) (lines.map bytesOf) host

def run (arguments : List String) : IO UInt32 := do
  let transcript := rehearse arguments (← readLines (← IO.getStdin)) (← readEnvironment)
  IO.print transcript.session.output
  IO.eprint transcript.session.errors
  for reply in transcript.replies do
    IO.print (Utf8.decodeLossy reply)
  return UInt32.ofNat transcript.exitCode

end Terminal

end Superserver

def main (arguments : List String) : IO UInt32 := Superserver.Terminal.run arguments
