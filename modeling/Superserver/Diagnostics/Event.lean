import Superserver.Log.Record

/-!
What an operator hears about workers. The text of each event is the exact line that is printed.
-/

namespace Superserver

abbrev Pid := Nat

inductive Event where
  | created (pid : Pid) (remote : String)
  /-- The status is the raw one of the wait. -/
  | exited (pid : Pid) (status : Int)
  | line (pid : Pid) (text : String)
  | pipeError (pid : Pid)
  | forwardFailed (pid : Pid) (reason : String)
deriving DecidableEq, Repr

namespace Event

def pid : Event → Pid
  | .created pid _ | .exited pid _ | .line pid _ | .pipeError pid | .forwardFailed pid _ => pid

def text : Event → String
  | .created pid remote => s!"Process {pid} created ({remote})"
  | .exited pid status => s!"Process {pid} exited ({status})"
  | .line pid text => s!"{pid}: {text}"
  | .pipeError pid => s!"Process {pid} has a pipe error"
  | .forwardFailed pid reason => s!"Could not forward I/O for process {pid}: {reason}"

instance : ToString Event := ⟨text⟩

def level : Event → Level
  | .pipeError _ | .forwardFailed .. => .warn
  | _ => .info

def record (event : Event) : Record :=
  { level := event.level, target := "served::process", message := event.text }

end Event

end Superserver
