import Superserver.Diagnostics.Event
import Superserver.Diagnostics.LineBuffer

/-!
What happens to workers, and what of it is told to the operator or kept for the log.
-/

namespace Superserver

inductive Report where
  | created (remote : String)
  | line (piece : Piece)
  | pipeError
  | forwardFailed (error : ForwardError)
  | pipeClosed
  | drainStopped (error : ForwardError)
  | exited (status : Int)
  /-- The exit could not be observed. -/
  | lost (error : SystemError)
deriving DecidableEq

namespace Report

def event? (pid : Pid) : Report → Option Event
  | .created remote => some (.created pid remote)
  | .line piece => some (.line pid piece.text)
  | .pipeError => some (.pipeError pid)
  | .forwardFailed error => some (.forwardFailed pid error.message)
  | .exited status => some (.exited pid status)
  | .pipeClosed | .drainStopped _ | .lost _ => none

def pidField (pid : Pid) : Field := { name := "pid", value := toString pid }

def errorField (message : String) : Field := { name := "error", value := message }

def record (pid : Pid) (report : Report) : Record :=
  match report.event? pid, report with
  | some event, _ => event.record
  | none, .drainStopped error =>
      { level := .debug, target := "served::supervisor::worker",
        message := "Stopped draining diagnostics",
        fields := [pidField pid, errorField error.message] }
  | none, .lost error =>
      { level := .warn, target := "served::supervisor",
        message := "Could not wait for worker, dropping it",
        fields := [pidField pid, errorField error.message] }
  | none, _ =>
      { level := .debug, target := "served::supervisor", message := "Diagnostic pipe closed",
        fields := [pidField pid] }

end Report

inductive Notice where
  | worker (pid : Pid) (report : Report)
  | tableGrew (old new : Nat)
  | acceptIgnored (error : SystemError)
deriving DecidableEq

namespace Notice

def event? : Notice → Option Event
  | .worker pid report => report.event? pid
  | _ => none

def record : Notice → Record
  | .worker pid report => report.record pid
  | .tableGrew old new =>
      { level := .debug, target := "served::supervisor::table", message := "Grew process table",
        fields :=
          [{ name := "from", value := toString old }, { name := "to", value := toString new }] }
  | .acceptIgnored error =>
      { level := .debug, target := "served::supervisor",
        message := "Ignoring transient accept failure",
        fields := [Report.errorField error.message] }

end Notice

end Superserver
