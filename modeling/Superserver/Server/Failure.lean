import Superserver.AdmissionLimit
import Superserver.CommandLine.Options
import Superserver.Config.Error
import Superserver.Listener.Basic

/-!
Why the program ends without having served, and what it says then.
-/

namespace Superserver

inductive DetachError where
  | openPidFile (number : Nat)
  | openNullDevice (number : Nat)
deriving DecidableEq

def DetachError.message : DetachError → String
  | .openPidFile number => s!"unable to open pid file, errno {number}"
  | .openNullDevice number => s!"unable to open /dev/null, errno {number}"

inductive Failure where
  | usage (error : UsageError)
  | config (error : ConfigError)
  | listener (error : ListenerError)
  | limit (error : LimitError)
  | stateDirectory (error : SystemError)
  | logFile (error : SystemError)
  | logCopy (error : SystemError)
  | detach (error : DetachError)

namespace Failure

def message : Failure → String
  | .usage error => error.headline
  | .config error => error.message
  | .listener error => error.message
  | .limit error => error.message
  | .stateDirectory _ => "Failed to create state directory"
  | .logFile _ => "Failed to create log file for stdout"
  | .logCopy _ => "Failed to create log file for stderr"
  | .detach _ => "Failed to daemonize"

def sources : Failure → List String
  | .usage _ => []
  | .config error => error.sources
  | .listener error => error.sources
  | .limit error => error.sources
  | .stateDirectory error | .logFile error | .logCopy error => [error.message]
  | .detach error => [error.message]

/-- The exit code of the process that was started. One that has let go of the terminal has ended
well before anything else could go wrong. -/
def exitCode : Failure → Nat
  | .usage error => error.exitCode
  | .detach _ => 0
  | _ => 1

def indented (text : String) : String :=
  "\n".intercalate ((Text.pieces (· == '\n') text.toList).map fun line =>
    "    " ++ String.ofList line)

def report (message : String) (sources : List String) : String :=
  let causes := match sources with
    | [] => ""
    | sources => "\nCaused by:\n" ++ String.join (sources.map fun source => indented source ++ "\n")
  s!"Error: {message}\n{causes}"

def isAnswer : Failure → Bool
  | .usage error => error.exitCode = 0
  | _ => false

def text (failure : Failure) : String :=
  match failure with
  | .usage error => error.text
  | failure => report failure.message failure.sources

end Failure

end Superserver
