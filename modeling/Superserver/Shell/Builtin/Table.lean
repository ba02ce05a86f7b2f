import Superserver.Shell.Builtin.Control
import Superserver.Shell.Builtin.Place
import Superserver.Shell.Builtin.Variables

/-!
The shell's own commands by name. Those that run other commands have no entry of their own.
-/

namespace Superserver.Shell

abbrev Builtin := (previous : Nat) → List Octets → Run Unit

def builtin? (name : String) : Option Builtin :=
  match name with
  | ":" | "true" | "alias" | "unalias" | "jobs" | "hash" => some fun _ _ => return
  | "bg" | "fg" => some fun _ => moveJob
  | "times" => some fun _ _ => print "0m0.000000s 0m0.000000s\n0m0.000000s 0m0.000000s\n".toList
  | "false" => some fun _ _ => setStatus 1
  | "[" => some fun _ => test true
  | "test" => some fun _ => test false
  | "break" => some fun _ => skipLoops false
  | "continue" => some fun _ => skipLoops true
  | "cd" | "chdir" => some fun _ => changeDirectory
  | "pwd" => some fun _ => showDirectory
  | "echo" => some fun _ arguments => print (echoed arguments)
  | "exit" => some exitShell
  | "return" => some returnFrom
  | "export" => some fun _ => exportVariables
  | "readonly" => some fun _ => protectVariables
  | "unset" => some fun _ => unsetNames
  | "local" => some fun _ => localVariables
  | "getopts" => some fun _ => getOptions
  | "kill" => some fun _ => kill
  | "printf" => some fun _ => printFormatted
  | "read" => some fun _ => readLine
  | "set" => some fun _ => setCommand
  | "shift" => some fun _ => shift
  | "trap" => some fun _ => trap
  | "ulimit" => some fun _ => limit
  | "umask" => some fun _ => fileMask
  | "wait" => some fun _ => wait
  | _ => none

def evaluators : List String := [".", "command", "eval", "exec", "type"]

def isBuiltin (name : String) : Bool := evaluators.contains name || (builtin? name).isSome

/-- Commands after whose name a word that gives a variable a value is not cut into fields. -/
def declares (name : Octets) : Bool :=
  ["export", "readonly", "local", "alias"].contains (String.ofList name)

end Superserver.Shell
