import Superserver.Shell.Builtin.Table
import Superserver.Shell.Parser
import Superserver.Shell.Utility.Table

/-!
Processes that a shell starts. Each is run to its end before the shell goes on, and leaves nothing
behind but what it has done to the world that all share.
-/

namespace Superserver.Shell

def Ending.ofStop (stop : Stop) (status : Nat) : Ending :=
  match stop with
  | .signal number => .killed number
  | _ => .exited status

def asProcess (action : Run Unit) : Run Ending := do
  let outer ← get
  let (result, inner) := outer.after action
  set { outer with world := inner.world }
  return match result with
    | .ok () => .exited inner.status
    | .error stop => .ofStop stop inner.status

def note (ending : Ending) : Run Unit := do
  if let .killed number := ending then
    if let some text := Signal.description? number then writeLine 2 text
  noteEnds
  setStatus ending.status

/-- What splits off has no traps but those that ignore signals, and is in no loop. -/
def splitOff : Run Unit := modify fun shell =>
  { shell with
    isMain := false
    loops := 0
    traps := shell.traps.filter fun entry => entry.2.isEmpty
    jobs := shell.jobs.map fun job => { job with task := none, noted := true } }

def passEnvironment : Run Unit := modify fun shell =>
  { shell with slots := shell.inTableOrder.filter fun entry => entry.2.exported }

def takeSignals : Run (List Nat) := do
  let shell ← get
  if !shell.isMain then return []
  let (own, others) := shell.world.signals.partition fun entry => entry.1 = shell.pid
  set { shell with world := { shell.world with signals := others } }
  return own.map (·.2)

/-! ### Programs -/

def standardPath : String := "/usr/local/sbin:/usr/local/bin:/usr/sbin:/usr/bin:/sbin:/bin"

def programDirectories : List Octets := ["/bin".toList, "/usr/bin".toList]

def shellNames : List String := ["dash", "sh"]

def isProgram (name : String) : Bool := shellNames.contains name || (utility? name).isSome

structure Missing where
  status : Nat
  reason : String

def Missing.ofErrno (number : Nat) : Missing :=
  if number = Errno.noEntry || number = Errno.notDirectory then ⟨127, "not found"⟩
  else if number = Errno.linkLoop || number = Errno.nameTooLong then
    ⟨127, Errno.description number⟩
  else ⟨126, Errno.description number⟩

def program (shell : Shell) (name : Octets) : Except Missing Octets :=
  if name.contains '/' then
    let last := (name.reverse.takeWhile (· != '/')).reverse
    let directory := name.take (name.length - last.length - 1)
    if programDirectories.contains directory && isProgram (String.ofList last) then .ok name
    else match shell.find? true name with
      | .error number => .error (.ofErrno number)
      | .ok _ => .error (.ofErrno Errno.accessDenied)
  else
    let path := Octets.split ':' ((shell.lookup? "PATH").getD [])
    match path.find? programDirectories.contains, isProgram (String.ofList name) with
    | some directory, true => .ok (directory ++ '/' :: name)
    | _, _ =>
        let isThere := path.any fun directory =>
          !directory.isEmpty && (shell.find? true (directory ++ '/' :: name)).toOption.isSome
        .error ⟨127, if isThere then Errno.description Errno.accessDenied else "not found"⟩

/-! ### Descriptions of commands -/

inductive CommandKind where
  | reserved
  | function (body : Command)
  | builtin
  | program (path : Octets)
  | missing (reason : Missing)

def kindOf (shell : Shell) (name : Octets) : CommandKind :=
  let text := String.ofList name
  if specialBuiltins.contains text then .builtin
  else match shell.functions.lookup text with
    | some body => .function body
    | none =>
        if isBuiltin text then .builtin
        else match shell.program name with
          | .ok path => .program path
          | .error reason => .missing reason

def describedKind (shell : Shell) (name : Octets) : CommandKind :=
  if Token.reserved.contains (String.ofList name) then .reserved else shell.kindOf name

def describe (inWords : Bool) (name : Octets) : Run Unit := do
  let shell ← get
  let tell (words : String) (call : Octets) : Run Unit :=
    printLine (if inWords then name ++ Octets.ofString (" is " ++ words) else call)
  match shell.describedKind name with
  | .reserved => tell "a shell keyword" name
  | .function _ => tell "a shell function" name
  | .builtin =>
      let special := specialBuiltins.contains (String.ofList name)
      tell (if special then "a special shell builtin" else "a shell builtin") name
  | .program path => tell (Octets.toString path) path
  | .missing reason =>
      if inWords then print (name ++ Octets.ofString ": not found\n")
      setStatus reason.status

end Superserver.Shell
