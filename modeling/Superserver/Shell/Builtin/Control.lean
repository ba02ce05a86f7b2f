import Superserver.Shell.Builtin.Arguments
import Superserver.Shell.Condition
import Superserver.Shell.Format
import Superserver.Shell.Signal

/-!
Commands that end or skip what is run, and those about signals and processes.
-/

namespace Superserver.Shell

/-! ### Ends -/

def exitShell (previous : Nat) (arguments : List Octets) : Run Unit := do
  match arguments with
  | [] => setStatus previous
  | text :: _ => setStatus (← number text)
  throw .exit

def returnFrom (previous : Nat) (arguments : List Octets) : Run Unit := do
  match arguments with
  | [] => setStatus previous
  | text :: _ => setStatus (← number text)
  throw .returning

def skipLoops (continuing : Bool) (arguments : List Octets) : Run Unit := do
  let count ← match arguments with
    | [] => pure 1
    | text :: _ => do
        let count ← number text
        if count = 0 then illegalNumber text else pure count
  let loops := min count (← get).loops
  if 0 < loops then throw (if continuing then .continuing loops else .breaking loops)

/-! ### Signals -/

def showTraps : Run Unit := do
  let traps := (← get).traps.mergeSort fun one other => one.1 ≤ other.1
  print (traps.flatMap fun (number, action) =>
    Octets.ofString "trap -- " ++ quotedText action ++ ' ' :: (Signal.name number).toList ++ ['\n'])

/-- Lays down what is done on signals; nothing is said of the first one that is none. -/
def setTraps (action : Option Octets) : List Octets → Run Unit
  | [] => return
  | text :: rest =>
      match Signal.ofText? 0 text with
      | none => do
          let _ ← write 2 (Octets.ofString "trap: " ++ text ++ Octets.ofString ": bad trap\n")
          setStatus 1
      | some number => do
          modify fun shell =>
            let others := shell.traps.filter fun entry => entry.1 != number
            let own := (action.map fun action => (number, action)).toList
            { shell with traps := own ++ others }
          setTraps action rest

def trap (arguments : List Octets) : Run Unit := do
  match (← optionsOf "" arguments).2 with
  | [] => showTraps
  | [only] => setTraps none [only]
  | action :: signals =>
      if (Signal.ofText? 0 action).isSome && (Octets.number? action).isSome then
        setTraps none (action :: signals)
      else setTraps (if action = ['-'] then none else some action) signals

def killUsage : Run α :=
  failWith ("Usage: kill [-s sigspec | -signum | -sigspec] [pid | job]... or\n" ++
    "kill -l [exitstatus]")

def jobNumbered (text : Octets) : Run Job := do
  let jobs := (← get).jobs.reverse
  let named := match Octets.number? text.tail with
    | some number => if number = 0 then none else jobs[number - 1]?
    | none => if text.tail.isEmpty || text.tail = ['%'] then jobs.getLast? else none
  match named with
  | some job => return job
  | none => fail (Octets.ofString "No such job: " ++ text)

def sendSignal (signal : Nat) : List Octets → Run Unit
  | [] => return
  | target :: rest => do
      let missing : Run Unit := do
        complain (Octets.ofString "No such process\n")
        setStatus 1
      if target.head? = some '%' then
        let _ ← jobNumbered target
        missing
      else if target.head? = some '-' then
        let _ ← number target.tail
        missing
      else
        let pid ← number target
        let shell ← get
        match shell.job? pid with
        | some { noted := true, .. } => missing
        | some { task := some _, .. } =>
            if !Signal.isHarmless signal then
              changeJob pid fun job => { job with task := none, ending := .killed signal }
        | some _ => pure ()
        | none =>
            if pid = shell.pid || pid = shell.parent then
              let signals := shell.world.signals ++ [(pid, signal)]
              set { shell with world := { shell.world with signals } }
            else missing
      sendSignal signal rest

def listSignals (arguments : List Octets) : Run Unit := do
  match arguments with
  | [] =>
      print ("0\n".toList ++
        ((List.range Signal.count).drop 1).flatMap fun number =>
          (Signal.name number).toList ++ ['\n'])
  | text :: _ =>
      let number ← number text
      let signal := if 128 < number then number - 128 else number
      if 0 < signal && signal < Signal.count then printLine (Signal.name signal).toList
      else fail (Octets.ofString "invalid signal number or exit status: " ++ text)

def kill (arguments : List Octets) : Run Unit := do
  match arguments with
  | [] => killUsage
  | ('-' :: name) :: targets =>
      match Signal.ofText? 1 name with
      | some signal => if targets.isEmpty then killUsage else sendSignal signal targets
      | none =>
          let (options, targets) ← optionsOf "ls:" arguments
          let signal ← match (options.filter fun option => option.1 == 's').getLast? with
            | none => pure none
            | some (_, name) =>
                match Signal.ofText? 1 name with
                | some signal => pure (some signal)
                | none => fail (Octets.ofString "invalid signal number or name: " ++ name)
          let lists := (options.lookup 'l').isSome
          if lists then
            if signal.isSome then killUsage else listSignals targets
          else if targets.isEmpty then killUsage
          else sendSignal (signal.getD 15) targets
  | targets => sendSignal 15 targets

/-! ### Jobs -/

def noteJob (job : Job) : Run Unit := do
  if !job.noted then
    if let .killed number := job.ending then
      if let some text := Signal.description? number then writeLine 2 text
  noteEnds
  setStatus job.ending.status

def wait (targets : List Octets) : Run Unit := do
  if targets.isEmpty then noteEnds
  for target in targets do
    if target.head? = some '%' then noteJob (← jobNumbered target)
    else
      let pid ← number target
      match (← get).job? pid with
      | some job => noteJob job
      | none => setStatus 127

/-- Jobs can be neither brought to the front nor sent on, for the shell does not control them. -/
def moveJob (arguments : List Octets) : Run Unit := do
  match arguments with
  | [] =>
      if (← get).jobs.isEmpty then failWith "No current job"
      failWith "job (null) not created under job control"
  | text :: _ =>
      let _ ← jobNumbered text
      failWith "job (null) not created under job control"

/-! ### Texts and conditions -/

def printFormatted (arguments : List Octets) : Run Unit := do
  let (_, arguments) ← optionsOf "" arguments
  match arguments with
  | [] => failWith "usage: printf format [arg ...]"
  | format :: arguments =>
      let printed := formatted format arguments
      for text in printed.complaints.reverse do complain text
      if let some fault := printed.fault then complain fault
      if !printed.complaints.isEmpty then setStatus 1
      if printed.fault.isSome then setStatus 2
      print printed.output.reverse

def conditionFiles (shell : Shell) : Condition.Files where
  find? follow path :=
    match (streamNumber? path).map shell.stream? with
    | none => (shell.find? follow path).toOption
    | some stream => stream.map fun stream =>
        if !follow then .link []
        else if stream = .connection then .socket 0
        else .nullDevice
  place? path := do
    let place ← (shell.locate path).toOption
    let _ ← shell.world.tree.node? place
    return place

def test (bracketed : Bool) (arguments : List Octets) : Run Unit := do
  if bracketed && arguments.getLast? != some [']'] then failWith "missing ]"
  let words := if bracketed then arguments.dropLast else arguments
  match Condition.holds (← get).conditionFiles words with
  | .ok value => setStatus (if value then 0 else 1)
  | .error message => fail message

end Superserver.Shell
