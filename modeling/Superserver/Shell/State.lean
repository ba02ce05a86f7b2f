import Superserver.Shell.Script
import Superserver.Shell.World

/-!
The state of a shell: its variables, functions and streams, and the actions from which its commands
are made. An action may stop the commands around it.
-/

namespace Superserver

namespace Shell

structure Variable where
  value : Option Octets := none
  exported : Bool := false
  readOnly : Bool := false

inductive Ending where
  | exited (status : Nat)
  | killed (signal : Nat)
deriving DecidableEq

namespace Ending

def status : Ending → Nat
  | .exited status => status % 256
  | .killed signal => 128 + signal

def raw : Ending → Int
  | .exited status => Int.ofNat (status % 256 * 256)
  | .killed signal => Int.ofNat signal

end Ending

structure Task where
  command : Command
  delay : Nat
  slots : List (String × Variable)
  functions : List (String × Command)
  positional : List Octets
  options : List Char
  directory : Path
  place : Octets
  streams : List (Nat × Stream)

structure Job where
  pid : Nat
  task : Option Task
  ending : Ending := .exited 0
  noted : Bool := false

inductive Stop where
  | exit
  | error
  | signal (number : Nat)
  | breaking (loops : Nat)
  | continuing (loops : Nat)
  | returning
deriving DecidableEq

end Shell

open Shell in
structure Shell where
  world : World := {}
  pid : Nat := 0
  parent : Nat := 0
  isMain : Bool := true
  name : Octets := ['s', 'h']
  /-- The variables by their names, in the order in which they were made. -/
  slots : List (String × Variable) := []
  functions : List (String × Command) := []
  positional : List Octets := []
  status : Nat := 0
  /-- The status of the last command that was put in for its output. -/
  outputStatus : Nat := 0
  line : Nat := 1
  running : Option String := none
  options : List Char := []
  directory : Path := []
  place : Octets := []
  streams : List (Nat × Stream) := []
  /-- What is done on signals; that for the end of the shell has the number 0. -/
  traps : List (Nat × Octets) := []
  caught : List Nat := []
  documents : List (Nat × Word) := []
  loops : Nat := 0
  locals : List (List (String × Option Variable)) := []
  jobs : List Job := []
  mask : Nat := 18
  descriptorLimit : Nat := 256
  /-- The option that was read last: the number of its word and where it stands there. -/
  optionPlace : Nat × Nat := (1, 0)

namespace Shell

abbrev Run := ExceptT Stop (StateM Shell)

def after (shell : Shell) (action : Run α) : Except Stop α × Shell := action.run.run shell

/-! ### Jobs -/

def job? (shell : Shell) (pid : Nat) : Option Job := shell.jobs.find? fun job => job.pid = pid

def noteEnds : Run Unit := modify fun shell =>
  { shell with
    jobs := shell.jobs.map fun job => { job with noted := job.noted || job.task.isNone } }

def task (shell : Shell) (command : Command) : Task :=
  { command
    delay := command.delay
    slots := shell.slots
    functions := shell.functions
    positional := shell.positional
    options := shell.options
    directory := shell.directory
    place := shell.place
    streams := shell.streams }

def withTask (shell : Shell) (task : Task) : Shell :=
  { shell with
    slots := task.slots
    functions := task.functions
    positional := task.positional
    options := task.options
    directory := task.directory
    place := task.place
    streams := task.streams }

def dueTasks (shell : Shell) (time : Option Nat) : List (Nat × Task) :=
  let tasks := shell.jobs.reverse.filterMap fun job => job.task.map fun task => (job.pid, task)
  let due := tasks.filter fun (_, task) => time.all fun time => task.delay ≤ time
  due.mergeSort fun one other => one.2.delay ≤ other.2.delay

def passTime (time : Nat) : Run Unit := modify fun shell =>
  { shell with
    jobs := shell.jobs.map fun job =>
      { job with task := job.task.map fun task => { task with delay := task.delay - time } } }

def changeJob (pid : Nat) (change : Job → Job) : Run Unit := modify fun shell =>
  { shell with jobs := shell.jobs.map fun job => if job.pid = pid then change job else job }

/-! ### Streams -/

def stream? (shell : Shell) (number : Nat) : Option Stream := shell.streams.lookup number

def setStream (number : Nat) (stream : Option Stream) : Run Unit := modify fun shell =>
  let others := shell.streams.filter fun entry => entry.1 != number
  { shell with streams := (stream.map fun stream => (number, stream)).toList ++ others }

def write (number : Nat) (text : Octets) : Run Bool := do
  let shell ← get
  match shell.stream? number with
  | none => return false
  | some stream =>
      let (done, world) := shell.world.write stream text
      set { shell with world }
      return done

def writeLine (number : Nat) (text : String) : Run Unit := do
  let _ ← write number (Octets.ofString (text ++ "\n"))

def readable? (number : Nat) : Run (Option Octets) := do
  let shell ← get
  return (shell.stream? number).bind shell.world.readable?

def consume (number count : Nat) : Run Unit := modify fun shell =>
  match shell.stream? number with
  | none => shell
  | some stream => { shell with world := shell.world.advance stream count }

def readAll (number : Nat) : Run Octets := do
  let text := (← readable? number).getD []
  consume number text.length
  return text

/-! ### Errors -/

def complain (text : Octets) : Run Unit := do
  let shell ← get
  let command := (shell.running.map fun name => name.toList ++ [':', ' ']).getD []
  let place := (toString shell.line).toList
  let lead := shell.name ++ [':', ' '] ++ place ++ [':', ' '] ++ command
  let _ ← write 2 (lead ++ text ++ ['\n'])

def setStatus (status : Nat) : Run Unit := modify fun shell => { shell with status }

def fail (text : Octets) (status : Nat := 2) : Run α := do
  complain text
  setStatus status
  throw .error

def failWith (text : String) (status : Nat := 2) : Run α := fail (Octets.ofString text) status

/-! ### Variables -/

def lookup? (shell : Shell) (name : String) : Option Octets :=
  (shell.slots.lookup name).bind (·.value)

def slot (shell : Shell) (name : String) : Variable := (shell.slots.lookup name).getD {}

def withSlot (name : String) (slot : Variable) :
    List (String × Variable) → List (String × Variable)
  | [] => [(name, slot)]
  | entry :: rest =>
      if entry.1 = name then (name, slot) :: rest else entry :: withSlot name slot rest

def putSlot (name : String) (slot : Variable) : Run Unit := modify fun shell =>
  { shell with slots := withSlot name slot shell.slots }

def dropSlot (name : String) : Run Unit := modify fun shell =>
  { shell with slots := shell.slots.filter fun entry => entry.1 != name }

def isSet (shell : Shell) (option : Char) : Bool := shell.options.contains option

def assign (name : String) (value : Octets) : Run Unit := do
  let shell ← get
  let old := shell.slot name
  if old.readOnly then fail (name.toList ++ Octets.ofString ": is read only")
  putSlot name { old with value := some value, exported := old.exported || shell.isSet 'a' }

def tablePlace (name : String) : Nat :=
  let codes := name.toList.map Char.toNat
  (codes.headD 0 * 16 + codes.foldl (· + ·) 0) % 39

/-- The variables as other programs are given them: in the order of the table, and those of one
place there in the order in which they were made. -/
def inTableOrder (shell : Shell) : List (String × Variable) :=
  shell.slots.mergeSort fun one other => tablePlace one.1 ≤ tablePlace other.1

def environment (shell : Shell) : List (String × Octets) :=
  shell.slots.filterMap fun (name, slot) =>
    if slot.exported then slot.value.map fun value => (name, value) else none

/-! ### Files -/

def locate (shell : Shell) (path : Octets) : Except Nat Path :=
  shell.world.tree.locate true shell.directory (Octets.toBytes path)

def find? (shell : Shell) (follow : Bool) (path : Octets) : Except Nat Node :=
  shell.world.tree.find follow shell.directory (Octets.toBytes path)

def changeTree (change : FileTree → FileTree) : Run Unit := modify fun shell =>
  { shell with world := { shell.world with tree := change shell.world.tree } }

def streamNumber? (path : Octets) : Option Nat :=
  if path = "/dev/stdin".toList then some 0
  else if path = "/dev/stdout".toList then some 1
  else if path = "/dev/stderr".toList then some 2
  else ["/dev/fd/", "/proc/self/fd/"].findSome? fun directory =>
    if directory.toList.isPrefixOf path then Octets.number? (path.drop directory.length) else none

/-- Opens a stream once more by a name of it. The connection cannot be opened so. -/
def reopened? (shell : Shell) (path : Octets) : Option (Except Nat Stream) := do
  let number ← streamNumber? path
  return match shell.stream? number with
    | some .connection => .error Errno.noDevice
    | some stream => .ok stream
    | none => .error Errno.noEntry

def openFile (path : Octets) (mode : FileMode) : Run (Except Nat Stream) := do
  let shell ← get
  if let some reopened := shell.reopened? path then return reopened
  let bytes := Octets.toBytes path
  let tree := shell.world.tree
  let enter (location : Path) : Run (Except Nat Stream) := do
    let shell ← get
    let number := shell.world.nextNumber
    let file : OpenedFile :=
      { path := location
        appends := mode = .append
        readable := mode = .read || mode = .readWrite
        writable := mode != .read }
    set { shell with
      world := { shell.world with
        files := (number, file) :: shell.world.files, nextNumber := number + 1 } }
    return .ok (.file number)
  if mode = .read then
    match tree.find true shell.directory bytes, tree.locate true shell.directory bytes with
    | .ok .nullDevice, _ => return .ok .nowhere
    | .ok (.socket _), _ => return .error Errno.noDevice
    | .ok _, .ok location => enter location
    | .error number, _ | _, .error number => return .error number
  else
    match tree.locate true shell.directory bytes with
    | .error number => return .error number
    | .ok location =>
        match tree.node? location with
        | some .nullDevice => return .ok .nowhere
        | some (.file content) =>
            if mode = .write && shell.isSet 'C' then return .error Errno.exists_
            let emptied := mode = .write || mode = .overwrite
            changeTree fun tree => tree.put location (.file (if emptied then [] else content))
            enter location
        | some (.directory _) => return .error Errno.isDirectory
        | some _ => return .error Errno.noDevice
        | none =>
            if FileTree.endsInSlash bytes then return .error Errno.isDirectory
            if !tree.parentWritable location then return .error Errno.accessDenied
            changeTree fun tree => tree.put location (.file [])
            enter location

end Shell

end Superserver
