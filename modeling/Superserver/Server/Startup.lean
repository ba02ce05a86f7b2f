import Superserver.CommandLine.Parse
import Superserver.CommandLine.Settings
import Superserver.Config.File
import Superserver.Listener.Bind
import Superserver.Server.Failure
import Superserver.Server.Session
import Superserver.Supervisor.Basic

/-!
From the command line to a supervisor that is ready to serve. What fails on the way ends the
program; a listener that has been bound by then is dropped first.
-/

namespace Superserver

abbrev Startup := ExceptT Failure (StateM Session)

namespace Startup

def orFail (describe : ε → Failure) (result : Except ε α) : Startup α :=
  ExceptT.mk (pure (result.mapError describe))

def onHost (action : Host → α × Host) : Startup α := do
  let session ← get
  let (value, host) := action session.host
  set { session with host }
  return value

def log (records : List Record) : Startup Unit := modify fun session => session.log records

def guarding (listener : Listener) (part : Startup α) : Startup α :=
  tryCatch part fun failure => do
    log (← onHost listener.drop)
    throw failure

/-! ### What to run with -/

def configuration (options : Options) : Startup Config := do
  let host := (← get).host
  orFail .config (match options.config with
    | some path => Config.load host (bytesOf path)
    | none => Config.loadDefault host)

def settings (options : Options) : Startup Settings := do
  match Settings.resolve options (← configuration options) with
  | some settings => return settings
  | none => throw (.usage .missingCommand)

/-- A protocol can be named, but not chosen. -/
def protocolRecord (protocol : String) : Record :=
  { level := .warn, target := Session.target,
    message := "Protocol selection is unimplemented, using the default",
    fields := [{ name := "protocol", value := protocol }] }

def bindListener (settings : Settings) : Startup Listener := do
  let (records, result) ← onHost fun host =>
    let (records, result, host) :=
      Listener.bind settings.address settings.socketKind settings.backlog host
    ((records, result), host)
  log records
  orFail .listener result

def optionText : Option UInt64 → String
  | some number => s!"Some({number})"
  | none => "None"

def limitRecord (ceiling : UInt64) (openFiles : Option UInt64) (limit : AdmissionLimit) : Record :=
  { level := .debug, target := "served::limits", message := "Derived admission limit",
    fields :=
      [{ name := "ceiling", value := toString ceiling },
        { name := "open_files", value := optionText openFiles },
        { name := "max_processes", value := toString limit.workers }] }

def admissionLimit (ceiling : UInt64) : Startup AdmissionLimit := do
  let openFiles := AdmissionLimit.ofSoftLimit (UInt64.ofNat (← get).host.descriptorLimit)
  let limit ← orFail .limit (AdmissionLimit.detect ceiling openFiles)
  log [limitRecord ceiling openFiles limit]
  return limit

/-! ### Letting go of the terminal -/

def stateFile (host : Host) (name : String) : Bytes :=
  let directory := (host.baseDirectory? "XDG_STATE_HOME" [".local", "state"]).getD (bytesOf "/tmp")
  joinPath (joinPath directory (bytesOf "serve")) (bytesOf name)

def makeParent (path : Bytes) : Startup Unit := do
  orFail (fun (number : Nat) => .stateDirectory (.numbered number))
    (← onHost fun host => host.makeParent path)

def takeDescriptor (describe : Nat → Failure) : Startup Descriptor := do
  if (← get).host.hasRoom 1 then onHost fun host => host.openFile .regular false
  else throw (describe Errno.tooManyDescriptors)

def makeLogFile (path : Bytes) : Startup Path := do
  let describe (number : Nat) : Failure := .logFile (.numbered number)
  let host := (← get).host
  let tree ← orFail describe (host.tree.write host.directory path [])
  modify fun session => { session with host := { session.host with tree } }
  orFail describe (tree.locate true host.directory path)

def detachRecord (log pidFile : Bytes) : Record :=
  { level := .info, target := Session.target, message := "Daemonizing",
    fields :=
      [{ name := "log", value := Utf8.decodeLossy log },
        { name := "pid_file", value := Utf8.decodeLossy pidFile }] }

def makePidFile (path : Bytes) : Startup Unit := do
  let host := (← get).host
  match host.tree.find true host.directory path with
  | .ok (.file _) => return
  | _ =>
      let tree ← orFail (fun (number : Nat) => .detach (.openPidFile number))
        (host.tree.write host.directory path [])
      modify fun session => { session with host := { session.host with tree } }

def writePidFile (path : Bytes) (pid : Pid) : Startup Unit :=
  modify fun session =>
    match session.host.tree.write session.host.directory path (bytesOf s!"{pid}\n") with
    | .ok tree => { session with host := { session.host with tree } }
    | .error _ => session

/-- Lets go of the terminal. From here on the working directory is the root, so that a relative
path of the file for the process number starts there, and all that is printed goes to the log
file. -/
def detach (pid : Pid) (options : Options) : Startup Unit := do
  let host := (← get).host
  let pidPath := (options.pidFile.map bytesOf).getD (stateFile host "serve.pid")
  let logPath := (options.logFile.map bytesOf).getD (stateFile host "serve.log")
  makeParent pidPath
  makeParent logPath
  let output ← takeDescriptor fun number => .logFile (.numbered number)
  let logFile ← makeLogFile logPath
  let errors ← takeDescriptor fun number => .logCopy (.numbered number)
  log [detachRecord logPath pidPath]
  modify fun session => { session with host := { session.host with directory := [] } }
  let _ ← takeDescriptor fun number => .detach (.openPidFile number)
  makePidFile pidPath
  let nullDevice ← takeDescriptor fun number => .detach (.openNullDevice number)
  modify fun session =>
    { session with
      host := Host.kernel.closeAll [output, errors, nullDevice] session.host
      logFile := some logFile }
  writePidFile pidPath pid

/-! ### All together -/

def signalsRecord : Record :=
  { level := .debug, target := "served::driver", message := "Installed shutdown signal handlers" }

def startRecord (pid : Pid) (command : ShellCommand) (limit : AdmissionLimit) : Record :=
  { level := .info, target := Session.target, message := "serve starting",
    fields :=
      [{ name := "version", value := UsageError.programVersion, quoted := true },
        { name := "pid", value := toString pid },
        { name := "command", value := command.text },
        { name := "max_processes", value := toString limit.workers }] }

def supervisor (pid : Pid) (arguments : List String) : Startup Supervisor := do
  let options ← orFail .usage (Options.parse arguments)
  let settings ← settings options
  modify fun session => session.beginLog (if options.verbose then .verbose else .plain)
  log (options.protocol.toList.map protocolRecord)
  let listener ← bindListener settings
  guarding listener do
    let limit ← admissionLimit settings.maxProcesses
    if options.daemon then detach pid options
    log [signalsRecord]
    log [startRecord pid settings.command limit]
    return .new listener settings.command limit

end Startup

end Superserver
