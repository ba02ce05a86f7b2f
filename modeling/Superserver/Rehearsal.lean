import Superserver.Listener.Bind
import Superserver.Supervisor.Basic

/-!
A supervisor on the modelled system, driven from outside: clients connect, workers write and end,
and the supervisor makes its passes in between. What cannot be asked of a worker is refused.
-/

namespace Superserver

inductive Refusal where
  | noWorker
  | gone
  | dead
  | closed
deriving DecidableEq

inductive Replacement where
  | deadPipe
  | pathOnly
  | directory
deriving DecidableEq

structure Rehearsal where
  supervisor : Supervisor
  host : Host

namespace Rehearsal

/-! ### Workers -/

def worker? (rehearsal : Rehearsal) (pid : Pid) : Option Worker :=
  rehearsal.supervisor.table.workers.find? fun worker => worker.pid = pid

def tracked (rehearsal : Rehearsal) (pid : Pid) : Except Refusal (Worker × Process) :=
  match rehearsal.host.processes.get? pid, rehearsal.worker? pid with
  | none, _ => .error .noWorker
  | some _, none => .error .gone
  | some process, some worker => .ok (worker, process)

def living (rehearsal : Rehearsal) (pid : Pid) : Except Refusal Process := do
  let (_, process) ← rehearsal.tracked pid
  if process.state = .running then return process else throw .dead

def writable (rehearsal : Rehearsal) (pid : Pid) : Except Refusal Process := do
  let (_, process) ← rehearsal.tracked pid
  if process.held then return process
  else if process.state != .running then throw .dead
  else if process.errorOpen then return process
  else throw .closed

def onHost (rehearsal : Rehearsal) (change : Host → Host) : Rehearsal :=
  { rehearsal with host := change rehearsal.host }

def finish (rehearsal : Rehearsal) (pid : Pid) (state : ProcessState) :
    Except Refusal Rehearsal := do
  let _ ← rehearsal.living pid
  return rehearsal.onHost (Host.endProcess pid state)

def exitStatus (code : Int) : Int := (code % 256) * 256

def exit (rehearsal : Rehearsal) (pid : Pid) (code : Int) : Except Refusal Rehearsal :=
  rehearsal.finish pid (.ended (exitStatus code))

def kill (rehearsal : Rehearsal) (pid : Pid) (signal : Int) : Except Refusal Rehearsal :=
  rehearsal.finish pid (.ended signal)

def disconnect (rehearsal : Rehearsal) (pid : Pid) : Except Refusal Rehearsal :=
  rehearsal.exit pid 0

def steal (rehearsal : Rehearsal) (pid : Pid) : Except Refusal Rehearsal :=
  rehearsal.finish pid .stolen

def closeErrors (rehearsal : Rehearsal) (pid : Pid) : Except Refusal Rehearsal := do
  let process ← rehearsal.living pid
  if process.errorOpen then
    return rehearsal.onHost (Host.changeProcess pid fun process =>
      { process with errorOpen := false })
  else throw .closed

def remote (rehearsal : Rehearsal) (pid : Pid) : Except Refusal String := do
  return (← rehearsal.living pid).request.remote

def write (rehearsal : Rehearsal) (pid : Pid) (data : Bytes) :
    Except Refusal (Except SystemError Nat × Rehearsal) := do
  let _ ← rehearsal.writable pid
  let (result, host) := rehearsal.host.emit pid data
  return (result, { rehearsal with host })

def hold (rehearsal : Rehearsal) (pid : Pid) : Except Refusal Rehearsal := do
  let _ ← rehearsal.writable pid
  return rehearsal.onHost (Host.changeProcess pid fun process => { process with held := true })

def release (rehearsal : Rehearsal) (pid : Pid) : Except Refusal Rehearsal := do
  let _ ← rehearsal.tracked pid
  return rehearsal.onHost (Host.changeProcess pid fun process => { process with held := false })

def growPipe (rehearsal : Rehearsal) (pid : Pid) : Except Refusal Rehearsal := do
  let _ ← rehearsal.writable pid
  return rehearsal.onHost (Host.growPipe pid)

def replace (rehearsal : Rehearsal) (pid : Pid) (replacement : Replacement) :
    Except Refusal Rehearsal := do
  let (worker, _) ← rehearsal.tracked pid
  return rehearsal.onHost fun host =>
    match replacement with
    | .deadPipe => host.replaceByDeadPipe worker.diagnostics
    | .pathOnly => host.replaceFile worker.diagnostics .pathOnly
    | .directory => host.replaceFile worker.diagnostics .directory

/-! ### The listener -/

def connect (rehearsal : Rehearsal) (kind : SocketKind) (name : Bytes) :
    Except SystemError Unit × Rehearsal :=
  let (result, host) := rehearsal.host.connectClient rehearsal.supervisor.listener.descriptor
    (Listener.socketType kind) name
  (result.map fun _ => (), { rehearsal with host })

def shutListener (rehearsal : Rehearsal) : Rehearsal :=
  rehearsal.onHost (Host.shut rehearsal.supervisor.listener.descriptor)

def breakListener (rehearsal : Rehearsal) : Rehearsal :=
  rehearsal.onHost (Host.replaceFile rehearsal.supervisor.listener.descriptor .directory)

/-! ### Passes of the supervisor -/

structure Shortage where
  spare : Option Nat := none
  limit : Option Nat := none
  noShell : Bool := false

def Shortage.apply (shortage : Shortage) (host : Host) : Host :=
  let host := match shortage.spare with
    | some spare => host.withSpare spare
    | none => host
  let host := match shortage.limit with
    | some limit => { host with descriptorLimit := limit }
    | none => host
  if shortage.noShell then { host with hasShell := false } else host

structure Passes where
  outcomes : List (Except TickError Outcome) := []
  notices : List Notice := []
  rehearsal : Rehearsal

def isActive : Except TickError Outcome → Bool
  | .ok .active => true
  | _ => false

def pass (rehearsal : Rehearsal) (shortage : Shortage) : Supervisor.Ticked Host :=
  let host := shortage.apply { rehearsal.host with interrupted := false }
  let ticked := rehearsal.supervisor.tick Host.kernel host
  { ticked with
    state := { ticked.state with
      descriptorLimit := rehearsal.host.descriptorLimit
      hasShell := rehearsal.host.hasShell } }

/-- Makes up to `times` passes, each during a shortage of its own. A pass that was not active, or
that had to be interrupted, or that gave a notice with which `stops` is content, is the last one. -/
def run (rehearsal : Rehearsal) (shortage : Shortage) (stops : Notice → Bool) :
    (times : Nat) → Passes
  | 0 => { rehearsal }
  | times + 1 =>
      let ticked := rehearsal.pass shortage
      let after : Rehearsal := { supervisor := ticked.supervisor, host := ticked.state }
      if isActive ticked.outcome && !ticked.state.interrupted && !ticked.notices.any stops then
        let rest := run after shortage stops times
        { rest with
          outcomes := ticked.outcome :: rest.outcomes
          notices := ticked.notices ++ rest.notices }
      else { outcomes := [ticked.outcome], notices := ticked.notices, rehearsal := after }

def Passes.interrupted (passes : Passes) : Bool := passes.rehearsal.host.interrupted

/-! ### Beginning and end -/

inductive StartError where
  | listener (error : ListenerError)
  | limit (error : LimitError)

def start (address : ListenAddress) (kind : SocketKind) (backlog : Int) (command : ShellCommand)
    (limit : UInt64) (host : Host) : Except StartError Rehearsal :=
  match Listener.bind address kind backlog host with
  | (_, .error error, _) => .error (.listener error)
  | (_, .ok listener, host) =>
      match AdmissionLimit.ofCeiling limit with
      | .error error => .error (.limit error)
      | .ok limit => .ok { supervisor := .new listener command limit, host }

def shutdown (rehearsal : Rehearsal) : List Record × Host :=
  let (record, host) := rehearsal.supervisor.shutdown Host.kernel rehearsal.host
  let (records, host) := rehearsal.supervisor.listener.drop host
  (record :: records, host)

end Rehearsal

end Superserver
