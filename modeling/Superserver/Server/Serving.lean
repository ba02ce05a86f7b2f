import Superserver.Loop
import Superserver.Server.Startup
import Superserver.Shell.Run

/-!
A whole run of the program on the modelled system: it starts up, clients come one after another,
and a signal ends it. A worker runs its script in one go as soon as it has been started; what it
writes to its error stream goes through the pipe while the supervisor makes its passes.
-/

namespace Superserver

structure Serving where
  pid : Pid
  session : Session
  supervisor : Supervisor
  stats : Loop.Stats := {}

namespace Serving

def turn (serving : Serving) : Serving :=
  let ticked := serving.supervisor.tick Host.kernel serving.session.host
  let records := ticked.notices.map Notice.record ++ (Loop.failureRecord ticked.outcome).toList
  { serving with
    session := { serving.session with host := ticked.state }.log records
    supervisor := ticked.supervisor
    stats := serving.stats.count ticked.outcome }

def onHost (serving : Serving) (change : Host → Host) : Serving :=
  { serving with
    session := { serving.session with host := change serving.session.host } }

/-! ### Workers -/

def shell (parent : Pid) (host : Host) (pid : Pid) (process : Process) (input : Bytes) : Shell :=
  let fresh : Shell :=
    { world := { tree := host.tree, input := Shell.Octets.ofBytes input, nextPid := host.nextPid }
      pid
      parent
      directory := host.directory
      streams := [(0, .connection), (1, .connection), (2, .diagnostics)]
      descriptorLimit := host.descriptorLimit }
  fresh.started ((("REMOTE", process.request.remote) :: host.environment).map fun entry =>
    (entry.1, Shell.Octets.ofString entry.2))

/-- Brings bytes into the pipe of a worker, a pass after each that fits; at most as many passes as
there are bytes are needed. -/
def speak (pid : Pid) : (passes : Nat) → Bytes → Serving → Serving
  | 0, _, serving => serving
  | passes + 1, bytes, serving =>
      if bytes.isEmpty then serving
      else
        let (result, host) := serving.session.host.emit pid bytes
        let count := match result with
          | .ok count => count
          | .error _ => 0
        speak pid passes (bytes.drop count) (serving.onHost fun _ => host).turn

def live (pid : Pid) (ending : Shell.Ending) (world : Shell.World) (serving : Serving) : Serving :=
  let serving := serving.onHost fun host => { host with tree := world.tree }
  let said := Shell.Octets.toBytes world.diagnostics.reverse
  let spoken := speak pid said.length said serving
  let closed := (spoken.onHost (Host.changeProcess pid fun process =>
    { process with errorOpen := false })).turn
  (closed.onHost (Host.endProcess pid (.ended ending.raw))).turn

/-! ### Clients -/

def workerOf (host : Host) (client : Nat) : Option (Pid × Process) :=
  host.processes.entries.find? fun entry => entry.2.client = some client

def attend (socket : Bytes) (sent : Bytes) (serving : Serving) : Bytes × Serving :=
  let (client, host) := serving.session.host.enterSocket
    { domain := Family.unix, type := SocketType.stream }
  match host.connectToPath client SocketType.stream Host.noName socket with
  | .error _ => ([], serving)
  | .ok host =>
      let serving := (serving.onHost fun _ => host).turn
      match workerOf serving.session.host client with
      | none => ([], serving)
      | some (pid, process) =>
          let shell := shell serving.pid serving.session.host pid process sent
          let (ending, after) := shell.run serving.supervisor.command.text
          (Shell.Octets.toBytes after.world.output.reverse, live pid ending after.world serving)

def attendEach (socket : Bytes) : List Bytes → Serving → List Bytes × Serving
  | [], serving => ([], serving)
  | sent :: rest, serving =>
      let (reply, serving) := attend socket sent serving
      let (replies, serving) := attendEach socket rest serving
      (reply :: replies, serving)

/-! ### The end -/

def stoppedRecord : Record :=
  { level := .info, target := Session.target, message := "serve stopped" }

def stop (serving : Serving) : Serving :=
  let last := serving.turn
  let session := last.session.log [Loop.closingRecord last.stats]
  let (record, host) := last.supervisor.shutdown Host.kernel session.host
  let session := { session with host }.log [record]
  let (records, host) := last.supervisor.listener.drop session.host
  { last with session := { session with host }.log (records ++ [stoppedRecord]) }

end Serving

structure Transcript where
  session : Session
  exitCode : Nat
  ticks : Option Nat
  replies : List Bytes

namespace Transcript

def served (transcript : Transcript) : Bool := transcript.ticks.isSome

def ofFailure (failure : Failure) (session : Session) : Transcript where
  session :=
    if failure.isAnswer then session.print failure.text else session.complain failure.text
  exitCode := failure.exitCode
  ticks := none
  replies := []

def ofRun (pid : Pid) (arguments : List String) (socket : Bytes) (clients : List Bytes)
    (host : Host) : Transcript :=
  match (Startup.supervisor pid arguments).run { host } with
  | (.error failure, session) => ofFailure failure session
  | (.ok supervisor, session) =>
      let (replies, serving) := Serving.attendEach (Listener.absolute socket host) clients
        { pid, session, supervisor }
      let ended := serving.stop
      { session := ended.session, exitCode := 0, ticks := some ended.stats.ticks, replies }

end Transcript

end Superserver
