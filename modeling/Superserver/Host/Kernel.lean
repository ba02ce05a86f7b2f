import Superserver.Host.Socket

/-!
The modelled system as a kernel for the supervisor, and what the processes on it can do.
-/

namespace Superserver

namespace Host

/-! ### Polling -/

def readyIf (ready : Bool) (flags : PollFlags) : PollFlags :=
  if ready then flags else PollFlags.none

def conditions (host : Host) (descriptor : Descriptor) : PollFlags :=
  match host.resource? descriptor with
  | none => PollFlags.invalid
  | some .pathOnly => PollFlags.invalid
  | some .directory | some .regular => PollFlags.readable
  | some (.pipeReader pipe) =>
      readyIf (((host.pipes.get? pipe).map (!·.isEmpty)).getD false) PollFlags.readable |||
        readyIf (!host.hasWriter pipe) PollFlags.hangUp
  | some (.pipeWriter pipe) => readyIf (!host.hasReader pipe) PollFlags.failed
  | some (.socket number) =>
      match host.sockets.get? number with
      | none => PollFlags.invalid
      | some socket =>
          if socket.listening then
            readyIf (!socket.pending.isEmpty || socket.shut) PollFlags.readable
          else PollFlags.hangUp

def slotConditions (host : Host) (slot : PollSlot) : PollFlags :=
  if slot.descriptor < 0 then PollFlags.none else host.conditions slot.descriptor.toNat

/-- Looks at every slot. A poll without a time limit that finds nothing is interrupted, because
nothing happens while it waits. -/
def poll (slots : List PollSlot) (timeout : Timeout) (host : Host) :
    Except SystemError (List PollFlags) × Host :=
  if host.descriptorLimit < slots.length then (.error (.numbered Errno.invalid), host)
  else
    let found := slots.map host.slotConditions
    if (found.all fun flags => flags = PollFlags.none) && timeout = .unbounded then
      (.error (.numbered Errno.interrupted), { host with interrupted := true })
    else (.ok found, host)

/-! ### Processes -/

def wait (pid : Pid) (host : Host) : Except SystemError (Option Int) × Host :=
  match host.processes.get? pid with
  | none => (.error (.numbered Errno.noChild), host)
  | some process =>
      match process.state with
      | .running => (.ok none, host)
      | .stolen => (.error (.numbered Errno.noChild), host)
      | .ended status =>
          (.ok (some status),
            { host with
              processes := host.processes.modify pid fun process =>
                { process with state := .stolen } })

def startable (request : SpawnRequest) : Bool :=
  (request.remote :: request.arguments).all fun text => !text.toList.contains '\x00'

def clientOf (host : Host) (connection : Descriptor) : Option Nat :=
  match host.socket? connection with
  | .ok (_, socket) => socket.client
  | .error _ => none

def spawn (request : SpawnRequest) (host : Host) : Except SystemError Pid × Host :=
  if !startable request then
    (.error (.described .invalidInput "nul byte found in provided data"), host)
  else if !host.hasShell then (.error (.numbered Errno.noEntry), host)
  else match host.resource? request.diagnostics with
    | some (.pipeWriter pipe) =>
        let process : Process :=
          { request, errorPipe := pipe, client := host.clientOf request.output }
        (.ok host.nextPid,
          { host with
            processes := host.processes.insert host.nextPid process
            nextPid := host.nextPid + 1 })
    | _ => (.error (.numbered Errno.badDescriptor), host)

def kernel : Kernel Host where
  wait := wait
  read := read
  poll := poll
  accept := accept
  nonblocking := nonblocking
  changeNonblocking := changeNonblocking
  pipe := pipe
  duplicate := duplicate true
  spawn := spawn
  allocate _ host := (.ok (), host)
  close := close

/-! ### What processes do -/

def changeProcess (pid : Pid) (change : Process → Process) (host : Host) : Host :=
  { host with processes := host.processes.modify pid change }

def endProcess (pid : Pid) (state : ProcessState) (host : Host) : Host :=
  host.changeProcess pid fun process => { process with state, errorOpen := false }

def emit (pid : Pid) (data : Bytes) (host : Host) : Except SystemError Nat × Host :=
  match host.processes.get? pid with
  | none => (.error (.numbered Errno.noChild), host)
  | some process => host.writePipe process.errorPipe data

def growPipe (pid : Pid) (host : Host) : Host :=
  match host.processes.get? pid with
  | none => host
  | some process => { host with pipes := host.pipes.modify process.errorPipe Pipe.grown }

def replaceFile (descriptor : Descriptor) (resource : Resource) (host : Host) : Host :=
  match host.handles.get? descriptor with
  | none => host
  | some handle =>
      let number := host.nextNumber
      let kept := (host.close descriptor)
      { kept with
        files := kept.files.insert number { resource, nonblocking := false }
        handles := kept.handles.insert descriptor { handle with file := number }
        nextNumber := number + 1 }

def replaceByDeadPipe (descriptor : Descriptor) (host : Host) : Host :=
  let number := host.nextNumber
  { host with pipes := host.pipes.insert number {}, nextNumber := number + 1 }.replaceFile
    descriptor (.pipeWriter number)

end Host

end Superserver
