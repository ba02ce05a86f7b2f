import Superserver.Diagnostics.Notice
import Superserver.System.Kernel

/-!
A worker: the process that serves one connection, seen from the read end of its diagnostic pipe; and
the command that every worker runs, by way of the shell.
-/

namespace Superserver

structure ShellCommand where
  text : String
deriving DecidableEq

namespace ShellCommand

def shell : String := "sh"

def arguments (command : ShellCommand) : List String := [shell, "-c", command.text]

end ShellCommand

inductive ReadOutcome where
  | data
  | endOfFile
  | empty
deriving DecidableEq

structure Worker where
  pid : Pid
  diagnostics : Descriptor
  buffer : LineBuffer := {}
  /-- Whether the pipe ended or failed and is no longer polled. -/
  muted : Bool := false
deriving DecidableEq

namespace Worker

structure Forwarded where
  outcome : Except ForwardError ReadOutcome
  worker : Worker
  reports : List Report

def isWait (error : SystemError) : Bool := error.kind == .wouldBlock || error.kind == .interrupted

def forward (kernel : Kernel σ) (worker : Worker) (state : σ) : Forwarded × σ :=
  match worker.buffer.fill (kernel.read worker.diagnostics) state with
  | (.error (.read error), _, state) =>
      ({ outcome := if isWait error then .ok .empty else .error (.read error), worker,
         reports := [] }, state)
  | (.error error, _, state) => ({ outcome := .error error, worker, reports := [] }, state)
  | (.ok count, buffer, state) =>
      let (lines, buffer) := buffer.lines
      ({ outcome := .ok (if count = 0 then .endOfFile else .data),
         worker := { worker with buffer },
         reports := lines.map fun bytes => .line { bytes, terminated := true } }, state)

def flush (worker : Worker) : List Report × Worker :=
  let (rest, buffer) := worker.buffer.takeRemainder
  (rest.toList.map fun bytes => .line { bytes, terminated := false }, { worker with buffer })

def drainTurns (kernel : Kernel σ) : Nat → Worker → σ → List Report × Worker × σ
  | 0, worker, state => ([], worker, state)
  | turns + 1, worker, state =>
      let (step, state) := worker.forward kernel state
      match step.outcome with
      | .ok .data =>
          let (reports, worker, state) := drainTurns kernel turns step.worker state
          (step.reports ++ reports, worker, state)
      | .ok _ => (step.reports, step.worker, state)
      | .error (.lineTooLong limit) =>
          let (flushed, worker) := step.worker.flush
          let (reports, worker, state) := drainTurns kernel turns worker state
          (.forwardFailed (.lineTooLong limit) :: flushed ++ reports, worker, state)
      | .error error => ([.drainStopped error], step.worker, state)

/-- The most chunks that are read from the pipe of an exited worker, so that a process that
inherited its write end cannot hold up the supervisor. -/
def drainReads : Nat := 512

def drain (kernel : Kernel σ) (turns : Nat) (worker : Worker) (state : σ) :
    List Report × Worker × σ :=
  let (reports, worker, state) := drainTurns kernel turns worker state
  let (flushed, worker) := worker.flush
  (reports ++ flushed, worker, state)

def mute (worker : Worker) : Worker := { worker with muted := true }

structure Attended where
  worker : Worker
  reports : List Report := []
  active : Bool := false
  ended : Bool := false

def attend (kernel : Kernel σ) (flags : PollFlags) (worker : Worker) (state : σ) : Attended × σ :=
  if flags.meets (PollFlags.failed ||| PollFlags.invalid) then
    ({ worker, reports := [.pipeError], ended := true }, state)
  else if flags.meets (PollFlags.readable ||| PollFlags.hangUp) then
    let (step, state) := worker.forward kernel state
    match step.outcome with
    | .ok .data => ({ worker := step.worker, reports := step.reports, active := true }, state)
    | .ok .endOfFile =>
        ({ worker := step.worker, reports := step.reports ++ [.pipeClosed], active := true,
           ended := true }, state)
    | .ok .empty => ({ worker := step.worker }, state)
    | .error (.read error) =>
        ({ worker := step.worker, reports := [.forwardFailed (.read error)], ended := true }, state)
    | .error error =>
        let (flushed, worker) := step.worker.flush
        ({ worker, reports := .forwardFailed error :: flushed, active := true }, state)
  else ({ worker }, state)

end Worker

end Superserver
