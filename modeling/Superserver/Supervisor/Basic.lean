import Superserver.AdmissionLimit
import Superserver.Listener.Basic
import Superserver.Supervisor.Error

/-!
Passes of the supervisor. Each of them reaps the workers that have ended, polls, forwards what the
others write, and admits at most one connection. Only the poll waits, and it waits for ever only
where nothing but the poll set can bring work.
-/

namespace Superserver

structure Supervisor where
  listener : Listener
  command : ShellCommand
  limit : AdmissionLimit
  table : ProcessTable

inductive Outcome where
  | idle
  | active
deriving DecidableEq

def Outcome.ofActive (active : Bool) : Outcome := if active then .active else .idle

namespace Supervisor

def new (listener : Listener) (command : ShellCommand) (limit : AdmissionLimit) : Supervisor where
  listener := listener
  command := command
  limit := limit
  table := .new listener.descriptor ProcessTable.maxEntries

/-! ### Reaping -/

structure Reaped (σ : Type) where
  table : ProcessTable
  notices : List Notice := []
  removed : Bool := false
  state : σ

def lastReports (kernel : Kernel σ) (worker : Worker) (state : σ) : Option (List Report) × σ :=
  match kernel.wait worker.pid state with
  | (.ok none, state) => (none, state)
  | (.ok (some status), state) =>
      let (reports, _, state) := worker.drain kernel Worker.drainReads state
      (some (reports ++ [.exited status]), state)
  | (.error error, state) => (some [.lost error], state)

/-- Asks `unasked` workers from `index` on and removes those that have ended. After a removal the
last worker stands at the same index and is asked next. -/
def reapFrom (kernel : Kernel σ) : (unasked index : Nat) → ProcessTable → σ → Reaped σ
  | 0, _, table, state => { table, state }
  | unasked + 1, index, table, state =>
      match table.workers[index]? with
      | none => { table, state }
      | some worker =>
          match lastReports kernel worker state with
          | (none, state) => reapFrom kernel unasked (index + 1) table state
          | (some reports, state) =>
              let rest := reapFrom kernel unasked index (table.remove index).2
                (kernel.close worker.diagnostics state)
              { rest with
                notices := reports.map (.worker worker.pid) ++ rest.notices
                removed := true }

def reap (kernel : Kernel σ) (table : ProcessTable) (state : σ) : Reaped σ :=
  reapFrom kernel table.length 0 table state

/-! ### Forwarding -/

structure Forwarded (σ : Type) where
  table : ProcessTable
  notices : List Notice := []
  active : Bool := false
  state : σ

def forwardFrom (kernel : Kernel σ) : (unattended index : Nat) → ProcessTable → σ → Forwarded σ
  | 0, _, table, state => { table, state }
  | unattended + 1, index, table, state =>
      match table.workers[index]? with
      | none => { table, state }
      | some worker =>
          let (attended, state) := worker.attend kernel (table.returned index) state
          let table := table.update index attended.worker
          let rest := forwardFrom kernel unattended (index + 1)
            (if attended.ended then table.mute index else table) state
          { rest with
            notices := attended.reports.map (.worker worker.pid) ++ rest.notices
            active := attended.active || rest.active }

def forward (kernel : Kernel σ) (table : ProcessTable) (state : σ) : Forwarded σ :=
  forwardFrom kernel table.length 0 table state

/-! ### Admission -/

/-- Starts a worker on a connection, which becomes its input and output. The connection and what
was opened for it are closed here, whether or not the worker starts; only its end of the
diagnostic pipe stays open. -/
def startWorker (kernel : Kernel σ) (command : ShellCommand) (connection : Descriptor)
    (remote : String) (table : ProcessTable) (state : σ) :
    List Notice × Except AdmissionError Worker × ProcessTable × σ :=
  match kernel.nonblockingPipe state with
  | (.error error, state) =>
      ([], .error (.pipe error), table, kernel.close connection state)
  | (.ok (readEnd, writeEnd), state) =>
      match table.reserve kernel state with
      | (.error error, state) =>
          ([], .error (.table error), table,
            kernel.closeAll [writeEnd, readEnd, connection] state)
      | (.ok (notices, table), state) =>
          match kernel.duplicate connection state with
          | (.error error, state) =>
              (notices, .error (.duplicate error), table,
                kernel.closeAll [writeEnd, readEnd, connection] state)
          | (.ok input, state) =>
              let request : SpawnRequest :=
                { arguments := command.arguments, remote, input, output := connection,
                  diagnostics := writeEnd }
              let (started, state) := kernel.spawn request state
              let state := kernel.closeAll [input, connection, writeEnd] state
              match started with
              | .error error =>
                  (notices, .error (.spawn error), table, kernel.close readEnd state)
              | .ok pid => (notices, .ok { pid, diagnostics := readEnd }, table, state)

structure Admitted (σ : Type) where
  table : ProcessTable
  notices : List Notice
  outcome : Except TickError Bool
  state : σ

def admitNext (kernel : Kernel σ) (listener : Descriptor) (command : ShellCommand)
    (table : ProcessTable) (state : σ) : Admitted σ :=
  match kernel.acceptRemote listener state with
  | (.error error, state) =>
      if error.isTransient then
        { table, notices := [.acceptIgnored error], outcome := .ok false, state }
      else { table, notices := [], outcome := .error (.accept error), state }
  | (.ok (connection, peer), state) =>
      match startWorker kernel command connection peer.label table state with
      | (notices, .error error, table, state) =>
          { table, notices, outcome := .error (.admission peer.label error), state }
      | (notices, .ok worker, table, state) =>
          { table := table.push worker
            notices := notices ++ [.worker worker.pid (.created peer.label)]
            outcome := .ok true
            state }

/-! ### One pass -/

/-- How long a poll waits while work may come that the poll set does not show: 50 ms. -/
def boundedWait : Nat := 50

/-- After a removal the poll only looks; it waits for ever only if every source of work is in the
poll set. -/
def waitTimeout (removed accepting anyMuted : Bool) : Timeout :=
  if removed then .milliseconds 0
  else if accepting && !anyMuted then .unbounded
  else .milliseconds boundedWait

structure Ticked (σ : Type) where
  supervisor : Supervisor
  notices : List Notice
  outcome : Except TickError Outcome
  state : σ

def workerCount (supervisor : Supervisor) : Nat := supervisor.table.length

def isAccepting (supervisor : Supervisor) (table : ProcessTable) : Bool :=
  table.length < supervisor.limit.workers.toNat

def respond (kernel : Kernel σ) (supervisor : Supervisor) (accepting : Bool)
    (reaped : Reaped σ) (table : ProcessTable) (state : σ) : Ticked σ :=
  let forwarded := forward kernel table state
  let notices := reaped.notices ++ forwarded.notices
  let active := reaped.removed || forwarded.active
  if accepting && forwarded.table.listenerReady then
    let admitted := admitNext kernel supervisor.listener.descriptor supervisor.command
      forwarded.table forwarded.state
    { supervisor := { supervisor with table := admitted.table }
      notices := notices ++ admitted.notices
      outcome := admitted.outcome.map fun one => .ofActive (active || one)
      state := admitted.state }
  else
    { supervisor := { supervisor with table := forwarded.table }
      notices
      outcome := .ok (.ofActive active)
      state := forwarded.state }

def tick (kernel : Kernel σ) (supervisor : Supervisor) (state : σ) : Ticked σ :=
  let reaped := reap kernel supervisor.table state
  let accepting := supervisor.isAccepting reaped.table
  let timeout := waitTimeout reaped.removed accepting reaped.table.anyMuted
  let table := reaped.table.cleared
  let quiet (table : ProcessTable) (state : σ) : Ticked σ :=
    { supervisor := { supervisor with table }
      notices := reaped.notices
      outcome := .ok (.ofActive reaped.removed)
      state }
  match kernel.poll (table.pollSlots accepting) timeout reaped.state with
  | (.error error, state) =>
      if error.kind = .interrupted then quiet table state
      else { quiet table state with outcome := .error (.poll error) }
  | (.ok flags, state) =>
      let table := table.polled accepting flags
      if table.slots.all fun slot => slot.returned = PollFlags.none then quiet table state
      else respond kernel supervisor accepting reaped table state

/-! ### Passes one after another -/

structure Ran (σ : Type) where
  supervisor : Supervisor
  notices : List Notice
  state : σ

/-- A number of passes. What the world does between two of them is done by the calls of the next
one. -/
def passes (kernel : Kernel σ) (supervisor : Supervisor) (state : σ) : Nat → Ran σ
  | 0 => { supervisor, notices := [], state }
  | count + 1 =>
      let ran := passes kernel supervisor state count
      let ticked := ran.supervisor.tick kernel ran.state
      { supervisor := ticked.supervisor
        notices := ran.notices ++ ticked.notices
        state := ticked.state }

def farewell (supervisor : Supervisor) : Record :=
  { level := .info, target := "served::supervisor", message := "Supervisor shutting down",
    fields :=
      [{ name := "address", value := toString supervisor.listener.address },
        { name := "workers", value := toString supervisor.workerCount }] }

/-- Ends supervision: every diagnostic pipe is closed, running workers are left alone. The
listener is for its owner to drop. -/
def shutdown (kernel : Kernel σ) (supervisor : Supervisor) (state : σ) : Record × σ :=
  (supervisor.farewell,
    kernel.closeAll (supervisor.table.workers.map (·.diagnostics)) state)

end Supervisor

end Superserver
