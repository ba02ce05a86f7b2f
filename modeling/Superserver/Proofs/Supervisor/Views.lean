import Superserver.Supervisor.Basic

/-!
A system that keeps more in its state than another one and gives the same answers. Main statement:
the passes of a supervisor on the one are its passes on the other, but for what is kept.
-/

namespace Superserver

namespace Kernel

def seen (view : τ → σ) (result : α × τ) : α × σ := (result.1, view result.2)

/-- Each call answers as in the plain system, whatever else is kept in the state. -/
structure Shows (fuller : Kernel τ) (plain : Kernel σ) (view : τ → σ) : Prop where
  wait : ∀ pid state, seen view (fuller.wait pid state) = plain.wait pid (view state)
  read : ∀ descriptor count state,
    seen view (fuller.read descriptor count state) = plain.read descriptor count (view state)
  poll : ∀ slots timeout state,
    seen view (fuller.poll slots timeout state) = plain.poll slots timeout (view state)
  accept : ∀ listener state,
    seen view (fuller.accept listener state) = plain.accept listener (view state)
  nonblocking : ∀ descriptor state,
    seen view (fuller.nonblocking descriptor state) = plain.nonblocking descriptor (view state)
  changeNonblocking : ∀ descriptor wanted state,
    seen view (fuller.changeNonblocking descriptor wanted state) =
      plain.changeNonblocking descriptor wanted (view state)
  pipe : ∀ state, seen view (fuller.pipe state) = plain.pipe (view state)
  duplicate : ∀ descriptor state,
    seen view (fuller.duplicate descriptor state) = plain.duplicate descriptor (view state)
  spawn : ∀ request state,
    seen view (fuller.spawn request state) = plain.spawn request (view state)
  allocate : ∀ count state,
    seen view (fuller.allocate count state) = plain.allocate count (view state)
  close : ∀ descriptor state,
    view (fuller.close descriptor state) = plain.close descriptor (view state)

end Kernel

open Kernel

variable {τ σ : Type} {fuller : Kernel τ} {plain : Kernel σ} {view : τ → σ}

/-! ### Calls of calls -/

namespace Kernel.Shows

theorem closeAll (shows : Shows fuller plain view) (descriptors : List Descriptor) (state : τ) :
    view (fuller.closeAll descriptors state) = plain.closeAll descriptors (view state) := by
  unfold Kernel.closeAll
  induction descriptors generalizing state with
  | nil => rfl
  | cons descriptor descriptors ih =>
      rw [List.foldl_cons, List.foldl_cons, ih, shows.close]

theorem setNonblocking (shows : Shows fuller plain view) (descriptor : Descriptor)
    (wanted : Bool) (state : τ) :
    seen view (fuller.setNonblocking descriptor wanted state) =
      plain.setNonblocking descriptor wanted (view state) := by
  unfold Kernel.setNonblocking
  rw [← shows.nonblocking]
  rcases fuller.nonblocking descriptor state with ⟨current, after⟩
  cases current with
  | error error => rfl
  | ok current =>
      simp only [seen]
      split
      · rfl
      · exact shows.changeNonblocking descriptor wanted after

theorem nonblockingPipe (shows : Shows fuller plain view) (state : τ) :
    seen view (fuller.nonblockingPipe state) = plain.nonblockingPipe (view state) := by
  unfold Kernel.nonblockingPipe
  rw [← shows.pipe]
  rcases fuller.pipe state with ⟨ends, after⟩
  cases ends with
  | error error => rfl
  | ok ends =>
      simp only [seen]
      rw [← shows.setNonblocking]
      rcases fuller.setNonblocking ends.2 true after with ⟨changed, after⟩
      cases changed with
      | error error => simp only [seen, shows.closeAll]
      | ok changed =>
          simp only [seen]
          rw [← shows.setNonblocking]
          rcases fuller.setNonblocking ends.1 true after with ⟨changed, after⟩
          cases changed with
          | error error => simp only [seen, shows.closeAll]
          | ok changed => rfl

theorem acceptRemote (shows : Shows fuller plain view) (listener : Descriptor) (state : τ) :
    seen view (fuller.acceptRemote listener state) = plain.acceptRemote listener (view state) := by
  unfold Kernel.acceptRemote
  rw [← shows.accept]
  rcases fuller.accept listener state with ⟨connection, after⟩
  cases connection with
  | error error => rfl
  | ok connection =>
      simp only [seen]
      rw [← shows.setNonblocking]
      rcases fuller.setNonblocking connection.1 false after with ⟨changed, after⟩
      cases changed with
      | error error => simp only [seen, shows.close]
      | ok changed =>
          simp only [seen]
          split
          · simp only [shows.close]
          · rfl

theorem reserve (shows : Shows fuller plain view) (table : ProcessTable) (state : τ) :
    seen view (table.reserve fuller state) = table.reserve plain (view state) := by
  unfold ProcessTable.reserve
  cases table.reserveOne with
  | error error => rfl
  | ok made =>
      simp only
      split
      · rfl
      · rw [← shows.allocate]
        rcases fuller.allocate (made.2.capacity - table.workers.length) state with
          ⟨first, middle⟩
        cases first with
        | error error => rfl
        | ok first =>
            simp only [seen]
            rw [← shows.allocate]
            rcases fuller.allocate (made.2.capacity + 1 - table.slots.length) middle with
              ⟨second, after⟩
            cases second <;> rfl

end Kernel.Shows

/-! ### Workers -/

namespace Worker

theorem forward_shows (shows : Shows fuller plain view) (worker : Worker) (state : τ) :
    seen view (worker.forward fuller state) = worker.forward plain (view state) := by
  cases full : worker.buffer.isFull with
  | true => simp [forward, LineBuffer.fill, full, seen]
  | false =>
      have read := shows.read worker.diagnostics LineBuffer.readChunk state
      rcases answer : fuller.read worker.diagnostics LineBuffer.readChunk state
        with ⟨result, after⟩
      rw [answer] at read
      simp only [seen] at read
      cases result <;> simp [forward, LineBuffer.fill, full, answer, ← read, seen]

theorem drainTurns_shows (shows : Shows fuller plain view) (turns : Nat) (worker : Worker)
    (state : τ) :
    ((drainTurns fuller turns worker state).1, seen view (drainTurns fuller turns worker state).2) =
      drainTurns plain turns worker (view state) := by
  induction turns generalizing worker state with
  | zero => rfl
  | succ turns ih =>
      rw [drainTurns, drainTurns, ← forward_shows shows]
      rcases worker.forward fuller state with ⟨⟨outcome, middle, reports⟩, between⟩
      have rest := fun next => ih next between
      simp only [seen] at rest ⊢
      cases outcome with
      | ok outcome =>
          cases outcome with
          | data =>
              simp only
              rw [← rest]
          | endOfFile => rfl
          | empty => rfl
      | error error =>
          cases error with
          | read error => rfl
          | outOfMemory => rfl
          | lineTooLong limit =>
              simp only
              rw [← rest]

theorem drain_shows (shows : Shows fuller plain view) (turns : Nat) (worker : Worker)
    (state : τ) :
    ((worker.drain fuller turns state).1, seen view (worker.drain fuller turns state).2) =
      worker.drain plain turns (view state) := by
  unfold drain
  rw [← drainTurns_shows shows]
  rfl

theorem attend_shows (shows : Shows fuller plain view) (flags : PollFlags) (worker : Worker)
    (state : τ) :
    seen view (worker.attend fuller flags state) = worker.attend plain flags (view state) := by
  unfold attend
  rw [← forward_shows shows]
  rcases worker.forward fuller state with ⟨⟨outcome, middle, reports⟩, between⟩
  split
  · rfl
  · split
    · simp only [seen]
      split <;> rfl
    · rfl

end Worker

/-! ### Passes -/

namespace Supervisor

def Reaped.seen (view : τ → σ) (reaped : Reaped τ) : Reaped σ :=
  { reaped with state := view reaped.state }

def Forwarded.seen (view : τ → σ) (forwarded : Forwarded τ) : Forwarded σ :=
  { forwarded with state := view forwarded.state }

def Admitted.seen (view : τ → σ) (admitted : Admitted τ) : Admitted σ :=
  { admitted with state := view admitted.state }

def Ticked.seen (view : τ → σ) (ticked : Ticked τ) : Ticked σ :=
  { ticked with state := view ticked.state }

def Ran.seen (view : τ → σ) (ran : Ran τ) : Ran σ := { ran with state := view ran.state }

theorem lastReports_shows (shows : Shows fuller plain view) (worker : Worker) (state : τ) :
    Kernel.seen view (lastReports fuller worker state) =
      lastReports plain worker (view state) := by
  have waited := shows.wait worker.pid state
  rcases answer : fuller.wait worker.pid state with ⟨status, after⟩
  rw [answer] at waited
  simp only [Kernel.seen] at waited
  cases status with
  | error error => simp only [lastReports, answer, ← waited, Kernel.seen]
  | ok status =>
      cases status with
      | none => simp only [lastReports, answer, ← waited, Kernel.seen]
      | some status =>
          have drained := worker.drain_shows shows Worker.drainReads after
          simp only [lastReports, answer, ← waited, Kernel.seen, ← drained]

theorem reapFrom_shows (shows : Shows fuller plain view) (unasked index : Nat)
    (table : ProcessTable) (state : τ) :
    (reapFrom fuller unasked index table state).seen view =
      reapFrom plain unasked index table (view state) := by
  induction unasked generalizing index table state with
  | zero => rfl
  | succ unasked ih =>
      cases found : table.workers[index]? with
      | none =>
          simp only [reapFrom, found]
          rfl
      | some worker =>
          simp only [reapFrom, found]
          rw [← lastReports_shows shows]
          rcases lastReports fuller worker state with ⟨last, after⟩
          cases last with
          | none => exact ih (index + 1) table after
          | some reports =>
              simp only [Kernel.seen]
              rw [← shows.close, ← ih]
              rfl

theorem forwardFrom_shows (shows : Shows fuller plain view) (unattended index : Nat)
    (table : ProcessTable) (state : τ) :
    (forwardFrom fuller unattended index table state).seen view =
      forwardFrom plain unattended index table (view state) := by
  induction unattended generalizing index table state with
  | zero => rfl
  | succ unattended ih =>
      cases found : table.workers[index]? with
      | none =>
          simp only [forwardFrom, found]
          rfl
      | some worker =>
          simp only [forwardFrom, found]
          rw [← Worker.attend_shows shows]
          rcases worker.attend fuller (table.returned index) state with ⟨attended, after⟩
          simp only [Kernel.seen]
          rw [← ih]
          rfl

theorem startWorker_shows (shows : Shows fuller plain view) (command : ShellCommand)
    (connection : Descriptor) (remote : String) (table : ProcessTable) (state : τ) :
    let started := startWorker fuller command connection remote table state
    (started.1, started.2.1, Kernel.seen view started.2.2) =
      startWorker plain command connection remote table (view state) := by
  have opened := shows.nonblockingPipe state
  rcases piped : fuller.nonblockingPipe state with ⟨ends, after⟩
  rw [piped] at opened
  simp only [Kernel.seen] at opened
  cases ends with
  | error error => simp only [startWorker, piped, ← opened, Kernel.seen, shows.close]
  | ok ends =>
      have reserved := shows.reserve table after
      rcases made : table.reserve fuller after with ⟨room, after⟩
      rw [made] at reserved
      simp only [Kernel.seen] at reserved
      cases room with
      | error error =>
          simp only [startWorker, piped, ← opened, made, ← reserved, Kernel.seen, shows.closeAll]
      | ok grown =>
          have copied := shows.duplicate connection after
          rcases duplicated : fuller.duplicate connection after with ⟨input, after⟩
          rw [duplicated] at copied
          simp only [Kernel.seen] at copied
          cases input with
          | error error =>
              simp only [startWorker, piped, ← opened, made, ← reserved, duplicated, ← copied,
                Kernel.seen, shows.closeAll]
          | ok input =>
              have spawned := shows.spawn
                { arguments := command.arguments, remote, input, output := connection,
                  diagnostics := ends.2 } after
              rcases answer : fuller.spawn
                { arguments := command.arguments, remote, input, output := connection,
                  diagnostics := ends.2 } after with ⟨process, last⟩
              rw [answer] at spawned
              simp only [Kernel.seen] at spawned
              simp only [startWorker, piped, ← opened, made, ← reserved, duplicated, ← copied,
                answer, ← spawned]
              cases process <;> simp only [Kernel.seen, shows.closeAll, shows.close]

theorem admitNext_shows (shows : Shows fuller plain view) (listener : Descriptor)
    (command : ShellCommand) (table : ProcessTable) (state : τ) :
    (admitNext fuller listener command table state).seen view =
      admitNext plain listener command table (view state) := by
  simp only [admitNext, ← shows.acceptRemote listener state]
  rcases fuller.acceptRemote listener state with ⟨arrival, after⟩
  cases arrival with
  | error error =>
      simp only [Kernel.seen]
      split <;> rfl
  | ok arrival =>
      simp only [Kernel.seen, ← startWorker_shows shows]
      generalize startWorker fuller command arrival.1 arrival.2.label table after = started
      obtain ⟨notices, outcome, grown, last⟩ := started
      cases outcome <;> rfl

theorem respond_shows (shows : Shows fuller plain view) (supervisor : Supervisor)
    (accepting : Bool) (reaped : Reaped τ) (table : ProcessTable) (state : τ) :
    (respond fuller supervisor accepting reaped table state).seen view =
      respond plain supervisor accepting (reaped.seen view) table (view state) := by
  have sent : (forward fuller table state).seen view = forward plain table (view state) :=
    forwardFrom_shows shows table.length 0 table state
  unfold respond
  rw [← sent]
  generalize forward fuller table state = forwarded
  simp only [Forwarded.seen, Reaped.seen, ← admitNext_shows shows]
  by_cases ready : (accepting && forwarded.table.listenerReady) = true
  · simp only [ready, if_true]
    rfl
  · simp only [ready]
    rfl

theorem tick_shows (shows : Shows fuller plain view) (supervisor : Supervisor) (state : τ) :
    (supervisor.tick fuller state).seen view = supervisor.tick plain (view state) := by
  have gone : (reap fuller supervisor.table state).seen view =
      reap plain supervisor.table (view state) :=
    reapFrom_shows shows supervisor.table.length 0 supervisor.table state
  unfold tick
  rw [← gone]
  generalize reap fuller supervisor.table state = reaped
  simp only [Reaped.seen]
  rw [← shows.poll]
  generalize fuller.poll _ _ reaped.state = found
  obtain ⟨flags, after⟩ := found
  cases flags with
  | error error =>
      simp only [Kernel.seen]
      by_cases interrupted : error.kind = .interrupted <;> simp only [interrupted] <;> rfl
  | ok flags =>
      have answered := respond_shows shows supervisor (supervisor.isAccepting reaped.table)
        reaped (reaped.table.cleared.polled (supervisor.isAccepting reaped.table) flags) after
      simp only [Reaped.seen] at answered
      simp only [Kernel.seen]
      rw [← answered]
      by_cases nothing :
          ((reaped.table.cleared.polled (supervisor.isAccepting reaped.table) flags).slots.all
            fun slot => slot.returned = PollFlags.none) = true
      · simp only [nothing, if_true]
        rfl
      · simp only [nothing]
        rfl

theorem passes_shows (shows : Shows fuller plain view) (supervisor : Supervisor) (state : τ)
    (count : Nat) :
    (passes fuller supervisor state count).seen view =
      passes plain supervisor (view state) count := by
  induction count with
  | zero => rfl
  | succ count ih =>
      simp only [passes, ← ih, Ran.seen, ← tick_shows shows]
      rfl

end Supervisor

end Superserver
