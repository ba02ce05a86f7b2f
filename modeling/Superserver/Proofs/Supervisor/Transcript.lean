import Superserver.Proofs.Supervisor.Departures
import Superserver.Proofs.Supervisor.Stages

/-!
A system that writes down every call with its answer. Main statement: the calls of a pass are those
of its askings, one poll, those of its turns and, where the listener is ready, those of one
admission, of which every form is listed.
-/

namespace Superserver

inductive Call where
  | wait (pid : Pid) (answer : Except SystemError (Option Int))
  | read (descriptor : Descriptor) (answer : Except SystemError Bytes)
  | poll (slots : List PollSlot) (timeout : Timeout) (answer : Except SystemError (List PollFlags))
  | accept (listener : Descriptor) (answer : Except SystemError (Descriptor × RawAddress))
  | nonblocking (descriptor : Descriptor) (answer : Except SystemError Bool)
  | changeNonblocking (descriptor : Descriptor) (wanted : Bool) (answer : Except SystemError Unit)
  | pipe (answer : Except SystemError (Descriptor × Descriptor))
  | duplicate (descriptor : Descriptor) (answer : Except SystemError Descriptor)
  | spawn (request : SpawnRequest) (answer : Except SystemError Pid)
  | allocate (count : Nat) (answer : Except MemoryError Unit)
  | close (descriptor : Descriptor)

namespace Call

def isInert : Call → Bool
  | .nonblocking .. | .changeNonblocking .. | .allocate .. => true
  | _ => false

/-- Whether a call neither opens nor closes a descriptor and starts no process. -/
def isPlain : Call → Bool
  | .wait .. | .read .. | .poll .. | .nonblocking .. | .changeNonblocking .. | .allocate .. => true
  | _ => false

/-- Whether a call asks for no process and starts none. -/
def isSetup : Call → Bool
  | .wait .. | .read .. | .poll .. | .spawn .. => false
  | _ => true

theorem isPlain_of_isInert {call : Call} (inert : call.isInert = true) : call.isPlain = true := by
  cases call <;> first | rfl | cases inert

end Call

namespace Kernel

def writing (write : α → Call) (call : σ → α × σ) (written : σ × List Call) :
    α × (σ × List Call) :=
  ((call written.1).1, (call written.1).2, written.2 ++ [write (call written.1).1])

/-- The same system, with every call written down. -/
def transcribing (kernel : Kernel σ) : Kernel (σ × List Call) where
  wait pid := writing (.wait pid) (kernel.wait pid)
  read descriptor count :=
    writing (fun answer => .read descriptor (answer.map (·.val))) (kernel.read descriptor count)
  poll slots timeout := writing (.poll slots timeout) (kernel.poll slots timeout)
  accept listener := writing (.accept listener) (kernel.accept listener)
  nonblocking descriptor := writing (.nonblocking descriptor) (kernel.nonblocking descriptor)
  changeNonblocking descriptor wanted :=
    writing (.changeNonblocking descriptor wanted) (kernel.changeNonblocking descriptor wanted)
  pipe := writing .pipe kernel.pipe
  duplicate descriptor := writing (.duplicate descriptor) (kernel.duplicate descriptor)
  spawn request := writing (.spawn request) (kernel.spawn request)
  allocate count := writing (.allocate count) (kernel.allocate count)
  close descriptor written := (kernel.close descriptor written.1, written.2 ++ [.close descriptor])

section

variable {σ : Type} (kernel : Kernel σ)

theorem transcribing_shows : Shows kernel.transcribing kernel Prod.fst := by
  constructor <;> intros <;> rfl

def written (before after : σ × List Call) : List Call := after.2.drop before.2.length

theorem written_of_append {before after : σ × List Call} {calls : List Call}
    (appended : after.2 = before.2 ++ calls) : written before after = calls := by
  rw [written, appended, List.drop_left]

/-! ### The calls of a new pipe and of a new connection -/

theorem closeAll_writes (descriptors : List Descriptor) (before : σ × List Call) :
    (kernel.transcribing.closeAll descriptors before).2 =
      before.2 ++ descriptors.map .close := by
  unfold closeAll
  induction descriptors generalizing before with
  | nil => simp
  | cons descriptor descriptors ih =>
      rw [List.foldl_cons, ih]
      simp [transcribing]

def Inert (calls : List Call) : Prop := ∀ call ∈ calls, call.isInert = true

theorem Inert.append {first second : List Call} (modes : Inert first) (others : Inert second) :
    Inert (first ++ second) := by
  intro call member
  rcases List.mem_append.mp member with member | member
  · exact modes call member
  · exact others call member

theorem Inert.setup {calls : List Call} (modes : Inert calls) :
    calls.all Call.isSetup = true := by
  apply List.all_eq_true.mpr
  intro call member
  have mode := modes call member
  cases call <;> first | rfl | cases mode

theorem setNonblocking_writes (descriptor : Descriptor) (wanted : Bool)
    (before : σ × List Call) :
    ∃ modes, Inert modes ∧
      (kernel.transcribing.setNonblocking descriptor wanted before).2.2 = before.2 ++ modes := by
  unfold setNonblocking
  rcases asked : kernel.transcribing.nonblocking descriptor before with ⟨current, middle⟩
  have first : middle.2 = before.2 ++ [.nonblocking descriptor current] := by
    cases asked
    rfl
  cases current with
  | error error => exact ⟨_, by simp [Inert, Call.isInert], first⟩
  | ok current =>
      simp only
      split
      · exact ⟨_, by simp [Inert, Call.isInert], first⟩
      · refine ⟨[.nonblocking descriptor (.ok current), .changeNonblocking descriptor wanted
          (kernel.changeNonblocking descriptor wanted middle.1).1],
          by simp [Inert, Call.isInert], ?_⟩
        simp [transcribing, writing, first]

/-- The calls that open a pipe neither end of which waits, with the requests for memory that may
stand behind them, and what comes of the pipe. -/
inductive Piping : List Call → Except SystemError (Descriptor × Descriptor) → Prop where
  | refused {error : SystemError} : Piping [.pipe (.error error)] (.error error)
  | undone {ends : Descriptor × Descriptor} {modes : List Call} {error : SystemError} :
      Inert modes →
        Piping (.pipe (.ok ends) :: (modes ++ [.close ends.2, .close ends.1])) (.error error)
  | opened {ends : Descriptor × Descriptor} {modes : List Call} :
      Inert modes → Piping (.pipe (.ok ends) :: modes) (.ok ends)

theorem Piping.setup {calls : List Call} {ends : Except SystemError (Descriptor × Descriptor)}
    (piping : Piping calls ends) : calls.all Call.isSetup = true := by
  cases piping with
  | refused => rfl
  | undone modes => simp [Call.isSetup, modes.setup]
  | opened modes => simp [Call.isSetup, modes.setup]

theorem Piping.append {calls requests : List Call} {ends : Descriptor × Descriptor}
    (piping : Piping calls (.ok ends)) (inert : Inert requests) :
    Piping (calls ++ requests) (.ok ends) := by
  cases piping with
  | opened modes => exact .opened (modes.append inert)

theorem nonblockingPipe_writes (before : σ × List Call) :
    ∃ calls, Piping calls (kernel.transcribing.nonblockingPipe before).1 ∧
      (kernel.transcribing.nonblockingPipe before).2.2 = before.2 ++ calls := by
  unfold nonblockingPipe
  rcases piped : kernel.transcribing.pipe before with ⟨ends, opened⟩
  have first : opened.2 = before.2 ++ [.pipe ends] := by
    cases piped
    rfl
  cases ends with
  | error error => exact ⟨_, .refused, first⟩
  | ok ends =>
      obtain ⟨modes, quiet, second⟩ := kernel.setNonblocking_writes ends.2 true opened
      simp only
      rcases changed : kernel.transcribing.setNonblocking ends.2 true opened with ⟨done, middle⟩
      rw [changed] at second
      simp only at second
      cases done with
      | error error =>
          have undone : Piping (.pipe (.ok ends) :: (modes ++ [.close ends.2, .close ends.1]))
              (.error error) := .undone quiet
          refine ⟨_, undone, ?_⟩
          simp only [closeAll_writes, second, first]
          simp
      | ok done =>
          obtain ⟨others, still, third⟩ := kernel.setNonblocking_writes ends.1 true middle
          simp only
          rcases changed : kernel.transcribing.setNonblocking ends.1 true middle with ⟨done, last⟩
          rw [changed] at third
          simp only at third
          cases done with
          | error error =>
              have undone : Piping (.pipe (.ok ends) ::
                  (modes ++ others ++ [.close ends.2, .close ends.1])) (.error error) :=
                .undone (quiet.append still)
              refine ⟨_, undone, ?_⟩
              simp only [closeAll_writes, third, second, first]
              simp
          | ok done =>
              refine ⟨_, .opened (quiet.append still), ?_⟩
              simp only [third, second, first]
              simp

inductive Accepting (listener : Descriptor) :
    List Call → Except SystemError (Descriptor × PeerAddress) → Prop where
  | refused {error : SystemError} :
      Accepting listener [.accept listener (.error error)] (.error error)
  | dropped {arrival : Descriptor × RawAddress} {modes : List Call} {error : SystemError} :
      Inert modes →
        Accepting listener (.accept listener (.ok arrival) :: (modes ++ [.close arrival.1]))
          (.error error)
  | accepted {arrival : Descriptor × RawAddress} {modes : List Call} {peer : PeerAddress} :
      Inert modes → arrival.2.decode = .ok peer →
        Accepting listener (.accept listener (.ok arrival) :: modes) (.ok (arrival.1, peer))

theorem Accepting.setup {listener : Descriptor} {calls : List Call}
    {arrival : Except SystemError (Descriptor × PeerAddress)}
    (accepting : Accepting listener calls arrival) : calls.all Call.isSetup = true := by
  cases accepting with
  | refused => rfl
  | dropped modes => simp [Call.isSetup, modes.setup]
  | accepted modes => simp [Call.isSetup, modes.setup]

theorem acceptRemote_writes (listener : Descriptor) (before : σ × List Call) :
    ∃ calls, Accepting listener calls (kernel.transcribing.acceptRemote listener before).1 ∧
      (kernel.transcribing.acceptRemote listener before).2.2 = before.2 ++ calls := by
  unfold acceptRemote
  rcases taken : kernel.transcribing.accept listener before with ⟨arrival, accepted⟩
  have first : accepted.2 = before.2 ++ [.accept listener arrival] := by
    cases taken
    rfl
  cases arrival with
  | error error => exact ⟨_, .refused, first⟩
  | ok arrival =>
      obtain ⟨modes, quiet, second⟩ := kernel.setNonblocking_writes arrival.1 false accepted
      simp only
      rcases changed : kernel.transcribing.setNonblocking arrival.1 false accepted
        with ⟨done, middle⟩
      rw [changed] at second
      simp only at second
      have closed : (kernel.transcribing.close arrival.1 middle).2 =
          before.2 ++ (.accept listener (.ok arrival) :: (modes ++ [.close arrival.1])) := by
        have closing : (kernel.transcribing.close arrival.1 middle).2 =
            middle.2 ++ [.close arrival.1] := rfl
        simp only [closing, second, first]
        simp
      cases done with
      | error error => exact ⟨_, .dropped quiet, closed⟩
      | ok done =>
          simp only
          cases decoded : arrival.2.decode with
          | error error => exact ⟨_, .dropped quiet, closed⟩
          | ok peer =>
              refine ⟨_, .accepted quiet decoded, ?_⟩
              simp only [second, first]
              simp

end

end Kernel

namespace Worker

open Kernel

section

variable {σ : Type} (kernel : Kernel σ)

/-! ### The calls for one worker -/

theorem forward_writes (worker : Worker) (before : σ × List Call) :
    ∃ answers : List (Except SystemError Bytes), answers.length ≤ 1 ∧
      (worker.forward kernel.transcribing before).2.2 =
        before.2 ++ answers.map (.read worker.diagnostics) := by
  rw [Supervisor.state_forward]
  unfold LineBuffer.fill
  split
  · exact ⟨[], by simp, by simp⟩
  · refine ⟨[(kernel.read worker.diagnostics LineBuffer.readChunk before.1).1.map (·.val)],
      by simp, ?_⟩
    simp only [transcribing, writing]
    cases (kernel.read worker.diagnostics LineBuffer.readChunk before.1).1 <;> rfl

theorem drainTurns_writes (turns : Nat) (worker : Worker) (before : σ × List Call) :
    ∃ answers : List (Except SystemError Bytes),
      (drainTurns kernel.transcribing turns worker before).2.2.2 =
        before.2 ++ answers.map (.read worker.diagnostics) := by
  induction turns generalizing worker before with
  | zero => exact ⟨[], by simp [drainTurns]⟩
  | succ turns ih =>
      obtain ⟨first, _, read⟩ := forward_writes kernel worker before
      have alike := alike_forward kernel.transcribing worker before
      rw [drainTurns]
      generalize worker.forward kernel.transcribing before = result at read alike ⊢
      obtain ⟨step, middle⟩ := result
      simp only at read alike ⊢
      split
      · obtain ⟨others, rest⟩ := ih step.worker middle
        refine ⟨first ++ others, ?_⟩
        simp only [rest, read, alike.diagnostics]
        simp
      · exact ⟨first, read⟩
      · obtain ⟨others, rest⟩ := ih step.worker.flush.2 middle
        refine ⟨first ++ others, ?_⟩
        simp only [rest, read, (alike.trans (alike_flush _)).diagnostics]
        simp
      · exact ⟨first, read⟩

theorem attend_writes (flags : PollFlags) (worker : Worker) (before : σ × List Call) :
    ∃ answers : List (Except SystemError Bytes), answers.length ≤ 1 ∧
      (worker.attend kernel.transcribing flags before).2.2 =
        before.2 ++ answers.map (.read worker.diagnostics) := by
  have read := forward_writes kernel worker before
  unfold attend
  generalize worker.forward kernel.transcribing before = result at read ⊢
  obtain ⟨step, after⟩ := result
  split
  · exact ⟨[], by simp, by simp⟩
  · split
    · simp only
      split <;> exact read
    · exact ⟨[], by simp, by simp⟩

end

end Worker

namespace Supervisor

open Kernel ProcessTable

section

variable {σ : Type} (kernel : Kernel σ)

/-- Asking for a worker is one wait, and with a status one emptying of its pipe. Without a status
the worker stays. -/
theorem lastReports_waits (worker : Worker) (before : σ × List Call) :
    let asked := lastReports kernel.transcribing worker before
    ∃ answer, ∃ answers : List (Except SystemError Bytes),
      (asked.1 = none ↔ answer = .ok none) ∧
      asked.2.2 =
        before.2 ++ .wait worker.pid answer :: answers.map (.read worker.diagnostics) := by
  intro asked
  have called : (kernel.transcribing.wait worker.pid before).2.2 = before.2 ++
      [.wait worker.pid (kernel.transcribing.wait worker.pid before).1] := rfl
  rcases lastReports_cases kernel.transcribing worker before with ⟨after, waited, answer⟩ |
    ⟨status, between, reports, emptied, after, waited, drained, answer⟩ |
    ⟨error, after, waited, answer⟩
  · rw [waited] at called
    have result : asked = _ := answer
    rw [result]
    exact ⟨.ok none, [], by simp, called⟩
  · rw [waited] at called
    obtain ⟨answers, read⟩ := worker.drainTurns_writes kernel Worker.drainReads between
    have last : after = (Worker.drainTurns kernel.transcribing Worker.drainReads worker
        between).2.2 := by
      have whole := congrArg (fun result => result.2.2) drained
      exact whole.symm
    have result : asked = _ := answer
    refine ⟨.ok (some status), answers, by simp [result], ?_⟩
    rw [result, last, read, called]
    simp
  · rw [waited] at called
    have result : asked = _ := answer
    rw [result]
    exact ⟨.error error, [], by simp, called⟩

theorem lastReports_writes (worker : Worker) (before : σ × List Call) :
    ∃ answer, ∃ answers : List (Except SystemError Bytes),
      (lastReports kernel.transcribing worker before).2.2 =
        before.2 ++ .wait worker.pid answer :: answers.map (.read worker.diagnostics) := by
  obtain ⟨answer, answers, _, writes⟩ := lastReports_waits kernel worker before
  exact ⟨answer, answers, writes⟩

/-! ### The calls of reaping and of forwarding -/

def Asking.calls (asking : Asking (σ × List Call)) : List Call :=
  written asking.before asking.after ++
    if asking.stays then [] else [.close asking.worker.diagnostics]

def Turn.calls (turn : Turn (σ × List Call)) : List Call := written turn.before turn.after

theorem reapFrom_writes (unasked index : Nat) (table : ProcessTable) (before : σ × List Call) :
    (reapFrom kernel.transcribing unasked index table before).state.2 =
      before.2 ++
        (askingsFrom kernel.transcribing unasked index table before).flatMap Asking.calls := by
  induction unasked generalizing index table before with
  | zero => simp [reapFrom, askingsFrom]
  | succ unasked ih =>
      cases found : table.workers[index]? with
      | none => simp [reapFrom, askingsFrom, found]
      | some worker =>
          obtain ⟨answer, answers, asked⟩ := lastReports_writes kernel worker before
          rcases last : lastReports kernel.transcribing worker before with ⟨reports, after⟩
          rw [last] at asked
          simp only at asked
          have apart := written_of_append asked
          cases reports with
          | none =>
              simp only [reapFrom, askingsFrom, found, last, ih, List.flatMap_cons, Asking.calls,
                Asking.stays, apart, asked]
              simp
          | some reports =>
              have closed : (kernel.transcribing.close worker.diagnostics after).2 =
                  after.2 ++ [.close worker.diagnostics] := rfl
              simp only [reapFrom, askingsFrom, found, last, ih, List.flatMap_cons, Asking.calls,
                Asking.stays, apart, closed, asked]
              simp

theorem Asking.writes {asking : Asking (σ × List Call)}
    (asked : lastReports kernel.transcribing asking.worker asking.before =
      (asking.last, asking.after)) :
    ∃ answer, ∃ answers : List (Except SystemError Bytes),
      asking.calls = .wait asking.worker.pid answer ::
        (answers.map (.read asking.worker.diagnostics) ++
          if asking.stays then [] else [.close asking.worker.diagnostics]) := by
  obtain ⟨answer, answers, read⟩ := lastReports_writes kernel asking.worker asking.before
  rw [asked] at read
  exact ⟨answer, answers, by rw [Asking.calls, written_of_append read]; rfl⟩

theorem Turn.writes {turn : Turn (σ × List Call)} (apt : turn.Apt kernel.transcribing) :
    ∃ answers : List (Except SystemError Bytes), answers.length ≤ 1 ∧
      turn.calls = answers.map (.read turn.worker.diagnostics) ∧
      turn.after.2 = turn.before.2 ++ turn.calls := by
  obtain ⟨answers, few, read⟩ :=
    turn.worker.attend_writes kernel turn.flags turn.before
  rw [apt.attends] at read
  have same : turn.calls = _ := written_of_append read
  exact ⟨answers, few, same, by rw [same]; exact read⟩

theorem plain_of_turns {turns : List (Turn (σ × List Call))}
    (apt : ∀ turn ∈ turns, turn.Apt kernel.transcribing) :
    ∀ call ∈ turns.flatMap Turn.calls, call.isPlain = true := by
  intro call member
  obtain ⟨turn, listed, member⟩ := List.mem_flatMap.mp member
  obtain ⟨answers, _, calls, _⟩ := Turn.writes kernel (apt turn listed)
  rw [calls] at member
  obtain ⟨answer, _, rfl⟩ := List.mem_map.mp member
  rfl

theorem consecutive_writes {turns : List (Turn (σ × List Call))} {before after : σ × List Call}
    (apt : ∀ turn ∈ turns, turn.Apt kernel.transcribing)
    (consecutive : Turn.Consecutive turns before after) :
    after.2 = before.2 ++ turns.flatMap Turn.calls := by
  induction turns generalizing before with
  | nil =>
      have same : before = after := consecutive
      simp [same]
  | cons turn turns ih =>
      obtain ⟨rfl, rest⟩ := consecutive
      obtain ⟨_, _, _, read⟩ := Turn.writes kernel (apt turn (List.mem_cons_self ..))
      rw [ih (fun other member => apt other (List.mem_cons_of_mem _ member)) rest, read,
        List.flatMap_cons, List.append_assoc]

/-! ### The calls of an admission -/

theorem allocate_writes {count : Nat} {answer : Except MemoryError Unit}
    {before after : σ × List Call}
    (asked : kernel.transcribing.allocate count before = (answer, after)) :
    after.2 = before.2 ++ [.allocate count answer] := by
  cases asked
  rfl

theorem reserve_writes (table : ProcessTable) (before : σ × List Call) :
    ∃ requests, Inert requests ∧
      (table.reserve kernel.transcribing before).2.2 = before.2 ++ requests := by
  rcases answer : table.reserve kernel.transcribing before with ⟨room, after⟩
  have both {middle : σ × List Call} {count others : Nat} {answer : Except MemoryError Unit}
      (first : kernel.transcribing.allocate count before = (.ok (), middle))
      (second : kernel.transcribing.allocate others middle = (answer, after)) :
      after.2 = before.2 ++ [.allocate count (.ok ()), .allocate others answer] := by
    rw [allocate_writes kernel second, allocate_writes kernel first, List.append_assoc,
      List.singleton_append]
  cases reserving_of_reserve answer with
  | unasked => exact ⟨[], by simp [Inert], by simp⟩
  | refused _ first => exact ⟨_, by simp [Inert, Call.isInert], allocate_writes kernel first⟩
  | halfway _ first second => exact ⟨_, by simp [Inert, Call.isInert], both first second⟩
  | granted _ first second => exact ⟨_, by simp [Inert, Call.isInert], both first second⟩

/-- The calls that start a worker on a connection, and what comes of them. Nothing can fail after
the process was started. Without room the table is full, or it was refused the memory to grow. -/
inductive Beginning (connection : Descriptor) (remote : String) (table : ProcessTable) :
    List Call → List Notice → Except AdmissionError Worker → ProcessTable → Prop where
  | pipeless {calls : List Call} {error : SystemError} :
      Piping calls (.error error) →
        Beginning connection remote table (calls ++ [.close connection]) [] (.error (.pipe error))
          table
  | roomless {calls : List Call} {ends : Descriptor × Descriptor} {error : TableError} :
      Piping calls (.ok ends) →
        (table.reserveOne = .error error ∨
          table.capacity ≤ table.length ∧ ∃ cause, error = .outOfMemory cause) →
        Beginning connection remote table
          (calls ++ [.close ends.2, .close ends.1, .close connection]) []
          (.error (.table error)) table
  | uncopied {calls : List Call} {ends : Descriptor × Descriptor} {notices : List Notice}
      {grown : ProcessTable} {error : SystemError} :
      Piping calls (.ok ends) → table.reserveOne = .ok (notices, grown) →
        Beginning connection remote table
          (calls ++ [.duplicate connection (.error error), .close ends.2, .close ends.1,
            .close connection])
          notices (.error (.duplicate error)) grown
  | unstarted {calls : List Call} {ends : Descriptor × Descriptor} {notices : List Notice}
      {grown : ProcessTable} {input : Descriptor} {request : SpawnRequest}
      {error : SystemError} :
      Piping calls (.ok ends) → table.reserveOne = .ok (notices, grown) →
        request.remote = remote →
        Beginning connection remote table
          (calls ++ [.duplicate connection (.ok input), .spawn request (.error error),
            .close input, .close connection, .close ends.2, .close ends.1])
          notices (.error (.spawn error)) grown
  | started {calls : List Call} {ends : Descriptor × Descriptor} {notices : List Notice}
      {grown : ProcessTable} {input : Descriptor} {request : SpawnRequest} {pid : Pid} :
      Piping calls (.ok ends) → table.reserveOne = .ok (notices, grown) →
        request.remote = remote →
        Beginning connection remote table
          (calls ++ [.duplicate connection (.ok input), .spawn request (.ok pid),
            .close input, .close connection, .close ends.2])
          notices (.ok { pid, diagnostics := ends.1 }) grown

theorem startWorker_writes (command : ShellCommand) (connection : Descriptor) (remote : String)
    (table : ProcessTable) (before : σ × List Call) :
    let started := startWorker kernel.transcribing command connection remote table before
    ∃ calls, Beginning connection remote table calls started.1 started.2.1 started.2.2.1 ∧
      started.2.2.2.2 = before.2 ++ calls := by
  obtain ⟨calls, piping, opened⟩ := kernel.nonblockingPipe_writes before
  rcases piped : kernel.transcribing.nonblockingPipe before with ⟨ends, after⟩
  rw [piped] at piping opened
  simp only at opened
  cases ends with
  | error error =>
      refine ⟨calls ++ [.close connection], ?_, ?_⟩
      · simp only [startWorker, piped]
        exact .pipeless piping
      · have closed : (kernel.transcribing.close connection after).2 =
            after.2 ++ [.close connection] := rfl
        simp only [startWorker, piped, closed, opened]
        simp
  | ok ends =>
      obtain ⟨requests, inert, asked⟩ := reserve_writes kernel table after
      have room := reserve_cases kernel.transcribing table after
      rcases made : table.reserve kernel.transcribing after with ⟨reserved, readied⟩
      rw [made] at asked room
      simp only at asked
      have ready : readied.2 = before.2 ++ (calls ++ requests) := by
        rw [asked, opened, List.append_assoc]
      have piping := piping.append inert
      generalize calls ++ requests = calls at ready piping
      cases reserved with
      | error error =>
          refine ⟨calls ++ [.close ends.2, .close ends.1, .close connection], ?_, ?_⟩
          · simp only [startWorker, piped, made]
            refine .roomless piping (room.imp Eq.symm fun refused => ⟨refused.1, ?_⟩)
            obtain ⟨_, cause, refused⟩ := refused
            exact ⟨cause, Except.error.inj refused⟩
          · simp only [startWorker, piped, made, closeAll_writes, ready]
            simp
      | ok grown =>
          have granted : table.reserveOne = .ok (grown.1, grown.2) := by
            rcases room with same | ⟨_, cause, refused⟩
            · exact same.symm
            · cases refused
          rcases duplicated : kernel.transcribing.duplicate connection readied with ⟨input, copied⟩
          have second : copied.2 = readied.2 ++ [.duplicate connection input] := by
            cases duplicated
            rfl
          cases input with
          | error error =>
              refine ⟨calls ++ [.duplicate connection (.error error), .close ends.2,
                .close ends.1, .close connection], ?_, ?_⟩
              · simp only [startWorker, piped, made, duplicated]
                exact .uncopied piping granted
              · simp only [startWorker, piped, made, duplicated, closeAll_writes, second, ready]
                simp
          | ok input =>
              let request : SpawnRequest :=
                { arguments := command.arguments, remote, input, output := connection,
                  diagnostics := ends.2 }
              rcases spawned : kernel.transcribing.spawn request copied with ⟨process, last⟩
              have third : last.2 = copied.2 ++ [.spawn request process] := by
                cases spawned
                rfl
              have closed : (kernel.transcribing.close ends.1
                  (kernel.transcribing.closeAll [input, connection, ends.2] last)).2 =
                    (kernel.transcribing.closeAll [input, connection, ends.2] last).2 ++
                      [.close ends.1] := rfl
              cases process with
              | error error =>
                  refine ⟨calls ++ [.duplicate connection (.ok input),
                    .spawn request (.error error), .close input, .close connection, .close ends.2,
                    .close ends.1], ?_, ?_⟩
                  · simp only [startWorker, piped, made, duplicated, request, spawned]
                    exact .unstarted piping granted rfl
                  · simp only [startWorker, piped, made, duplicated, request, spawned, closed,
                      closeAll_writes, third, second, ready]
                    simp
              | ok pid =>
                  refine ⟨calls ++ [.duplicate connection (.ok input), .spawn request (.ok pid),
                    .close input, .close connection, .close ends.2], ?_, ?_⟩
                  · simp only [startWorker, piped, made, duplicated, request, spawned]
                    exact .started piping granted rfl
                  · simp only [startWorker, piped, made, duplicated, request, spawned,
                      closeAll_writes, third, second, ready]
                    simp

inductive Admitting (listener : Descriptor) (table : ProcessTable) :
    List Call → List Notice → Except TickError Bool → ProcessTable → Prop where
  | ignored {calls : List Call} {error : SystemError} :
      Accepting listener calls (.error error) → error.isTransient = true →
        Admitting listener table calls [.acceptIgnored error] (.ok false) table
  | failed {calls : List Call} {error : SystemError} :
      Accepting listener calls (.error error) → error.isTransient = false →
        Admitting listener table calls [] (.error (.accept error)) table
  | refused {calls more : List Call} {connection : Descriptor} {peer : PeerAddress}
      {notices : List Notice} {error : AdmissionError} {grown : ProcessTable} :
      Accepting listener calls (.ok (connection, peer)) →
        Beginning connection peer.label table more notices (.error error) grown →
        Admitting listener table (calls ++ more) notices (.error (.admission peer.label error))
          grown
  | admitted {calls more : List Call} {connection : Descriptor} {peer : PeerAddress}
      {notices : List Notice} {worker : Worker} {grown : ProcessTable} :
      Accepting listener calls (.ok (connection, peer)) →
        Beginning connection peer.label table more notices (.ok worker) grown →
        Admitting listener table (calls ++ more)
          (notices ++ [.worker worker.pid (.created peer.label)]) (.ok true) (grown.push worker)

theorem admitNext_writes (listener : Descriptor) (command : ShellCommand) (table : ProcessTable)
    (before : σ × List Call) :
    let admitted := admitNext kernel.transcribing listener command table before
    ∃ calls, Admitting listener table calls admitted.notices admitted.outcome admitted.table ∧
      admitted.state.2 = before.2 ++ calls := by
  obtain ⟨calls, accepting, first⟩ := kernel.acceptRemote_writes listener before
  rcases arrived : kernel.transcribing.acceptRemote listener before with ⟨arrival, after⟩
  rw [arrived] at accepting first
  simp only at first
  simp only [admitNext, arrived]
  cases arrival with
  | error error =>
      simp only
      split
      · rename_i transient
        exact ⟨calls, .ignored accepting transient, first⟩
      · rename_i lasting
        exact ⟨calls, .failed accepting (Bool.eq_false_iff.mpr lasting), first⟩
  | ok arrival =>
      obtain ⟨more, beginning, second⟩ := startWorker_writes kernel command arrival.1
        arrival.2.label table after
      simp only at beginning second ⊢
      generalize startWorker kernel.transcribing command arrival.1 arrival.2.label table after =
        started at beginning second ⊢
      obtain ⟨notices, outcome, grown, last⟩ := started
      have whole : last.2 = before.2 ++ (calls ++ more) := by
        rw [second, first, List.append_assoc]
      cases outcome with
      | error error => exact ⟨_, .refused accepting beginning, whole⟩
      | ok worker => exact ⟨_, .admitted accepting beginning, whole⟩

/-! ### The calls of a pass -/

inductive Ending (listener : Descriptor) (look : Look σ) (sent : Forwarded σ) :
    List Call → Ticked σ → Prop where
  | shut {next : Ticked σ} :
      next.supervisor.table = sent.table → next.notices = look.reaped.notices ++ sent.notices →
        (∀ error, next.outcome = .error error →
          ∃ failure, look.answer.1 = .error failure ∧ error = .poll failure) →
        Ending listener look sent [] next
  | tried {next : Ticked σ} {calls : List Call} {later : List Notice}
      {outcome : Except TickError Bool} :
      Admitting listener sent.table calls later outcome next.supervisor.table →
        next.notices = look.reaped.notices ++ (sent.notices ++ later) →
        next.outcome = outcome.map (fun one =>
          .ofActive (look.reaped.removed || sent.active || one)) →
        look.accepting = true → Ending listener look sent calls next

def Look.calls (look : Look (σ × List Call)) (supervisor : Supervisor)
    (before : σ × List Call) : List Call :=
  (askingsFrom kernel.transcribing supervisor.table.length 0 supervisor.table before).flatMap
      Asking.calls ++
    [.poll look.offered look.timeout look.answer.1]

theorem look_writes (supervisor : Supervisor) (before : σ × List Call) :
    let look := supervisor.look kernel.transcribing before
    look.answer.2.2 = before.2 ++ look.calls kernel supervisor before := by
  intro look
  have reaped : look.reaped.state.2 = before.2 ++ _ :=
    reapFrom_writes kernel supervisor.table.length 0 supervisor.table before
  have polled : look.answer.2.2 =
      look.reaped.state.2 ++ [.poll look.offered look.timeout look.answer.1] := rfl
  rw [polled, reaped, Look.calls, List.append_assoc]

theorem tick_writes {listener : Int} {supervisor : Supervisor}
    (sound : Lockstep listener supervisor.table) (before : σ × List Call) :
    let look := supervisor.look kernel.transcribing before
    let next := supervisor.tick kernel.transcribing before
    ∃ last, Ending supervisor.listener.descriptor look (look.attended kernel.transcribing) last
        next ∧
      next.state.2 = before.2 ++ (look.calls kernel supervisor before ++
        ((look.turns kernel.transcribing).flatMap Turn.calls ++ last)) := by
  intro look next
  obtain ⟨apt, _, consecutive⟩ := turns_spec kernel.transcribing supervisor before sound
  have looked : look.answer.2.2 = _ := look_writes kernel supervisor before
  have attended := consecutive_writes kernel apt consecutive
  rw [looked] at attended
  cases tries : look.tries kernel.transcribing with
  | false =>
      have ticked : next = _ := tick_of_shut kernel.transcribing supervisor before tries
      refine ⟨[], ?_, ?_⟩
      · rw [ticked]
        refine .shut rfl rfl ?_
        intro error failed
        simp only [Look.outcome] at failed
        split at failed
        · rename_i failure answer
          split at failed
          · cases failed
          · cases failed
            exact ⟨failure, answer, rfl⟩
        · cases failed
      · rw [ticked, List.append_nil, ← List.append_assoc]
        exact attended
  | true =>
      have ticked : next = _ := tick_of_tried kernel.transcribing supervisor before tries
      obtain ⟨calls, admitting, written⟩ := admitNext_writes kernel
        supervisor.listener.descriptor supervisor.command (look.attended kernel.transcribing).table
        (look.attended kernel.transcribing).state
      have accepting : look.accepting = true := (Bool.and_eq_true_iff.mp tries).1
      refine ⟨calls, ?_, ?_⟩
      · rw [ticked]
        exact .tried admitting (List.append_assoc _ _ _) rfl accepting
      · have attended : (look.attended kernel.transcribing).state.2 = _ := attended
        have last : next.state.2 = (look.attended kernel.transcribing).state.2 ++ calls := by
          rw [ticked]
          exact written
        rw [last, attended]
        simp only [List.append_assoc]
        rfl

end

end Supervisor

end Superserver
