import Superserver.Proofs.Table.Lockstep
import Superserver.Supervisor.Basic

/-!
What the attempt to start a worker can come to. Main statement: room is made only after the pipe
was opened, a process is started only in room that was made, and of the calls only the last start
can bring a process.
-/

namespace Superserver

namespace Kernel

inductive Quiet (kernel : Kernel σ) (state : σ) : σ → Prop where
  | refl : Quiet kernel state state
  | wait {middle : σ} (pid : Pid) :
      Quiet kernel state middle → Quiet kernel state (kernel.wait pid middle).2
  | poll {middle : σ} (slots : List PollSlot) (timeout : Timeout) :
      Quiet kernel state middle → Quiet kernel state (kernel.poll slots timeout middle).2
  | accept {middle : σ} (listener : Descriptor) :
      Quiet kernel state middle → Quiet kernel state (kernel.accept listener middle).2
  | nonblocking {middle : σ} (descriptor : Descriptor) :
      Quiet kernel state middle → Quiet kernel state (kernel.nonblocking descriptor middle).2
  | changeNonblocking {middle : σ} (descriptor : Descriptor) (wanted : Bool) :
      Quiet kernel state middle →
        Quiet kernel state (kernel.changeNonblocking descriptor wanted middle).2
  | pipe {middle : σ} : Quiet kernel state middle → Quiet kernel state (kernel.pipe middle).2
  | duplicate {middle : σ} (descriptor : Descriptor) :
      Quiet kernel state middle → Quiet kernel state (kernel.duplicate descriptor middle).2
  | unstarted {middle after : σ} {request : SpawnRequest} {error : SystemError} :
      Quiet kernel state middle → kernel.spawn request middle = (.error error, after) →
        Quiet kernel state after
  | allocate {middle : σ} (count : Nat) :
      Quiet kernel state middle → Quiet kernel state (kernel.allocate count middle).2
  | close {middle : σ} (descriptor : Descriptor) :
      Quiet kernel state middle → Quiet kernel state (kernel.close descriptor middle)

namespace Quiet

variable {kernel : Kernel σ} {state middle : σ}

theorem trans {after : σ} (quiet : Quiet kernel state middle) (next : Quiet kernel middle after) :
    Quiet kernel state after := by
  induction next with
  | refl => exact quiet
  | wait pid _ ih => exact ih.wait pid
  | poll slots timeout _ ih => exact ih.poll slots timeout
  | accept listener _ ih => exact ih.accept listener
  | nonblocking descriptor _ ih => exact ih.nonblocking descriptor
  | changeNonblocking descriptor wanted _ ih => exact ih.changeNonblocking descriptor wanted
  | pipe _ ih => exact ih.pipe
  | duplicate descriptor _ ih => exact ih.duplicate descriptor
  | unstarted _ failed ih => exact ih.unstarted failed
  | allocate count _ ih => exact ih.allocate count
  | close descriptor _ ih => exact ih.close descriptor

theorem closeAll (quiet : Quiet kernel state middle) (descriptors : List Descriptor) :
    Quiet kernel state (kernel.closeAll descriptors middle) := by
  unfold Kernel.closeAll
  induction descriptors generalizing middle with
  | nil => exact quiet
  | cons descriptor descriptors ih => exact ih (quiet.close descriptor)

theorem setNonblocking (quiet : Quiet kernel state middle) (descriptor : Descriptor)
    (wanted : Bool) : Quiet kernel state (kernel.setNonblocking descriptor wanted middle).2 := by
  have asked := quiet.nonblocking descriptor
  unfold Kernel.setNonblocking
  rcases answer : kernel.nonblocking descriptor middle with ⟨current, after⟩
  rw [answer] at asked
  cases current with
  | error error => exact asked
  | ok current =>
      simp only
      split
      · exact asked
      · exact asked.changeNonblocking descriptor wanted

theorem nonblockingPipe (quiet : Quiet kernel state middle) :
    Quiet kernel state (kernel.nonblockingPipe middle).2 := by
  have opened := quiet.pipe
  unfold Kernel.nonblockingPipe
  rcases answer : kernel.pipe middle with ⟨ends, after⟩
  rw [answer] at opened
  cases ends with
  | error error => exact opened
  | ok ends =>
      have first := opened.setNonblocking ends.2 true
      simp only
      rcases answer : kernel.setNonblocking ends.2 true after with ⟨changed, after⟩
      rw [answer] at first
      cases changed with
      | error error => exact first.closeAll _
      | ok changed =>
          have second := first.setNonblocking ends.1 true
          simp only
          rcases answer : kernel.setNonblocking ends.1 true after with ⟨changed, after⟩
          rw [answer] at second
          cases changed with
          | error error => exact second.closeAll _
          | ok changed => exact second

theorem acceptRemote (quiet : Quiet kernel state middle) (listener : Descriptor) :
    Quiet kernel state (kernel.acceptRemote listener middle).2 := by
  have taken := quiet.accept listener
  unfold Kernel.acceptRemote
  rcases answer : kernel.accept listener middle with ⟨accepted, after⟩
  rw [answer] at taken
  cases accepted with
  | error error => exact taken
  | ok accepted =>
      have changed := taken.setNonblocking accepted.1 false
      simp only
      rcases answer : kernel.setNonblocking accepted.1 false after with ⟨done, after⟩
      rw [answer] at changed
      cases done with
      | error error => exact changed.close _
      | ok done =>
          simp only
          split
          · exact changed.close _
          · exact changed

theorem allocated {after : σ} {count : Nat} {answer : Except MemoryError Unit}
    (quiet : Quiet kernel state middle) (asked : kernel.allocate count middle = (answer, after)) :
    Quiet kernel state after := by
  have next := quiet.allocate count
  rwa [asked] at next

theorem reserve (quiet : Quiet kernel state middle) (table : ProcessTable) :
    Quiet kernel state (table.reserve kernel middle).2 := by
  rcases answer : table.reserve kernel middle with ⟨room, after⟩
  cases ProcessTable.reserving_of_reserve answer with
  | unasked => exact quiet
  | refused _ first => exact quiet.allocated first
  | halfway _ first second => exact (quiet.allocated first).allocated second
  | granted _ first second => exact (quiet.allocated first).allocated second

end Quiet

end Kernel

namespace Supervisor

open Kernel

/-- What the attempt to start a worker can come to. -/
inductive Starting (kernel : Kernel σ) (table : ProcessTable) (state : σ) :
    List Notice × Except AdmissionError Worker × ProcessTable × σ → Prop where
  | unopened {after : σ} {error : SystemError} :
      (kernel.nonblockingPipe state).1 = .error error → Quiet kernel state after →
        Starting kernel table state ([], .error (.pipe error), table, after)
  | refused {after : σ} {ends : Descriptor × Descriptor} {error : TableError} :
      (kernel.nonblockingPipe state).1 = .ok ends →
        (table.reserve kernel (kernel.nonblockingPipe state).2).1 = .error error →
        Quiet kernel state after →
        Starting kernel table state ([], .error (.table error), table, after)
  | failed {after : σ} {ends : Descriptor × Descriptor} {notices : List Notice}
      {grown : ProcessTable} {error : AdmissionError} :
      (kernel.nonblockingPipe state).1 = .ok ends →
        (table.reserve kernel (kernel.nonblockingPipe state).2).1 = .ok (notices, grown) →
        Quiet kernel state after → Starting kernel table state (notices, .error error, grown, after)
  | started {before spawned after : σ} {ends : Descriptor × Descriptor} {notices : List Notice}
      {grown : ProcessTable} {request : SpawnRequest} {pid : Pid} :
      (kernel.nonblockingPipe state).1 = .ok ends →
        (table.reserve kernel (kernel.nonblockingPipe state).2).1 = .ok (notices, grown) →
        Quiet kernel state before → kernel.spawn request before = (.ok pid, spawned) →
        Quiet kernel spawned after →
        Starting kernel table state (notices, .ok { pid, diagnostics := ends.1 }, grown, after)

theorem startWorker_starting (kernel : Kernel σ) (command : ShellCommand)
    (connection : Descriptor) (remote : String) (table : ProcessTable) (state : σ) :
    Starting kernel table state (startWorker kernel command connection remote table state) := by
  have piped : Quiet kernel state (kernel.nonblockingPipe state).2 := Quiet.refl.nonblockingPipe
  have reserved := piped.reserve table
  rcases opened : kernel.nonblockingPipe state with ⟨ends, between⟩
  rw [opened] at piped reserved
  have answered := congrArg Prod.fst opened
  cases ends with
  | error error =>
      simp only [startWorker, opened]
      exact Starting.unopened answered (piped.close connection)
  | ok ends =>
      rcases made : table.reserve kernel between with ⟨room, after⟩
      simp only [made] at reserved
      have making : (table.reserve kernel (kernel.nonblockingPipe state).2).1 = room := by
        rw [opened, made]
      cases room with
      | error error =>
          simp only [startWorker, opened, made]
          exact Starting.refused answered making (reserved.closeAll _)
      | ok grown =>
          have copied := reserved.duplicate connection
          rcases duplicated : kernel.duplicate connection after with ⟨input, after⟩
          rw [duplicated] at copied
          cases input with
          | error error =>
              simp only [startWorker, opened, made, duplicated]
              exact Starting.failed answered making (copied.closeAll _)
          | ok input =>
              rcases spawned : kernel.spawn
                { arguments := command.arguments, remote, input, output := connection,
                  diagnostics := ends.2 } after with ⟨process, last⟩
              simp only [startWorker, opened, made, duplicated, spawned]
              cases process with
              | error error =>
                  exact Starting.failed answered making
                    (((copied.unstarted spawned).closeAll _).close _)
              | ok pid =>
                  exact Starting.started answered making copied spawned (Quiet.refl.closeAll _)

end Supervisor

end Superserver
