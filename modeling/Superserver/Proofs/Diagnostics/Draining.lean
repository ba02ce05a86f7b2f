import Superserver.Proofs.Diagnostics.Forwarding
import Superserver.Supervisor.Basic

/-!
What is reported of a worker that has exited, when nobody else can write into its pipe. Main
statement: the turns suffice for every byte of a full pipe, unless a line outgrows the buffer. The
turn that such a line takes is missing at the end, and then up to a chunk is lost.
-/

namespace Superserver

open LineBuffer

/-- A pipe whose write end is closed everywhere gives what it holds, as far as it is asked for. -/
structure ClosedPipe (kernel : Kernel σ) (descriptor : Descriptor) (contents : σ → Bytes) :
    Prop where
  read : ∀ count state, ∃ after,
    kernel.read descriptor count state =
        (.ok ⟨(contents state).take count, List.length_take_le _ _⟩, after) ∧
      contents after = (contents state).drop count

namespace Worker

/-- Before one of some turns the open line is so long that the turn reads nothing. -/
def Overruns (turns : Nat) (held content : Bytes) : Prop :=
  ∃ turn < turns, maxLine - readChunk < (openLine (held ++ content.take (readChunk * turn))).length

instance (turns : Nat) (held content : Bytes) : Decidable (Overruns turns held content) :=
  inferInstanceAs (Decidable (∃ turn < turns, _))

section

variable {turns : Nat} {held content : Bytes}

theorem overruns_of_full (unended : Piece.newline ∉ held)
    (full : maxLine - readChunk < held.length) : Overruns (turns + 1) held content := by
  refine ⟨0, Nat.zero_lt_succ turns, ?_⟩
  simpa [openLine_of_not_mem unended] using full

theorem overruns_succ (unended : Piece.newline ∉ held)
    (space : ¬maxLine - readChunk < held.length) :
    Overruns (turns + 1) held content ↔
      Overruns turns (openLine (held ++ content.take readChunk)) (content.drop readChunk) := by
  have later : ∀ turn, openLine (held ++ content.take (readChunk * (turn + 1))) =
      openLine (openLine (held ++ content.take readChunk) ++
        (content.drop readChunk).take (readChunk * turn)) := by
    intro turn
    rw [← openLine_append, List.append_assoc, ← List.take_add, Nat.mul_succ, Nat.add_comm]
  constructor
  · rintro ⟨turn, before, long⟩
    cases turn with
    | zero =>
        simp only [Nat.mul_zero, List.take_zero, List.append_nil,
          openLine_of_not_mem unended] at long
        exact absurd long space
    | succ turn => exact ⟨turn, by omega, later turn ▸ long⟩
  · rintro ⟨turn, before, long⟩
    exact ⟨turn + 1, by omega, (later turn).symm ▸ long⟩

/-- After a flush the turns that are left are too few for another long line. -/
theorem not_overruns_of_flushed (few : turns < drainReads) : ¬Overruns turns [] content := by
  rintro ⟨turn, before, long⟩
  have short := length_openLine_le (content.take (readChunk * turn))
  simp only [List.nil_append, List.length_take, maxLine, readChunk, drainReads] at *
  omega

/-- The turns that read: all of them, or all but the one that goes to a long line. -/
def readings (turns : Nat) (held content : Bytes) : Nat :=
  if Overruns turns held content then turns - 1 else turns

theorem readings_of_full (unended : Piece.newline ∉ held)
    (full : maxLine - readChunk < held.length) : readings (turns + 1) held content = turns :=
  if_pos (overruns_of_full unended full)

theorem readings_of_flushed (few : turns < drainReads) : readings turns [] content = turns :=
  if_neg (not_overruns_of_flushed few)

theorem readings_succ (unended : Piece.newline ∉ held)
    (space : ¬maxLine - readChunk < held.length) :
    readings (turns + 1) held content =
      readings turns (openLine (held ++ content.take readChunk)) (content.drop readChunk) + 1 := by
  have same : Overruns (turns + 1) held content ↔ _ := overruns_succ unended space
  unfold readings
  by_cases overruns : Overruns (turns + 1) held content
  · obtain ⟨turn, before, _⟩ := same.mp overruns
    rw [if_pos overruns, if_pos (same.mp overruns)]
    omega
  · rw [if_neg overruns, if_neg (fun later => overruns (same.mpr later))]

end

section

variable {σ : Type} {kernel : Kernel σ} {worker : Worker} {state after : σ}

theorem left_of_full (full : worker.buffer.isFull = true) (turns : Nat) :
    (drainTurns kernel (turns + 1) worker state).2.2 =
      (drainTurns kernel turns worker.flush.2 state).2.2 := by
  simp [drainTurns, forward_of_full full]

theorem left_of_chunk {chunk : { chunk : Bytes // chunk.length ≤ readChunk }}
    (settled : worker.buffer.Settled) (space : worker.buffer.isFull = false)
    (read : kernel.read worker.diagnostics readChunk state = (.ok chunk, after)) (turns : Nat) :
    (drainTurns kernel (turns + 1) worker state).2.2 =
      if chunk.val = [] then after
      else (drainTurns kernel turns (worker.taking chunk.val) after).2.2 := by
  by_cases empty : chunk.val = [] <;>
    simp [drainTurns, forward_of_chunk settled space read, empty]

/-- Some turns leave in the pipe what those of them cannot read that read at all. -/
theorem contents_drainTurns {contents : σ → Bytes} {turns : Nat} (few : turns ≤ drainReads)
    (worker : Worker) (closed : ClosedPipe kernel worker.diagnostics contents)
    (settled : worker.buffer.Settled) (state : σ) :
    contents (drainTurns kernel turns worker state).2.2 =
      (contents state).drop
        (readChunk * readings turns worker.buffer.bytes (contents state)) := by
  induction turns generalizing worker state with
  | zero => simp [drainTurns, readings]
  | succ turns ih =>
      by_cases full : maxLine - readChunk < worker.buffer.bytes.length
      · have flushed := ih (by omega) worker.flush.2 closed (flush_flow settled).settled state
        rw [buffer_flush, readings_of_flushed few] at flushed
        rw [left_of_full (decide_eq_true full), flushed, readings_of_full settled.unended full]
      · have space : worker.buffer.isFull = false := decide_eq_false full
        obtain ⟨next, read, rest⟩ := closed.read readChunk state
        rw [left_of_chunk settled space read, readings_succ settled.unended full]
        split
        · rename_i empty
          have nothing : contents state = [] := by simpa [readChunk] using empty
          rw [rest, nothing, List.drop_nil, List.drop_nil]
        · have taken := taking_flow space (List.length_take_le readChunk (contents state))
          rw [ih (by omega) (worker.taking _) closed taken.settled next, rest, List.drop_drop,
            Nat.mul_add_one, Nat.add_comm]
          rfl

end

theorem Reads.balance {kernel : Kernel σ} {descriptor : Descriptor} {contents : σ → Bytes}
    (closed : ClosedPipe kernel descriptor contents) {state after : σ} {bytes : Bytes}
    (reads : Reads kernel descriptor state bytes after) :
    bytes ++ contents after = contents state := by
  induction reads with
  | none => rfl
  | @failed bytes middle after error _ read ih =>
      obtain ⟨next, given, _⟩ := closed.read readChunk middle
      rw [given] at read
      cases read
  | @chunk bytes middle after chunk _ read ih =>
      obtain ⟨next, given, rest⟩ := closed.read readChunk middle
      rw [given] at read
      cases read
      rw [rest, List.append_assoc, List.take_append_drop]
      exact ih

end Worker

open Worker

namespace Supervisor

/-- Reaping an exited worker reports the bytes of its buffer and of its pipe in their order, before
the exit. Bytes stay behind in the pipe only if it holds more than the turns but one can read and a
turn goes to a long line; then it is all that those cannot read. The buffer is taken to get the
memory for every chunk. -/
theorem exited_worker_drained_unless_overrun {kernel : Kernel σ} {table : ProcessTable}
    {index : Nat} {worker : Worker} {state waited : σ} {status : Int} {contents : σ → Bytes}
    (found : table.workers[index]? = some worker) (settled : worker.buffer.Settled)
    (exited : kernel.wait worker.pid state = (.ok (some status), waited))
    (closed : ClosedPipe kernel worker.diagnostics contents)
    (fits : (contents waited).length ≤ 65536) (unasked : Nat) :
    ∃ reports drained,
      reapFrom kernel (unasked + 1) index table state =
        (let rest := reapFrom kernel unasked index (table.remove index).2
          (kernel.close worker.diagnostics drained)
         { rest with
           notices := reports.map (.worker worker.pid) ++
             .worker worker.pid (.exited status) :: rest.notices
           removed := true }) ∧
      ProperLines reports ∧
      sources reports ++ contents drained = worker.buffer.bytes ++ contents waited ∧
      contents drained =
        (if Overruns drainReads worker.buffer.bytes (contents waited) then
          (contents waited).drop (readChunk * (drainReads - 1)) else []) ∧
      (contents drained = [] ↔
        ¬(Overruns drainReads worker.buffer.bytes (contents waited) ∧
          readChunk * (drainReads - 1) < (contents waited).length)) := by
  obtain ⟨received, reads, flow⟩ := drain_moves kernel drainReads settled waited
  have left : contents (worker.drain kernel drainReads waited).2.2 = _ :=
    contents_drainTurns (Nat.le_refl _) worker closed settled waited
  have kept := reads.balance closed
  have balance := flow.balance
  rw [buffer_drain, List.append_nil] at balance
  refine ⟨_, (worker.drain kernel drainReads waited).2.2, ?_, flow.proper, ?_, ?_, ?_⟩
  · simp only [reapFrom, found, lastReports, exited, List.map_append, List.append_assoc]
    rfl
  · rw [balance, List.append_assoc, kept]
  · rw [left, readings]
    split
    · rfl
    · exact List.drop_eq_nil_of_le fits
  · rw [left, readings, List.drop_eq_nil_iff]
    by_cases overruns : Overruns drainReads worker.buffer.bytes (contents waited)
    · rw [if_pos overruns, not_and, Nat.not_lt]
      exact ⟨fun short _ => short, fun short => short overruns⟩
    · rw [if_neg overruns]
      exact ⟨fun _ both => overruns both.1, fun _ => fits⟩

def pipeRest : Reader Bytes := fun count rest =>
  (.ok ⟨rest.take count, List.length_take_le _ _⟩, rest.drop count)

theorem closedPipe_pipeRest (descriptor : Descriptor) :
    ClosedPipe (.ofReader pipeRest) descriptor (·.source) :=
  ⟨fun count stage => ⟨{ stage with source := stage.source.drop count }, rfl, rfl⟩⟩

theorem overruns_of_long_line {byte : UInt8} (other : Piece.newline ≠ byte) :
    Overruns drainReads [] (List.replicate 65536 byte) := by
  refine ⟨511, by decide, ?_⟩
  rw [List.nil_append, List.take_replicate, openLine_of_not_mem, List.length_replicate]
  · decide
  · exact fun member => other (List.eq_of_mem_replicate member)

/-- The last chunk of a pipe that is full of one unended line is never reported. -/
theorem last_chunk_lost_of_long_line :
    ∃ reports,
      (reap (.ofReader pipeRest) ((ProcessTable.new 3 1).push { pid := 70, diagnostics := 5 })
        { source := List.replicate 65536 120 }).notices =
          reports.map (.worker 70) ++ [.worker 70 (.exited 0)] ∧
      sources reports ++ List.replicate 128 120 = List.replicate 65536 120 := by
  let stage : Stage Bytes := { source := List.replicate 65536 120 }
  let worker : Worker := { pid := 70, diagnostics := 5 }
  have found : ((ProcessTable.new 3 1).push worker).workers[0]? = some worker := rfl
  have exited : (Kernel.ofReader pipeRest).wait worker.pid stage = (.ok (some 0), stage) := rfl
  obtain ⟨reports, drained, reaped, _, whole, left, _⟩ := exited_worker_drained_unless_overrun
    found settled_empty exited (closedPipe_pipeRest 5) (Nat.le_of_eq List.length_replicate) 0
  have overruns : Overruns drainReads worker.buffer.bytes stage.source :=
    overruns_of_long_line (by decide)
  rw [if_pos overruns] at left
  have lost : drained.source = List.replicate 128 120 := left.trans List.drop_replicate
  refine ⟨reports, congrArg Reaped.notices reaped, ?_⟩
  rw [← lost]
  exact whole

end Supervisor

end Superserver
