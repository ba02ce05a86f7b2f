import Superserver.Diagnostics.Script
import Superserver.Proofs.Diagnostics.Forwarding

/-!
A stream that arrives cut into chunks, with waits between them. Main statement: as long as no line
comes near the longest one, what is reported are the lines of the stream, however it is cut.
-/

namespace Superserver

/-- The stream ends after some calls, none of which fails; the chunks that it was cut into. -/
inductive Delivers (kernel : Kernel σ) (descriptor : Descriptor) :
    (calls : Nat) → σ → List Bytes → σ → Prop where
  | ended {state after : σ} :
      kernel.read descriptor LineBuffer.readChunk state = (.ok ⟨[], Nat.zero_le _⟩, after) →
        Delivers kernel descriptor 1 state [] after
  | waited {calls : Nat} {state middle after : σ} {error : SystemError} {chunks : List Bytes} :
      kernel.read descriptor LineBuffer.readChunk state = (.error error, middle) →
        Worker.isWait error = true → Delivers kernel descriptor calls middle chunks after →
        Delivers kernel descriptor (calls + 1) state chunks after
  | chunk {calls : Nat} {state middle after : σ} {chunk : Bytes} {chunks : List Bytes}
      {short : chunk.length ≤ LineBuffer.readChunk} :
      kernel.read descriptor LineBuffer.readChunk state = (.ok ⟨chunk, short⟩, middle) →
        chunk ≠ [] → Delivers kernel descriptor calls middle chunks after →
        Delivers kernel descriptor (calls + 1) state (chunk :: chunks) after

namespace Worker

structure Sequel (σ : Type) where
  outcomes : List (Except ForwardError ReadOutcome)
  worker : Worker
  reports : List Report
  state : σ

def forwards (kernel : Kernel σ) : (calls : Nat) → Worker → σ → Sequel σ
  | 0, worker, state => { outcomes := [], worker, reports := [], state }
  | calls + 1, worker, state =>
      let (step, state) := worker.forward kernel state
      let rest := forwards kernel calls step.worker state
      { rest with
        outcomes := step.outcome :: rest.outcomes
        reports := step.reports ++ rest.reports }

end Worker

namespace LineBuffer

/-- The lines of a whole stream: what its newlines end, and what follows the last one if that is
something. -/
def wholeLines (stream : Bytes) : List Bytes :=
  completeLines stream ++ if openLine stream = [] then [] else [openLine stream]

/-- No stretch without a newline comes within a chunk of the longest line. -/
def ShortLined (stream : Bytes) : Prop :=
  ∀ stretch, stretch <:+: stream → Piece.newline ∉ stretch →
    stretch.length ≤ maxLine - readChunk

theorem ShortLined.of_suffix {first second : Bytes} (short : ShortLined second)
    (part : first <:+ second) : ShortLined first :=
  fun stretch within => short stretch (within.trans part.isInfix)

theorem openLine_suffix (bytes : Bytes) : openLine bytes <:+ bytes :=
  ⟨_, completeLines_append_openLine bytes⟩

end LineBuffer

open LineBuffer

namespace Worker

theorem isFull_of_shortLined {buffer : LineBuffer} {rest : Bytes} (settled : buffer.Settled)
    (short : ShortLined (buffer.bytes ++ rest)) : buffer.isFull = false := by
  have small := short buffer.bytes (List.prefix_append _ _).isInfix settled.unended
  exact decide_eq_false (Nat.not_lt.mpr small)

theorem taking_taking (worker : Worker) (first second : Bytes) :
    (worker.taking first).taking second = worker.taking (first ++ second) := by
  simp only [taking, ← List.append_assoc]
  rw [← openLine_append]

theorem reports_taking (worker : Worker) (first second : Bytes) :
    lineReports (completeLines (worker.buffer.bytes ++ first)) ++
        lineReports (completeLines ((worker.taking first).buffer.bytes ++ second)) =
      lineReports (completeLines (worker.buffer.bytes ++ (first ++ second))) := by
  rw [← List.append_assoc, completeLines_append (worker.buffer.bytes ++ first)]
  exact List.map_append.symm

theorem shortLined_taking {worker : Worker} {chunk rest : Bytes}
    (short : ShortLined (worker.buffer.bytes ++ (chunk ++ rest))) :
    ShortLined ((worker.taking chunk).buffer.bytes ++ rest) := by
  apply short.of_suffix
  obtain ⟨before, whole⟩ := openLine_suffix (worker.buffer.bytes ++ chunk)
  refine ⟨before, ?_⟩
  rw [← List.append_assoc, ← List.append_assoc, ← whole]
  rfl

/-- Up to its end the stream is read without an error. Its complete lines are reported, and the
start of the last one is left. -/
theorem forwards_of_delivers {kernel : Kernel σ} {worker : Worker} {calls : Nat} {state after : σ}
    {chunks : List Bytes} (delivers : Delivers kernel worker.diagnostics calls state chunks after)
    (settled : worker.buffer.Settled)
    (short : ShortLined (worker.buffer.bytes ++ chunks.flatten)) :
    ∃ earlier, ReadOutcome.endOfFile ∉ earlier ∧
      worker.forwards kernel calls state =
        { outcomes := (earlier ++ [.endOfFile]).map .ok
          worker := worker.taking chunks.flatten
          reports := lineReports (completeLines (worker.buffer.bytes ++ chunks.flatten))
          state := after } := by
  generalize same : worker.diagnostics = descriptor at delivers
  induction delivers generalizing worker with
  | ended read =>
      subst same
      have space := isFull_of_shortLined settled short
      refine ⟨[], by simp, ?_⟩
      simp [forwards, forward_of_chunk settled space read]
  | waited read wait rest ih =>
      subst same
      have space := isFull_of_shortLined settled short
      obtain ⟨earlier, absent, result⟩ := ih settled short rfl
      refine ⟨.empty :: earlier, by simpa using absent, ?_⟩
      simp [forwards, forward_of_error space read, wait, result]
  | @chunk calls state middle after chunk chunks fits read some rest ih =>
      subst same
      have space := isFull_of_shortLined settled short
      have settledNext := (taking_flow space fits).settled
      obtain ⟨earlier, absent, result⟩ := ih settledNext (shortLined_taking short) rfl
      refine ⟨.data :: earlier, by simpa using absent, ?_⟩
      simp only [forwards, forward_of_chunk settled space read, result, taking_taking,
        reports_taking, List.flatten_cons, List.length_eq_zero_iff, some, if_false]
      rfl

end Worker

def heard (pid : Pid) (reports : List Report) : List Event := reports.filterMap (·.event? pid)

theorem heard_append (pid : Pid) (first second : List Report) :
    heard pid (first ++ second) = heard pid first ++ heard pid second := List.filterMap_append

namespace Worker

theorem heard_lineReports (pid : Pid) (lines : List Bytes) :
    heard pid (lineReports lines) = lines.map fun line => .line pid (Utf8.decodeLossy line) := by
  induction lines with
  | nil => rfl
  | cons line lines ih => exact congrArg _ ih

theorem heard_flush_taking {worker : Worker} {stream : Bytes} (pid : Pid)
    (fresh : worker.buffer = {}) :
    heard pid (worker.taking stream).flush.1 =
      (if openLine stream = [] then [] else [openLine stream]).map
        fun line => .line pid (Utf8.decodeLossy line) := by
  simp only [taking, fresh, flush, takeRemainder, List.nil_append, List.isEmpty_iff]
  split <;> rfl

theorem heard_of_delivers {kernel : Kernel σ} {worker : Worker} {calls : Nat} {state after : σ}
    {chunks : List Bytes} (fresh : worker.buffer = {})
    (delivers : Delivers kernel worker.diagnostics calls state chunks after)
    (short : ShortLined chunks.flatten) :
    let ran := worker.forwards kernel calls state
    (∃ earlier, ReadOutcome.endOfFile ∉ earlier ∧
      ran.outcomes = (earlier ++ [.endOfFile]).map .ok) ∧
    heard worker.pid (ran.reports ++ ran.worker.flush.1) =
      (wholeLines chunks.flatten).map fun line => .line worker.pid (Utf8.decodeLossy line) := by
  have settled : worker.buffer.Settled := by
    rw [fresh]
    exact settled_empty
  have shortFresh : ShortLined (worker.buffer.bytes ++ chunks.flatten) := by
    rw [fresh]
    exact short
  obtain ⟨earlier, absent, result⟩ := forwards_of_delivers delivers settled shortFresh
  intro ran
  have ranEq : ran = _ := result
  rw [ranEq]
  refine ⟨⟨earlier, absent, rfl⟩, ?_⟩
  simp only [heard_append, heard_lineReports, heard_flush_taking worker.pid fresh]
  rw [fresh, wholeLines, List.map_append]
  rfl

end Worker

/-- A fresh worker's stream is read to its end without an error, and its lines are reported one by
one, the buffer getting the memory for every chunk. Another way to cut the same stream gives the
same events. -/
theorem lines_reassembled_however_cut {σ : Type} {kernel : Kernel σ} {worker : Worker}
    {calls : Nat} {state after : σ} {chunks : List Bytes} (fresh : worker.buffer = {})
    (delivers : Delivers kernel worker.diagnostics calls state chunks after)
    (short : ShortLined chunks.flatten) :
    let ran := worker.forwards kernel calls state
    let events := heard worker.pid (ran.reports ++ ran.worker.flush.1)
    (∃ earlier, ReadOutcome.endOfFile ∉ earlier ∧
      ran.outcomes = (earlier ++ [.endOfFile]).map .ok) ∧
    events =
      (wholeLines chunks.flatten).map (fun line => .line worker.pid (Utf8.decodeLossy line)) ∧
    ∀ {τ : Type} {other : Kernel τ} {twin : Worker} {times : Nat} {start last : τ}
      {pieces : List Bytes}, twin.pid = worker.pid → twin.buffer = {} →
      Delivers other twin.diagnostics times start pieces last →
      pieces.flatten = chunks.flatten →
      let again := twin.forwards other times start
      heard twin.pid (again.reports ++ again.worker.flush.1) = events := by
  intro ran events
  have first := Worker.heard_of_delivers fresh delivers short
  refine ⟨first.1, first.2, ?_⟩
  intro τ other twin times start last pieces samePid freshTwin deliversTwin same again
  have second := Worker.heard_of_delivers freshTwin deliversTwin (same ▸ short)
  rw [second.2, same, samePid]
  exact first.2.symm

/-- A newline at the end of a chunk, an empty line, and a letter of two bytes cut in the middle. -/
theorem cut_letter_reassembled :
    let worker : Worker := { pid := 70, diagnostics := 5 }
    let stage : Stage ReadScript :=
      { source :=
          { queue := [.ok [104, 105, 10], .error (.bare .wouldBlock), .ok [10, 195],
              .ok [164, 10, 98]] } }
    let ran := worker.forwards (.ofReader ReadScript.read) 5 stage
    heard 70 (ran.reports ++ ran.worker.flush.1) =
      [.line 70 "hi", .line 70 "", .line 70 "ä", .line 70 "b"] := by
  intro worker stage ran
  let chunks : List Bytes := [[104, 105, 10], [10, 195], [164, 10, 98]]
  have fresh : worker.buffer = {} := rfl
  have delivers : Delivers (.ofReader ReadScript.read) worker.diagnostics 5 stage chunks
      { source := { queue := [] } } :=
    .chunk rfl (List.cons_ne_nil _ _) (.waited rfl rfl (.chunk rfl (List.cons_ne_nil _ _)
      (.chunk rfl (List.cons_ne_nil _ _) (.ended rfl))))
  have short : ShortLined chunks.flatten := by
    intro stretch within _
    exact Nat.le_trans within.length_le (by decide)
  obtain ⟨_, events, _⟩ := lines_reassembled_however_cut fresh delivers short
  exact events.trans (by decide)

end Superserver
