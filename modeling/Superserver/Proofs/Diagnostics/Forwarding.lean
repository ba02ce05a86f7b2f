import Superserver.Listener.Basic
import Superserver.Proofs.Diagnostics.Lines
import Superserver.Worker

/-!
What one call does with the bytes of a worker. Main statement: the bytes of the lines it reports
and those it leaves in the buffer are the bytes that were in the buffer and those that it read.
-/

namespace Superserver

namespace Report

def source : Report → Bytes
  | .line piece => piece.source
  | _ => []

def aboutPipe : Report → Bool
  | .line _ | .pipeError | .forwardFailed _ | .pipeClosed | .drainStopped _ => true
  | .created _ | .exited _ | .lost _ => false

end Report

def sources (reports : List Report) : Bytes := reports.flatMap Report.source

@[simp] theorem sources_nil : sources [] = [] := rfl

@[simp] theorem sources_cons (report : Report) (reports : List Report) :
    sources (report :: reports) = report.source ++ sources reports := rfl

@[simp] theorem sources_append (first second : List Report) :
    sources (first ++ second) = sources first ++ sources second := List.flatMap_append

/-- A line that may be reported: no newline in it and not too long. -/
def Piece.Proper (piece : Piece) : Prop :=
  Piece.newline ∉ piece.bytes ∧ piece.bytes.length ≤ LineBuffer.maxLine

def ProperLines (reports : List Report) : Prop :=
  ∀ piece, .line piece ∈ reports → piece.Proper

theorem ProperLines.append {first second : List Report} (proper : ProperLines first)
    (others : ProperLines second) : ProperLines (first ++ second) := by
  intro piece member
  rcases List.mem_append.mp member with member | member
  · exact proper piece member
  · exact others piece member

namespace Worker

structure Alike (worker after : Worker) : Prop where
  pid : after.pid = worker.pid
  diagnostics : after.diagnostics = worker.diagnostics
  muted : after.muted = worker.muted

theorem Alike.refl (worker : Worker) : Alike worker worker := ⟨rfl, rfl, rfl⟩

theorem Alike.trans {first second third : Worker} (alike : Alike first second)
    (next : Alike second third) : Alike first third :=
  ⟨next.pid.trans alike.pid, next.diagnostics.trans alike.diagnostics,
    next.muted.trans alike.muted⟩

theorem Alike.eq {worker after : Worker} (alike : Alike worker after) :
    after = { worker with buffer := after.buffer } := by
  cases worker
  cases after
  obtain ⟨rfl, rfl, rfl⟩ := alike
  rfl

/-! ### Reading one chunk -/

def lineReports (lines : List Bytes) : List Report :=
  lines.map fun bytes => .line { bytes, terminated := true }

theorem sources_lineReports (lines : List Bytes) :
    sources (lineReports lines) = lines.flatMap (· ++ [Piece.newline]) := by
  induction lines with
  | nil => rfl
  | cons line lines ih =>
      rw [List.flatMap_cons, ← ih]
      rfl

section

variable {σ : Type} {kernel : Kernel σ} {worker : Worker} {state after : σ}

theorem forward_of_full (full : worker.buffer.isFull = true) :
    worker.forward kernel state =
      ({ outcome := .error (.lineTooLong LineBuffer.maxLine), worker, reports := [] }, state) := by
  simp [forward, LineBuffer.fill, full]

theorem forward_of_error {error : SystemError} (space : worker.buffer.isFull = false)
    (read : kernel.read worker.diagnostics LineBuffer.readChunk state = (.error error, after)) :
    worker.forward kernel state =
      ({ outcome := if isWait error then .ok .empty else .error (.read error), worker,
         reports := [] }, after) := by
  simp [forward, LineBuffer.fill, space, read]

def taking (worker : Worker) (chunk : Bytes) : Worker :=
  let waiting := LineBuffer.openLine (worker.buffer.bytes ++ chunk)
  { worker with buffer := { bytes := waiting, scanned := waiting.length } }

theorem forward_of_chunk {chunk : { chunk : Bytes // chunk.length ≤ LineBuffer.readChunk }}
    (settled : worker.buffer.Settled) (space : worker.buffer.isFull = false)
    (read : kernel.read worker.diagnostics LineBuffer.readChunk state = (.ok chunk, after)) :
    worker.forward kernel state =
      ({ outcome := .ok (if chunk.val.length = 0 then .endOfFile else .data),
         worker := worker.taking chunk.val,
         reports :=
           lineReports (LineBuffer.completeLines (worker.buffer.bytes ++ chunk.val)) }, after) := by
  have filled : worker.buffer.fill (kernel.read worker.diagnostics) state =
      (.ok chunk.val.length, worker.buffer.append chunk.val, after) := by
    simp [LineBuffer.fill, space, read]
  simp only [forward, filled, LineBuffer.lines_eq (settled.append chunk.val)]
  rfl

theorem forward_cases (kernel : Kernel σ) {worker : Worker} (settled : worker.buffer.Settled)
    (state : σ) :
    (worker.buffer.isFull = true ∧ worker.forward kernel state =
      ({ outcome := .error (.lineTooLong LineBuffer.maxLine), worker, reports := [] }, state)) ∨
    (∃ error after, worker.buffer.isFull = false ∧
      kernel.read worker.diagnostics LineBuffer.readChunk state = (.error error, after) ∧
      worker.forward kernel state =
        ({ outcome := if isWait error then .ok .empty else .error (.read error), worker,
           reports := [] }, after)) ∨
    (∃ chunk after, worker.buffer.isFull = false ∧
      kernel.read worker.diagnostics LineBuffer.readChunk state = (.ok chunk, after) ∧
      worker.forward kernel state =
        ({ outcome := .ok (if chunk.val.length = 0 then .endOfFile else .data),
           worker := worker.taking chunk.val,
           reports := lineReports
             (LineBuffer.completeLines (worker.buffer.bytes ++ chunk.val)) }, after)) := by
  cases space : worker.buffer.isFull with
  | true => exact Or.inl ⟨rfl, forward_of_full space⟩
  | false =>
      rcases read : kernel.read worker.diagnostics LineBuffer.readChunk state with ⟨result, after⟩
      cases result with
      | error error => exact Or.inr (Or.inl ⟨error, after, rfl, rfl, forward_of_error space read⟩)
      | ok chunk =>
          exact Or.inr (Or.inr ⟨chunk, after, rfl, rfl, forward_of_chunk settled space read⟩)

end

section

variable {σ : Type}

theorem alike_forward (kernel : Kernel σ) (worker : Worker) (state : σ) :
    Alike worker (worker.forward kernel state).1.worker := by
  unfold forward
  split <;> exact ⟨rfl, rfl, rfl⟩

theorem alike_flush (worker : Worker) : Alike worker worker.flush.2 := ⟨rfl, rfl, rfl⟩

theorem alike_attend (kernel : Kernel σ) (flags : PollFlags) (worker : Worker) (state : σ) :
    Alike worker (worker.attend kernel flags state).1.worker := by
  have forwarded := alike_forward kernel worker state
  unfold attend
  generalize worker.forward kernel state = result at forwarded ⊢
  obtain ⟨step, after⟩ := result
  split
  · exact Alike.refl worker
  · split
    · simp only
      split
      · exact forwarded
      · exact forwarded
      · exact forwarded
      · exact forwarded
      · exact forwarded.trans (alike_flush _)
    · exact Alike.refl worker

end

/-! ### What is reported -/

section

variable {σ : Type} (kernel : Kernel σ) (worker : Worker) (state : σ)

theorem aboutPipe_forward :
    ∀ report ∈ (worker.forward kernel state).1.reports, report.aboutPipe = true := by
  intro report member
  unfold forward at member
  split at member
  · cases member
  · cases member
  · obtain ⟨bytes, _, rfl⟩ := List.mem_map.mp member
    rfl

theorem aboutPipe_flush : ∀ report ∈ worker.flush.1, report.aboutPipe = true := by
  intro report member
  obtain ⟨bytes, _, rfl⟩ := List.mem_map.mp member
  rfl

theorem aboutPipe_attend (flags : PollFlags) :
    ∀ report ∈ (worker.attend kernel flags state).1.reports, report.aboutPipe = true := by
  have forwarded := aboutPipe_forward kernel worker state
  intro report member
  unfold attend at member
  generalize worker.forward kernel state = result at forwarded member
  obtain ⟨step, after⟩ := result
  simp only at forwarded member
  split at member
  · obtain rfl := List.mem_singleton.mp member
    rfl
  · split at member
    · split at member
      · exact forwarded report member
      · rcases List.mem_append.mp member with member | member
        · exact forwarded report member
        · obtain rfl := List.mem_singleton.mp member
          rfl
      · cases member
      · obtain rfl := List.mem_singleton.mp member
        rfl
      · rcases List.mem_cons.mp member with rfl | member
        · rfl
        · exact aboutPipe_flush _ report member
    · cases member

theorem aboutPipe_drainTurns (turns : Nat) :
    ∀ report ∈ (drainTurns kernel turns worker state).1, report.aboutPipe = true := by
  induction turns generalizing worker state with
  | zero =>
      intro report member
      cases member
  | succ turns ih =>
      have forwarded := aboutPipe_forward kernel worker state
      intro report member
      rw [drainTurns] at member
      generalize worker.forward kernel state = result at forwarded member
      obtain ⟨⟨outcome, middle, reports⟩, between⟩ := result
      simp only at forwarded member
      split at member
      · rcases List.mem_append.mp member with member | member
        · exact forwarded report member
        · exact ih middle between report member
      · exact forwarded report member
      · rcases List.mem_cons.mp member with rfl | member
        · rfl
        · rcases List.mem_append.mp member with member | member
          · exact aboutPipe_flush middle report member
          · exact ih _ between report member
      · obtain rfl := List.mem_singleton.mp member
        rfl

theorem aboutPipe_drain (turns : Nat) :
    ∀ report ∈ (worker.drain kernel turns state).1, report.aboutPipe = true := by
  intro report member
  rcases List.mem_append.mp member with member | member
  · exact aboutPipe_drainTurns kernel worker state turns report member
  · exact aboutPipe_flush _ report member

end

/-! ### The balance of bytes -/

/-- The worker reads bytes, reports some and keeps the others: nothing is lost, made up or moved. -/
structure Flow (worker after : Worker) (reports : List Report) (received : Bytes) : Prop where
  alike : Alike worker after
  settled : after.buffer.Settled
  proper : ProperLines reports
  aboutPipe : ∀ report ∈ reports, report.aboutPipe = true
  balance : sources reports ++ after.buffer.bytes = worker.buffer.bytes ++ received

namespace Flow

variable {worker middle after : Worker} {first second : List Report}
  {earlier later : Bytes}

theorem refl (settled : worker.buffer.Settled) : Flow worker worker [] [] where
  alike := Alike.refl worker
  settled := settled
  proper := by simp [ProperLines]
  aboutPipe := by simp
  balance := by simp

theorem trans (flow : Flow worker middle first earlier) (next : Flow middle after second later) :
    Flow worker after (first ++ second) (earlier ++ later) where
  alike := flow.alike.trans next.alike
  settled := next.settled
  proper := flow.proper.append next.proper
  aboutPipe := by
    intro report member
    rcases List.mem_append.mp member with member | member
    · exact flow.aboutPipe report member
    · exact next.aboutPipe report member
  balance := by
    rw [sources_append, List.append_assoc, next.balance, ← List.append_assoc, flow.balance,
      List.append_assoc]

theorem mention {report : Report} (settled : worker.buffer.Settled)
    (aboutPipe : report.aboutPipe = true) (silent : ∀ piece, report ≠ .line piece) :
    Flow worker worker [report] [] where
  alike := Alike.refl worker
  settled := settled
  proper := by
    intro piece member
    exact absurd (List.mem_singleton.mp member).symm (silent piece)
  aboutPipe := by simpa using aboutPipe
  balance := by
    cases report with
    | line piece => exact absurd rfl (silent piece)
    | _ => simp [Report.source]

end Flow

theorem lt_maxLine_of_not_full {worker : Worker} (space : worker.buffer.isFull = false) :
    worker.buffer.bytes.length + LineBuffer.readChunk ≤ LineBuffer.maxLine := by
  have small := of_decide_eq_false space
  simp only [LineBuffer.length, LineBuffer.maxLine, LineBuffer.readChunk] at small ⊢
  omega

theorem taking_flow {worker : Worker} {chunk : Bytes} (space : worker.buffer.isFull = false)
    (short : chunk.length ≤ LineBuffer.readChunk) :
    Flow worker (worker.taking chunk)
      (lineReports (LineBuffer.completeLines (worker.buffer.bytes ++ chunk))) chunk := by
  have room := lt_maxLine_of_not_full space
  have whole : (worker.buffer.bytes ++ chunk).length ≤ LineBuffer.maxLine := by
    rw [List.length_append]
    omega
  constructor
  · exact ⟨rfl, rfl, rfl⟩
  · refine ⟨Nat.le_refl _, LineBuffer.newline_not_mem_openLine _, ?_⟩
    exact Nat.le_trans (LineBuffer.length_openLine_le _) whole
  · intro piece member
    simp only [lineReports, List.mem_map, Report.line.injEq] at member
    obtain ⟨line, member, rfl⟩ := member
    refine ⟨LineBuffer.newline_not_mem_of_mem_completeLines member, ?_⟩
    exact Nat.le_trans (Nat.le_of_lt (LineBuffer.length_of_mem_completeLines member)) whole
  · intro report member
    simp only [lineReports, List.mem_map] at member
    obtain ⟨line, _, rfl⟩ := member
    rfl
  · rw [sources_lineReports]
    exact LineBuffer.completeLines_append_openLine _

theorem buffer_flush (worker : Worker) : worker.flush.2.buffer.bytes = [] := by
  simp only [flush, LineBuffer.takeRemainder]
  split
  · rename_i empty
    exact List.isEmpty_iff.mp empty
  · rfl

theorem flush_flow {worker : Worker} (settled : worker.buffer.Settled) :
    Flow worker worker.flush.2 worker.flush.1 [] := by
  by_cases empty : worker.buffer.bytes.isEmpty
  · simpa [flush, LineBuffer.takeRemainder, empty] using Flow.refl settled
  · have flushed : worker.flush = ([.line { bytes := worker.buffer.bytes, terminated := false }],
        { worker with buffer := {} }) := by
      simp [flush, LineBuffer.takeRemainder, empty]
    rw [flushed]
    constructor
    · exact ⟨rfl, rfl, rfl⟩
    · exact LineBuffer.settled_empty
    · intro piece member
      simp only [List.mem_singleton, Report.line.injEq] at member
      subst member
      exact ⟨settled.unended, settled.fits⟩
    · simp [Report.aboutPipe]
    · simp [Report.source, Piece.source]

/-! ### The balance of a run -/

/-- Chunk after chunk is read from a descriptor; the bytes of the chunks, and where that ends. -/
inductive Reads (kernel : Kernel σ) (descriptor : Descriptor) (state : σ) : Bytes → σ → Prop where
  | none : Reads kernel descriptor state [] state
  | failed {bytes : Bytes} {middle after : σ} {error : SystemError} :
      Reads kernel descriptor state bytes middle →
        kernel.read descriptor LineBuffer.readChunk middle = (.error error, after) →
        Reads kernel descriptor state bytes after
  | chunk {bytes : Bytes} {middle after : σ}
      {chunk : { chunk : Bytes // chunk.length ≤ LineBuffer.readChunk }} :
      Reads kernel descriptor state bytes middle →
        kernel.read descriptor LineBuffer.readChunk middle = (.ok chunk, after) →
        Reads kernel descriptor state (bytes ++ chunk.val) after

theorem Reads.trans {kernel : Kernel σ} {descriptor : Descriptor} {state middle after : σ}
    {earlier later : Bytes} (reads : Reads kernel descriptor state earlier middle)
    (next : Reads kernel descriptor middle later after) :
    Reads kernel descriptor state (earlier ++ later) after := by
  induction next with
  | none => simpa using reads
  | failed _ read ih => exact ih.failed read
  | chunk _ read ih =>
      rw [← List.append_assoc]
      exact ih.chunk read

def Moves (kernel : Kernel σ) (worker : Worker) (state : σ) (after : Worker)
    (reports : List Report) (last : σ) : Prop :=
  ∃ received, Reads kernel worker.diagnostics state received last ∧
    Flow worker after reports received

theorem Flow.moves {worker after : Worker} {reports : List Report}
    (flow : Flow worker after reports []) (kernel : Kernel σ) (state : σ) :
    Moves kernel worker state after reports state :=
  ⟨[], Reads.none, flow⟩

theorem Moves.trans {kernel : Kernel σ} {worker middle after : Worker} {state between last : σ}
    {first second : List Report} (moves : Moves kernel worker state middle first between)
    (next : Moves kernel middle between after second last) :
    Moves kernel worker state after (first ++ second) last := by
  obtain ⟨earlier, reads, flow⟩ := moves
  obtain ⟨later, readsNext, flowNext⟩ := next
  rw [flow.alike.diagnostics] at readsNext
  exact ⟨earlier ++ later, reads.trans readsNext, flow.trans flowNext⟩

theorem Moves.settled {kernel : Kernel σ} {worker after : Worker} {state last : σ}
    {reports : List Report} (moves : Moves kernel worker state after reports last) :
    after.buffer.Settled := by
  obtain ⟨received, _, flow⟩ := moves
  exact flow.settled

theorem Moves.mention {kernel : Kernel σ} {worker after : Worker} {state last : σ}
    {reports : List Report} {report : Report}
    (moves : Moves kernel worker state after reports last) (aboutPipe : report.aboutPipe = true)
    (silent : ∀ piece, report ≠ .line piece) :
    Moves kernel worker state after (reports ++ [report]) last :=
  moves.trans ((Flow.mention moves.settled aboutPipe silent).moves kernel last)

section

variable {σ : Type} (kernel : Kernel σ) {worker : Worker}

theorem forward_moves (settled : worker.buffer.Settled) (state : σ) :
    Moves kernel worker state (worker.forward kernel state).1.worker
      (worker.forward kernel state).1.reports (worker.forward kernel state).2 := by
  rcases forward_cases kernel settled state with ⟨_, result⟩ | ⟨error, after, _, read, result⟩ |
    ⟨chunk, after, space, read, result⟩
  · rw [result]
    exact (Flow.refl settled).moves kernel state
  · rw [result]
    exact ⟨[], Reads.none.failed read, Flow.refl settled⟩
  · rw [result]
    exact ⟨[] ++ chunk.val, Reads.none.chunk read, taking_flow space chunk.property⟩

theorem reports_of_forward (settled : worker.buffer.Settled) (state : σ)
    (noData : (worker.forward kernel state).1.outcome ≠ .ok .data)
    (noEnd : (worker.forward kernel state).1.outcome ≠ .ok .endOfFile) :
    (worker.forward kernel state).1.reports = [] := by
  rcases forward_cases kernel settled state with ⟨_, result⟩ | ⟨_, after, _, read, result⟩ |
    ⟨chunk, after, space, read, result⟩
  · rw [result]
  · rw [result]
  · rw [result] at noData noEnd
    by_cases empty : chunk.val.length = 0 <;> simp [empty] at noData noEnd

theorem drainTurns_moves (turns : Nat) (settled : worker.buffer.Settled) (state : σ) :
    Moves kernel worker state (drainTurns kernel turns worker state).2.1
      (drainTurns kernel turns worker state).1 (drainTurns kernel turns worker state).2.2 := by
  induction turns generalizing worker state with
  | zero => exact (Flow.refl settled).moves kernel state
  | succ turns ih =>
      have moves := forward_moves kernel settled state
      have silent := reports_of_forward kernel settled state
      rw [drainTurns]
      generalize worker.forward kernel state = result at moves silent ⊢
      obtain ⟨⟨outcome, middle, reports⟩, between⟩ := result
      have settledMiddle := moves.settled
      cases outcome with
      | ok outcome =>
          cases outcome with
          | data => exact moves.trans (ih settledMiddle between)
          | endOfFile => exact moves
          | empty => exact moves
      | error error =>
          obtain rfl : reports = [] := silent (by simp) (by simp)
          cases error with
          | read error => exact moves.mention rfl (by simp)
          | outOfMemory => exact moves.mention rfl (by simp)
          | lineTooLong limit =>
              have flushed := flush_flow settledMiddle
              have rest := (flushed.moves kernel between).trans (ih flushed.settled between)
              have told : Moves kernel worker state middle
                  [.forwardFailed (.lineTooLong limit)] between := moves.mention rfl (by simp)
              exact told.trans rest

theorem drain_moves (turns : Nat) (settled : worker.buffer.Settled) (state : σ) :
    Moves kernel worker state (worker.drain kernel turns state).2.1
      (worker.drain kernel turns state).1 (worker.drain kernel turns state).2.2 := by
  have moves := drainTurns_moves kernel turns settled state
  unfold drain
  generalize drainTurns kernel turns worker state = result at moves ⊢
  obtain ⟨reports, middle, between⟩ := result
  exact moves.trans ((flush_flow moves.settled).moves kernel between)

theorem buffer_drain (turns : Nat) (worker : Worker) (state : σ) :
    (worker.drain kernel turns state).2.1.buffer.bytes = [] := buffer_flush _

theorem attend_moves (flags : PollFlags) (settled : worker.buffer.Settled) (state : σ) :
    Moves kernel worker state (worker.attend kernel flags state).1.worker
      (worker.attend kernel flags state).1.reports (worker.attend kernel flags state).2 := by
  have still := (Flow.refl settled).moves kernel state
  have moves := forward_moves kernel settled state
  have silent := reports_of_forward kernel settled state
  unfold attend
  generalize worker.forward kernel state = result at moves silent ⊢
  obtain ⟨⟨outcome, middle, reports⟩, between⟩ := result
  split
  · exact still.mention rfl (by simp)
  · split
    · cases outcome with
      | ok outcome =>
          cases outcome with
          | data => exact moves
          | endOfFile => exact moves.mention rfl (by simp)
          | empty =>
              obtain rfl : reports = [] := silent (by simp) (by simp)
              exact moves
      | error error =>
          obtain rfl : reports = [] := silent (by simp) (by simp)
          have flushed := (flush_flow moves.settled).moves kernel between
          cases error with
          | read error => exact moves.mention rfl (by simp)
          | lineTooLong limit => exact (moves.mention rfl (by simp)).trans flushed
          | outOfMemory => exact (moves.mention rfl (by simp)).trans flushed
    · exact still

end

end Worker

/-! ### A small system -/

/-- A system with few clients, the processes of which do nothing but write and end. -/
structure Stage (σ : Type) where
  source : σ
  running : Nat := 0
  clients : Nat := 0
  started : Nat := 0

def Kernel.ofReader (reader : Reader σ) : Kernel (Stage σ) where
  wait _ stage :=
    if stage.running = 0 then (.ok (some 0), stage)
    else (.ok none, { stage with running := stage.running - 1 })
  read _ count stage :=
    ((reader count stage.source).1, { stage with source := (reader count stage.source).2 })
  poll slots _ stage := (.ok (slots.map fun _ => PollFlags.readable), stage)
  accept _ stage :=
    if stage.clients = 0 then (.error (.bare .wouldBlock), stage)
    else (.ok (4, RawAddress.ofParts Family.unix [] 2),
      { stage with clients := stage.clients - 1 })
  nonblocking _ stage := (.ok false, stage)
  changeNonblocking _ _ stage := (.ok (), stage)
  pipe stage := (.ok (5 + 2 * stage.started, 6 + 2 * stage.started), stage)
  duplicate _ stage := (.ok 3, stage)
  spawn _ stage := (.ok (70 + stage.started), { stage with started := stage.started + 1 })
  allocate _ stage := (.ok (), stage)
  close _ stage := stage

def Supervisor.smallListener : Listener :=
  { descriptor := 3, address := .unix [115], socketPath := none }

end Superserver
