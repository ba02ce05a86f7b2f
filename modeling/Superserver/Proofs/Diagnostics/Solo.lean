import Superserver.Proofs.Diagnostics.Forwarding

/-!
One worker alone: a machine of a buffer and a flag that hears how waiting for its process went, what
a poll found for its pipe and what reads of the pipe gave. Main statement: with the answers that the
system gives about a worker, the machine reports what supervision reports of it.
-/

namespace Superserver

inductive Impulse where
  | waited (answer : Except SystemError (Option Int))
  | found (flags : PollFlags)
  | read (answer : Except SystemError Bytes)
deriving DecidableEq

namespace Solo

inductive Phase where
  | serving
  | reading
  /-- The process has ended: this read is made and that many more may be. -/
  | draining (turns : Nat) (status : Int)
  | gone

end Solo

structure Solo where
  waiting : Bytes := []
  muted : Bool := false
  phase : Solo.Phase := .serving

namespace Solo

open LineBuffer Worker

def isFull (waiting : Bytes) : Bool := maxLine - readChunk < waiting.length

def rest (waiting : Bytes) : List Report :=
  if waiting.isEmpty then [] else [.line { bytes := waiting, terminated := false }]

def overrun (waiting : Bytes) : List Report :=
  .forwardFailed (.lineTooLong maxLine) :: rest waiting

def leave (status : Int) (waiting : Bytes) : List Report × Solo :=
  (rest waiting ++ [.exited status], { phase := .gone })

def drain (status : Int) : (turns : Nat) → Bytes → List Report × Solo
  | 0, waiting => leave status waiting
  | turns + 1, waiting =>
      if isFull waiting then
        let (reports, next) := drain status turns []
        (overrun waiting ++ reports, next)
      else ([], { waiting, phase := .draining turns status })

def wait (solo : Solo) : Except SystemError (Option Int) → List Report × Solo
  | .ok none => ([], solo)
  | .ok (some status) => drain status drainReads solo.waiting
  | .error error => ([.lost error], { phase := .gone })

def find (solo : Solo) (flags : PollFlags) : List Report × Solo :=
  if solo.muted then ([], solo)
  else if flags.meets (PollFlags.failed ||| PollFlags.invalid) then
    ([.pipeError], { solo with muted := true })
  else if flags.meets (PollFlags.readable ||| PollFlags.hangUp) then
    if isFull solo.waiting then (overrun solo.waiting, { solo with waiting := [] })
    else ([], { solo with phase := .reading })
  else ([], solo)

def completed (waiting chunk : Bytes) : List Report :=
  lineReports (completeLines (waiting ++ chunk))

def take (solo : Solo) : Except SystemError Bytes → List Report × Solo
  | .error error =>
      if isWait error then ([], { solo with phase := .serving })
      else ([.forwardFailed (.read error)], { solo with muted := true, phase := .serving })
  | .ok chunk =>
      (completed solo.waiting chunk ++ if chunk.isEmpty then [.pipeClosed] else [],
        { waiting := openLine (solo.waiting ++ chunk), muted := chunk.isEmpty })

def takeLast (status : Int) (turns : Nat) (waiting : Bytes) :
    Except SystemError Bytes → List Report × Solo
  | .error error =>
      let (reports, next) := leave status waiting
      ((if isWait error then [] else [.drainStopped (.read error)]) ++ reports, next)
  | .ok chunk =>
      let (reports, next) :=
        if chunk.isEmpty then leave status (openLine (waiting ++ chunk))
        else drain status turns (openLine (waiting ++ chunk))
      (completed waiting chunk ++ reports, next)

/-- What the machine does when it hears something; in another phase it passes over it. -/
def step (solo : Solo) (impulse : Impulse) : List Report × Solo :=
  match solo.phase, impulse with
  | .serving, .waited answer => solo.wait answer
  | .serving, .found flags => solo.find flags
  | .reading, .read answer => solo.take answer
  | .draining turns status, .read answer => takeLast status turns solo.waiting answer
  | _, _ => ([], solo)

def advance (begun : List Report × Solo) (impulse : Impulse) : List Report × Solo :=
  (begun.1 ++ (begun.2.step impulse).1, (begun.2.step impulse).2)

def resume (begun : List Report × Solo) (impulses : List Impulse) : List Report × Solo :=
  impulses.foldl advance begun

def run (impulses : List Impulse) : List Report × Solo := resume ([], {}) impulses

theorem resume_cons (begun : List Report × Solo) (impulse : Impulse) (impulses : List Impulse) :
    resume begun (impulse :: impulses) = resume (advance begun impulse) impulses := rfl

theorem run_append (first second : List Impulse) :
    run (first ++ second) = resume (run first) second := List.foldl_append

def ofWorker (worker : Worker) : Solo :=
  { waiting := worker.buffer.bytes, muted := worker.muted }

end Solo

/-! ### The answers of the system -/

inductive Answers (kernel : Kernel σ) (descriptor : Descriptor) :
    σ → List (Except SystemError Bytes) → σ → Prop where
  | none {state : σ} : Answers kernel descriptor state [] state
  | read {state middle after : σ} {answers : List (Except SystemError Bytes)}
      {answer : Except SystemError { chunk : Bytes // chunk.length ≤ LineBuffer.readChunk }} :
      kernel.read descriptor LineBuffer.readChunk state = (answer, middle) →
        Answers kernel descriptor middle answers after →
        Answers kernel descriptor state (answer.map (·.val) :: answers) after

namespace Worker

open Solo

section

variable {σ : Type} (kernel : Kernel σ) {worker : Worker}

theorem flush_eq_rest (worker : Worker) : worker.flush.1 = rest worker.buffer.bytes := by
  simp only [flush, LineBuffer.takeRemainder, rest]
  split <;> rfl

theorem ofWorker_flush (worker : Worker) :
    ofWorker worker.flush.2 = { ofWorker worker with waiting := [] } := by
  simp only [ofWorker, buffer_flush, (alike_flush worker).muted]

/-- Draining reports what the machine reports from the answers that it gets. -/
theorem drain_solo (turns : Nat) (settled : worker.buffer.Settled) (state : σ) (status : Int) :
    ∃ answers,
      Answers kernel worker.diagnostics state answers (worker.drain kernel turns state).2.2 ∧
      ∀ earlier, resume (earlier ++ (Solo.drain status turns worker.buffer.bytes).1,
          (Solo.drain status turns worker.buffer.bytes).2) (answers.map .read) =
        (earlier ++ ((worker.drain kernel turns state).1 ++ [.exited status]),
          { phase := .gone }) := by
  induction turns generalizing worker state with
  | zero =>
      refine ⟨[], .none, fun earlier => ?_⟩
      simp [Solo.drain, leave, resume, Worker.drain, drainTurns, flush_eq_rest]
  | succ turns ih =>
      rcases forward_cases kernel settled state with ⟨full, result⟩ |
        ⟨error, after, space, read, result⟩ | ⟨chunk, after, space, read, result⟩
      · -- A full buffer costs a turn in which nothing is read.
        have drained : worker.drain kernel (turns + 1) state =
            (overrun worker.buffer.bytes ++ (worker.flush.2.drain kernel turns state).1,
              (worker.flush.2.drain kernel turns state).2) := by
          simp [Worker.drain, drainTurns, result, overrun, flush_eq_rest]
        obtain ⟨answers, read, reports⟩ := ih (flush_flow settled).settled state
        rw [buffer_flush] at reports
        refine ⟨answers, by rw [drained]; exact read, fun earlier => ?_⟩
        have full : Solo.isFull worker.buffer.bytes = true := full
        have rest := reports (earlier ++ overrun worker.buffer.bytes)
        simp only [Solo.drain, full, if_true, drained]
        simpa only [List.append_assoc] using rest
      · have drained : worker.drain kernel (turns + 1) state =
            ((if isWait error then [] else [.drainStopped (.read error)]) ++
              rest worker.buffer.bytes, worker.flush.2, after) := by
          by_cases wait : isWait error <;>
            simp [Worker.drain, drainTurns, result, wait, flush_eq_rest]
        refine ⟨[.error error], ?_, fun earlier => ?_⟩
        · rw [drained]
          exact .read read .none
        · have space : Solo.isFull worker.buffer.bytes = false := space
          simp [Solo.drain, space, resume, advance, step, takeLast, leave, drained]
      · have settledNext := (taking_flow space chunk.property).settled
        have space : Solo.isFull worker.buffer.bytes = false := space
        by_cases empty : chunk.val = []
        · have drained : worker.drain kernel (turns + 1) state =
              (completed worker.buffer.bytes chunk.val ++
                rest (LineBuffer.openLine (worker.buffer.bytes ++ chunk.val)),
                (worker.taking chunk.val).flush.2, after) := by
            simp [Worker.drain, drainTurns, result, empty, flush_eq_rest, completed, taking]
          refine ⟨[.ok chunk.val], ?_, fun earlier => ?_⟩
          · rw [drained]
            exact .read read .none
          · simp [Solo.drain, space, resume, advance, step, takeLast, leave, drained, empty]
        · have drained : worker.drain kernel (turns + 1) state =
              (completed worker.buffer.bytes chunk.val ++
                ((worker.taking chunk.val).drain kernel turns after).1,
                ((worker.taking chunk.val).drain kernel turns after).2) := by
            simp [Worker.drain, drainTurns, result, empty, completed]
          obtain ⟨answers, reads, reports⟩ := ih settledNext after
          have next : (worker.taking chunk.val).buffer.bytes =
              LineBuffer.openLine (worker.buffer.bytes ++ chunk.val) := rfl
          rw [next] at reports
          refine ⟨.ok chunk.val :: answers, ?_, fun earlier => ?_⟩
          · rw [drained]
            exact .read read reads
          · have rest := reports (earlier ++ completed worker.buffer.bytes chunk.val)
            simp only [Solo.drain, space, Bool.false_eq_true, if_false, List.map_cons, resume_cons,
              advance, step, takeLast, List.isEmpty_iff, empty, drained, List.append_nil]
            simpa only [List.append_assoc] using rest

def leftBy (attended : Attended) : Worker :=
  if attended.ended then attended.worker.mute else attended.worker

theorem attend_solo_of_ready (settled : worker.buffer.Settled) (heeds : worker.muted = false)
    {flags : PollFlags} (sound : flags.meets (PollFlags.failed ||| PollFlags.invalid) = false)
    (ready : flags.meets (PollFlags.readable ||| PollFlags.hangUp) = true) (state : σ) :
    (leftBy (worker.attend kernel flags state).1).buffer.Settled ∧ ∃ answers,
      Answers kernel worker.diagnostics state answers (worker.attend kernel flags state).2 ∧
      ∀ earlier, resume (earlier, ofWorker worker) (.found flags :: answers.map .read) =
        (earlier ++ (worker.attend kernel flags state).1.reports,
          ofWorker (leftBy (worker.attend kernel flags state).1)) := by
  have found : ∀ earlier, advance (earlier, ofWorker worker) (.found flags) =
      if Solo.isFull worker.buffer.bytes then
        (earlier ++ overrun worker.buffer.bytes, { ofWorker worker with waiting := [] })
      else (earlier, { ofWorker worker with phase := .reading }) := by
    intro earlier
    by_cases full : Solo.isFull worker.buffer.bytes <;>
      simp [advance, step, find, ofWorker, heeds, sound, ready, full]
  rcases forward_cases kernel settled state with ⟨full, result⟩ |
    ⟨error, after, space, read, result⟩ | ⟨chunk, after, space, read, result⟩
  · have attended : worker.attend kernel flags state =
        ({ worker := worker.flush.2, reports := overrun worker.buffer.bytes, active := true },
          state) := by
      simp [attend, sound, ready, result, overrun, flush_eq_rest]
    have full : Solo.isFull worker.buffer.bytes = true := full
    rw [attended]
    refine ⟨(flush_flow settled).settled, [], .none, fun earlier => ?_⟩
    rw [List.map_nil, resume_cons, found, if_pos full]
    simp [resume, leftBy, ofWorker_flush]
  · have attended : worker.attend kernel flags state =
        (if isWait error then { worker }
        else { worker, reports := [.forwardFailed (.read error)], ended := true }, after) := by
      by_cases wait : isWait error <;> simp [attend, sound, ready, result, wait]
    have space : ¬Solo.isFull worker.buffer.bytes = true := Bool.eq_false_iff.mp space
    rw [attended]
    refine ⟨?_, [.error error], .read read .none, fun earlier => ?_⟩
    · split <;> exact settled
    · rw [List.map_singleton, resume_cons, found, if_neg space]
      by_cases wait : isWait error <;>
        simp [resume, advance, step, take, ofWorker, leftBy, wait, mute]
  · have attended : worker.attend kernel flags state =
        ({ worker := worker.taking chunk.val
           reports := completed worker.buffer.bytes chunk.val ++
             if chunk.val.isEmpty then [.pipeClosed] else []
           active := true
           ended := chunk.val.isEmpty }, after) := by
      by_cases empty : chunk.val = [] <;>
        simp [attend, sound, ready, result, completed, empty]
    have settledNext := (taking_flow space chunk.property).settled
    have space : ¬Solo.isFull worker.buffer.bytes = true := Bool.eq_false_iff.mp space
    rw [attended]
    refine ⟨?_, [.ok chunk.val], .read read .none, fun earlier => ?_⟩
    · unfold leftBy
      split <;> exact settledNext
    · rw [List.map_singleton, resume_cons, found, if_neg space]
      by_cases empty : chunk.val = [] <;>
        simp [resume, advance, step, take, ofWorker, leftBy, taking, heeds, mute, empty]

/-- Attention to a worker reports what the machine reports from what was found and from the answer
that attention gets. -/
theorem attend_solo (settled : worker.buffer.Settled) (heeds : worker.muted = false)
    (flags : PollFlags) (state : σ) :
    (leftBy (worker.attend kernel flags state).1).buffer.Settled ∧ ∃ answers,
      Answers kernel worker.diagnostics state answers (worker.attend kernel flags state).2 ∧
      ∀ earlier, resume (earlier, ofWorker worker) (.found flags :: answers.map .read) =
        (earlier ++ (worker.attend kernel flags state).1.reports,
          ofWorker (leftBy (worker.attend kernel flags state).1)) := by
  cases sound : flags.meets (PollFlags.failed ||| PollFlags.invalid) with
  | true =>
      have attended : worker.attend kernel flags state =
          ({ worker, reports := [.pipeError], ended := true }, state) := by
        rw [attend, if_pos sound]
      rw [attended]
      refine ⟨settled, [], .none, fun earlier => ?_⟩
      simp [resume, advance, step, find, ofWorker, leftBy, heeds, sound, mute]
  | false =>
      cases ready : flags.meets (PollFlags.readable ||| PollFlags.hangUp) with
      | true => exact attend_solo_of_ready kernel settled heeds sound ready state
      | false =>
          have attended : worker.attend kernel flags state = ({ worker }, state) := by
            simp [attend, sound, ready]
          rw [attended]
          refine ⟨settled, [], .none, fun earlier => ?_⟩
          simp [resume, advance, step, find, ofWorker, leftBy, heeds, sound, ready]

end

end Worker

end Superserver
