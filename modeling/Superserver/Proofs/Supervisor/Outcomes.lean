import Superserver.Proofs.Supervisor.Atomicity
import Superserver.Proofs.Supervisor.Waiting

/-!
What the outcome of a pass says. Main statement: after an idle pass the workers are those of before,
nothing was read from any pipe and nothing but errors of pipes was told; in an active pass a worker
left or came, or a pipe gave bytes, came to its end or held a line that had grown too long.
-/

namespace Superserver

/-- The worker as it was before it was muted, if it was. -/
def Worker.unmuted (worker : Worker) : Worker := { worker with muted := false }

/-- A notice that an idle pass may give: a pipe is in error, a read that was made failed, or no
connection could be accepted after all. -/
def Notice.IsMild (calls : List Call) : Notice → Prop
  | .worker _ report =>
      report = .pipeError ∨
        ∃ descriptor error, .read descriptor (.error error) ∈ calls ∧
          report = .forwardFailed (.read error)
  | .tableGrew .. => False
  | .acceptIgnored _ => True

theorem Notice.IsMild.mono {calls others : List Call} {notice : Notice}
    (mild : notice.IsMild calls) (all : calls ⊆ others) : notice.IsMild others := by
  cases notice with
  | worker pid report =>
      rcases mild with rfl | ⟨descriptor, error, member, rfl⟩
      · exact .inl rfl
      · exact .inr ⟨descriptor, error, all member, rfl⟩
  | tableGrew => exact mild
  | acceptIgnored => trivial

namespace Supervisor

open Kernel ProcessTable

structure Lull (calls : List Call) (told : List Notice) : Prop where
  undelivered : ∀ descriptor bytes, .read descriptor (.ok bytes) ∉ calls
  mild : ∀ notice ∈ told, notice.IsMild calls

def Delivers (calls : List Call) : Prop := ∃ descriptor bytes, .read descriptor (.ok bytes) ∈ calls

/-- A worker's buffer was refused another chunk, and its bytes were told as they were. -/
def Overflows (told : List Notice) : Prop :=
  ∃ pid piece, .worker pid (.forwardFailed (.lineTooLong LineBuffer.maxLine)) ∈ told ∧
    .worker pid (.line piece) ∈ told ∧ piece.terminated = false ∧
    LineBuffer.maxLine - LineBuffer.readChunk < piece.bytes.length

/-- A process was started, told of and entered. -/
def Admits (calls : List Call) (next : Ticked σ) : Prop :=
  ∃ worker ∈ next.supervisor.table.workers, worker.pid ∈ startedIn calls ∧
    worker.pid ∈ createdIn next.notices

theorem Lull.append {calls others : List Call} {told later : List Notice} (lull : Lull calls told)
    (next : Lull others later) : Lull (calls ++ others) (told ++ later) where
  undelivered := by
    intro descriptor bytes member
    rcases List.mem_append.mp member with member | member
    · exact lull.undelivered descriptor bytes member
    · exact next.undelivered descriptor bytes member
  mild := by
    intro notice member
    rcases List.mem_append.mp member with member | member
    · exact (lull.mild notice member).mono (List.subset_append_left ..)
    · exact (next.mild notice member).mono (List.subset_append_right ..)

theorem Lull.not_delivers {calls : List Call} {told : List Notice} (lull : Lull calls told) :
    ¬Delivers calls := by
  rintro ⟨descriptor, bytes, member⟩
  exact lull.undelivered descriptor bytes member

theorem Lull.not_overflows {calls : List Call} {told : List Notice} (lull : Lull calls told) :
    ¬Overflows told := by
  rintro ⟨pid, piece, failed, _⟩
  rcases lull.mild _ failed with same | ⟨descriptor, error, _, same⟩
  · cases same
  · cases same

theorem Lull.events {calls : List Call} {told : List Notice} (lull : Lull calls told) :
    ∀ event ∈ told.filterMap Notice.event?,
      event = .pipeError event.pid ∨
        ∃ descriptor error, .read descriptor (.error error) ∈ calls ∧
          event = .forwardFailed event.pid (ForwardError.read error).message := by
  intro event member
  obtain ⟨notice, listed, said⟩ := List.mem_filterMap.mp member
  have mild := lull.mild notice listed
  cases notice with
  | worker pid report =>
      rcases mild with rfl | ⟨descriptor, error, read, rfl⟩
      · cases said
        exact .inl rfl
      · cases said
        exact .inr ⟨descriptor, error, read, rfl⟩
  | tableGrew => cases said
  | acceptIgnored => cases said

/-- Calls that are no reads do not disturb. -/
theorem lull_of_silent {calls : List Call} (unread : ∀ descriptor answer,
    .read descriptor answer ∉ calls) : Lull calls [] :=
  ⟨fun descriptor bytes => unread descriptor (.ok bytes), by simp⟩

theorem unread_of_setup {calls : List Call} (setup : calls.all Call.isSetup = true)
    (descriptor : Descriptor) (answer : Except SystemError Bytes) :
    .read descriptor answer ∉ calls := by
  intro member
  cases List.all_eq_true.mp setup _ member

theorem Delivers.mono {calls others : List Call} (delivers : Delivers calls)
    (all : calls ⊆ others) : Delivers others := by
  obtain ⟨descriptor, bytes, member⟩ := delivers
  exact ⟨descriptor, bytes, all member⟩

theorem Overflows.mono {told others : List Notice} (overflows : Overflows told)
    (all : told ⊆ others) : Overflows others := by
  obtain ⟨pid, piece, failed, line, unended, long⟩ := overflows
  exact ⟨pid, piece, all failed, all line, unended, long⟩

section

variable {σ : Type} (kernel : Kernel σ)

/-! ### One worker -/

/-- A full buffer is not read into, a read that fails leaves the worker as it was, and any other
read gave bytes or an end. -/
theorem forward_tells (worker : Worker) (before : σ × List Call) :
    (worker.buffer.isFull = true ∧ worker.forward kernel.transcribing before =
      ({ outcome := .error (.lineTooLong LineBuffer.maxLine), worker, reports := [] }, before)) ∨
    (∃ error after, after.2 = before.2 ++ [.read worker.diagnostics (.error error)] ∧
      worker.forward kernel.transcribing before =
        ({ outcome := if Worker.isWait error then .ok .empty else .error (.read error), worker,
           reports := [] }, after)) ∨
    ∃ step after bytes, after.2 = before.2 ++ [.read worker.diagnostics (.ok bytes)] ∧
      worker.forward kernel.transcribing before = (step, after) ∧
      (step.outcome = .ok .data ∨ step.outcome = .ok .endOfFile) := by
  cases space : worker.buffer.isFull with
  | true => exact .inl ⟨rfl, Worker.forward_of_full space⟩
  | false =>
      right
      rcases read : kernel.transcribing.read worker.diagnostics LineBuffer.readChunk before
        with ⟨result, after⟩
      have called : after.2 =
          before.2 ++ [.read worker.diagnostics (result.map (·.val))] := by
        cases read
        rfl
      cases result with
      | error error => exact .inl ⟨error, after, called, Worker.forward_of_error space read⟩
      | ok chunk =>
          have filled : worker.buffer.fill (kernel.transcribing.read worker.diagnostics) before =
              (.ok chunk.val.length, worker.buffer.append chunk.val, after) := by
            simp [LineBuffer.fill, space, read]
          right
          rw [Worker.forward, filled]
          refine ⟨_, after, chunk.val, called, rfl, ?_⟩
          by_cases empty : chunk.val.length = 0
          · exact .inr (by simp [empty])
          · exact .inl (by simp [empty])

/-- A pipe that is said to be readable: what was read of it counts, and so does a line that has
grown too long, but not a read that fails. -/
theorem attend_ready_tells {flags : PollFlags} {worker : Worker} (before : σ × List Call)
    (sound : flags.meets (PollFlags.failed ||| PollFlags.invalid) = false)
    (ready : flags.meets (PollFlags.readable ||| PollFlags.hangUp) = true) :
    let result := worker.attend kernel.transcribing flags before
    let told := result.1.reports.map (Notice.worker worker.pid)
    ∃ calls, result.2.2 = before.2 ++ calls ∧
      ((result.1.active = false ∧ result.1.worker = worker ∧ Lull calls told) ∨
        (result.1.active = true ∧ (Delivers calls ∨ Overflows told))) := by
  intro result told
  have attended : result = worker.attend kernel.transcribing flags before := rfl
  simp only [Worker.attend, sound, ready, Bool.false_eq_true, if_false, if_true] at attended
  rcases forward_tells kernel worker before with ⟨full, forwarded⟩ |
    ⟨error, after, called, forwarded⟩ | ⟨step, after, bytes, called, forwarded, gave⟩
  · -- A full buffer is less than a chunk short of the longest line, so it is not empty.
    rw [forwarded] at attended
    have long : LineBuffer.maxLine - LineBuffer.readChunk < worker.buffer.bytes.length :=
      of_decide_eq_true full
    have held : worker.buffer.bytes.isEmpty = false := by
      rw [List.isEmpty_eq_false_iff]
      exact List.ne_nil_of_length_pos (Nat.zero_lt_of_lt long)
    refine ⟨[], by simp [attended], .inr ⟨by rw [attended], .inr ?_⟩⟩
    refine ⟨worker.pid, { bytes := worker.buffer.bytes, terminated := false }, ?_⟩
    simp [told, attended, Worker.flush, LineBuffer.takeRemainder, held, long]
  · rw [forwarded] at attended
    refine ⟨_, by rw [attended]; split <;> exact called, .inl ?_⟩
    by_cases wait : Worker.isWait error = true
    · simp only [wait, if_true] at attended
      simp only [told, attended]
      exact ⟨trivial, trivial, by simp, by simp⟩
    · simp only [wait, Bool.false_eq_true, if_false] at attended
      simp only [told, attended]
      refine ⟨trivial, trivial, by simp, ?_⟩
      simp only [List.map_singleton, List.mem_singleton, forall_eq]
      exact .inr ⟨worker.diagnostics, error, List.mem_singleton_self _, rfl⟩
  · rw [forwarded] at attended
    refine ⟨_, ?_, .inr ⟨?_, .inl ⟨worker.diagnostics, bytes, List.mem_singleton_self _⟩⟩⟩
    · rcases gave with gave | gave <;> simp only [gave] at attended <;> rw [attended] <;>
        exact called
    · rcases gave with gave | gave <;> simp only [gave] at attended <;> rw [attended]

/-- Attention that counts for nothing changes nothing but that the worker may have to be muted. -/
theorem attend_tells (flags : PollFlags) (worker : Worker) (before : σ × List Call) :
    let result := worker.attend kernel.transcribing flags before
    let told := result.1.reports.map (Notice.worker worker.pid)
    ∃ calls, result.2.2 = before.2 ++ calls ∧
      ((result.1.active = false ∧ result.1.worker = worker ∧ Lull calls told) ∨
        (result.1.active = true ∧ (Delivers calls ∨ Overflows told))) := by
  intro result told
  cases failed : flags.meets (PollFlags.failed ||| PollFlags.invalid) with
  | true =>
      have attended : result = _ := attend_of_failed failed
      refine ⟨[], by simp [attended], .inl ?_⟩
      simp only [told, attended]
      exact ⟨trivial, trivial, by simp, by simp [Notice.IsMild]⟩
  | false =>
      cases ready : flags.meets (PollFlags.readable ||| PollFlags.hangUp) with
      | false =>
          have attended : result = _ := attend_of_neither failed ready
          refine ⟨[], by simp [attended], .inl ?_⟩
          simp only [told, attended]
          exact ⟨trivial, trivial, by simp, by simp⟩
      | true => exact attend_ready_tells kernel before failed ready

/-! ### All workers -/

theorem unmuted_mute (index : Nat) (table : ProcessTable) :
    (table.mute index).workers.map Worker.unmuted = table.workers.map Worker.unmuted := by
  unfold mute
  cases found : table.workers[index]? with
  | none => rfl
  | some worker =>
      have same : ∀ worker : Worker, worker.mute.unmuted = worker.unmuted := fun _ => rfl
      simp only
      rw [← modify_eq_set Worker.mute found]
      exact map_modify_of_same same table.workers index

theorem forwardFrom_tells (unattended index : Nat) (table : ProcessTable)
    (before : σ × List Call) :
    let sent := forwardFrom kernel.transcribing unattended index table before
    ∃ calls, sent.state.2 = before.2 ++ calls ∧
      ((sent.active = false ∧
          sent.table.workers.map Worker.unmuted = table.workers.map Worker.unmuted ∧
          Lull calls sent.notices) ∨
        (sent.active = true ∧ (Delivers calls ∨ Overflows sent.notices))) := by
  induction unattended generalizing index table before with
  | zero => exact ⟨[], by simp [forwardFrom], .inl ⟨rfl, rfl, by simp, by simp [forwardFrom]⟩⟩
  | succ unattended ih =>
      cases found : table.workers[index]? with
      | none =>
          simp only [forwardFrom, found]
          exact ⟨[], by simp, .inl ⟨trivial, trivial, by simp, by simp⟩⟩
      | some worker =>
          obtain ⟨calls, called, one⟩ := attend_tells kernel (table.returned index) worker before
          simp only [forwardFrom, found]
          generalize worker.attend kernel.transcribing (table.returned index) before = result
            at called one ⊢
          obtain ⟨attended, middle⟩ := result
          simp only at called one ⊢
          obtain ⟨others, calledLater, rest⟩ := ih (index + 1)
            (if attended.ended then (table.update index attended.worker).mute index
              else table.update index attended.worker) middle
          refine ⟨calls ++ others, by rw [calledLater, called, List.append_assoc], ?_⟩
          rcases one with ⟨still, same, lull⟩ | ⟨active, reason⟩
          · rcases rest with ⟨stillLater, kept, lullLater⟩ | ⟨active, reason⟩
            · refine .inl ⟨by rw [still, stillLater]; rfl, ?_, lull.append lullLater⟩
              have unchanged : table.update index attended.worker = table := by
                obtain ⟨inside, here⟩ := List.getElem?_eq_some_iff.mp found
                simp [ProcessTable.update, same, ← here]
              rw [kept, unchanged]
              split
              · exact unmuted_mute index table
              · rfl
            · refine .inr ⟨by rw [active, Bool.or_true], ?_⟩
              exact reason.imp (·.mono (List.subset_append_right ..))
                (·.mono (List.subset_append_right ..))
          · refine .inr ⟨by rw [active, Bool.true_or], ?_⟩
            exact reason.imp (·.mono (List.subset_append_left ..))
              (·.mono (List.subset_append_left ..))

/-- Reaping that removes nobody has asked for everybody, read nothing and told of nothing. -/
theorem reapFrom_tells (unasked index : Nat) (table : ProcessTable) (before : σ × List Call) :
    let reaped := reapFrom kernel.transcribing unasked index table before
    ∃ calls, reaped.state.2 = before.2 ++ calls ∧
      (reaped.removed = false → reaped.notices = [] ∧ Lull calls []) := by
  induction unasked generalizing index table before with
  | zero => exact ⟨[], by simp [reapFrom], fun _ => ⟨rfl, by simp, by simp⟩⟩
  | succ unasked ih =>
      intro reaped
      refine ⟨_, reapFrom_writes kernel (unasked + 1) index table before, fun stays => ?_⟩
      cases found : table.workers[index]? with
      | none =>
          simp only [reaped, reapFrom, askingsFrom, found]
          exact ⟨trivial, by simp, by simp⟩
      | some worker =>
          rcases lastReports_cases kernel.transcribing worker before with
            ⟨after, waited, asked⟩ | ⟨_, _, _, _, after, _, _, asked⟩ | ⟨_, after, _, asked⟩
          · obtain ⟨calls, called, quiet⟩ := ih (index + 1) table after
            simp only [reaped, reapFrom, found, asked] at stays ⊢
            obtain ⟨silent, lull⟩ := quiet stays
            have wrote := reapFrom_writes kernel unasked (index + 1) table after
            rw [called, List.append_cancel_left_eq] at wrote
            have waiting : after.2 = before.2 ++ [.wait worker.pid (.ok none)] := by
              have called : (kernel.transcribing.wait worker.pid before).2.2 = before.2 ++
                  [.wait worker.pid (kernel.transcribing.wait worker.pid before).1] := rfl
              rw [waited] at called
              exact called
            simp only [askingsFrom, found, asked, List.flatMap_cons, ← wrote, Asking.calls,
              written_of_append waiting, Asking.stays]
            have one : Lull [.wait worker.pid (.ok none)] [] := lull_of_silent (by simp)
            exact ⟨silent, one.append lull⟩
          · simp only [reaped, reapFrom, found, asked] at stays
            cases stays
          · simp only [reaped, reapFrom, found, asked] at stays
            cases stays

/-- Reaping and the poll: if nobody is removed they change nothing. -/
theorem look_tells (supervisor : Supervisor) (before : σ × List Call) :
    let look := supervisor.look kernel.transcribing before
    ∃ calls, look.answer.2.2 = before.2 ++ calls ∧
      (look.reaped.removed = false → look.reaped.notices = [] ∧
        look.reaped.table.workers = supervisor.table.workers ∧ Lull calls []) := by
  intro look
  obtain ⟨asked, reaped, stays⟩ :=
    reapFrom_tells kernel supervisor.table.length 0 supervisor.table before
  have unchanged :=
    (removed_reapFrom kernel.transcribing supervisor.table.length 0 supervisor.table before).2
  have polled : look.answer.2.2 =
      look.reaped.state.2 ++ [.poll look.offered look.timeout look.answer.1] := rfl
  have poll : Lull [.poll look.offered look.timeout look.answer.1] [] := lull_of_silent (by simp)
  refine ⟨asked ++ [.poll look.offered look.timeout look.answer.1], ?_, fun removed => ?_⟩
  · rw [polled, ← List.append_assoc]
    exact congrArg (· ++ _) reaped
  · obtain ⟨silent, lull⟩ := stays removed
    exact ⟨silent, unchanged removed, lull.append poll⟩

theorem attended_tells (supervisor : Supervisor) (before : σ × List Call) :
    let look := supervisor.look kernel.transcribing before
    let sent := look.attended kernel.transcribing
    ∃ calls, sent.state.2 = look.answer.2.2 ++ calls ∧
      ((sent.active = false ∧
          sent.table.workers.map Worker.unmuted = look.reaped.table.workers.map Worker.unmuted ∧
          Lull calls sent.notices) ∨
        (sent.active = true ∧ (Delivers calls ∨ Overflows sent.notices))) := by
  intro look sent
  have nothing : Lull [] [] := ⟨by simp, by simp⟩
  rcases answered : look.answer with ⟨flags, after⟩
  cases flags with
  | error error =>
      simp only [sent, Look.attended, answered]
      exact ⟨[], by simp, .inl ⟨trivial, rfl, nothing⟩⟩
  | ok flags =>
      cases found : look.foundNothing flags with
      | true =>
          simp only [sent, Look.attended, answered, found, if_true]
          exact ⟨[], by simp, .inl ⟨trivial, rfl, nothing⟩⟩
      | false =>
          simp only [sent, Look.attended, answered, found, Bool.false_eq_true, if_false]
          exact forwardFrom_tells kernel (look.table flags).length 0 (look.table flags) after

/-! ### One pass -/

theorem Look.outcome_of_ok {look : Look σ} {outcome : Outcome}
    (ok : look.outcome kernel = .ok outcome) :
    outcome = .ofActive (look.reaped.removed || (look.attended kernel).active) := by
  rcases answered : look.answer with ⟨flags, after⟩
  cases flags with
  | error error =>
      simp only [Look.outcome, Look.attended, answered] at ok ⊢
      split at ok
      · cases ok
        rw [Bool.or_false]
      · cases ok
  | ok flags =>
      simp only [Look.outcome, answered] at ok
      cases ok
      rfl

/-- Somebody left just when reaping says so. -/
theorem leavers_eq_zero_iff (table : ProcessTable) (state : σ) :
    leavers kernel table state = 0 ↔ (reap kernel table state).removed = false := by
  obtain ⟨fewer, same⟩ := removed_reapFrom kernel table.length 0 table state
  have everyone := leavers_add_reaped kernel table state
  constructor
  · intro nobody
    rw [nobody, zero_add] at everyone
    have all := congrArg Multiset.card everyone
    simp only [Multiset.coe_card] at all
    by_contra removed
    have less : (reap kernel table state).table.workers.length < table.workers.length :=
      fewer (Bool.of_not_eq_false removed)
    omega
  · intro stays
    have kept : (reap kernel table state).table.workers = table.workers := same stays
    rwa [kept, add_eq_right] at everyone

/-- A wakeup that turns out to be spurious. -/
theorem lull_of_admitting {listener : Descriptor} {table after : ProcessTable} {calls : List Call}
    {later : List Notice} (admitting : Admitting listener table calls later (.ok false) after) :
    Lull calls later ∧ after.workers = table.workers := by
  cases admitting with
  | ignored accepting =>
      refine ⟨⟨?_, by simp [Notice.IsMild]⟩, rfl⟩
      intro descriptor bytes
      exact unread_of_setup accepting.setup descriptor (.ok bytes)

/-- The end of a pass: it asked for no connection or got none, or it admitted a worker. -/
theorem tick_ends (supervisor : Supervisor) (before : σ × List Call) {outcome : Outcome}
    (ok : (supervisor.tick kernel.transcribing before).outcome = .ok outcome) :
    let look := supervisor.look kernel.transcribing before
    let sent := look.attended kernel.transcribing
    let next := supervisor.tick kernel.transcribing before
    ∃ last later, next.state.2 = sent.state.2 ++ last ∧
      next.notices = look.reaped.notices ++ (sent.notices ++ later) ∧
      ((outcome = .ofActive (look.reaped.removed || sent.active) ∧ Lull last later ∧
          next.supervisor.table.workers = sent.table.workers) ∨
        (outcome = .active ∧ ∃ worker ∈ next.supervisor.table.workers,
          worker.pid ∈ startedIn last ∧ worker.pid ∈ createdIn later)) := by
  intro look sent next
  have ended : next.outcome = .ok outcome := ok
  cases tries : look.tries kernel.transcribing with
  | false =>
      have ticked : next = _ := tick_of_shut kernel.transcribing supervisor before tries
      rw [ticked] at ended ⊢
      exact ⟨[], [], by simp [sent, look], by simp [sent, look],
        .inl ⟨Look.outcome_of_ok kernel.transcribing ended, ⟨by simp, by simp⟩, rfl⟩⟩
  | true =>
      have ticked : next = _ := tick_of_tried kernel.transcribing supervisor before tries
      obtain ⟨last, admitting, wrote⟩ := admitNext_writes kernel supervisor.listener.descriptor
        supervisor.command sent.table sent.state
      rw [ticked] at ended ⊢
      refine ⟨last, _, wrote, List.append_assoc .., ?_⟩
      simp only [sent, look] at admitting
      generalize admitNext kernel.transcribing supervisor.listener.descriptor supervisor.command
        _ _ = admitted at admitting ended ⊢
      obtain ⟨table, later, outcome, state⟩ := admitted
      simp only at admitting ended ⊢
      cases outcome with
      | error error => cases ended
      | ok one =>
          cases one with
          | false =>
              cases ended
              obtain ⟨lull, workers⟩ := lull_of_admitting admitting
              exact .inl ⟨by simp only [Bool.or_false, sent, look], lull, workers⟩
          | true =>
              cases ended
              rcases admitting_cases admitting with ⟨other, _⟩ |
                ⟨worker, _, _, started, told, workers⟩
              · exact absurd rfl other
              · refine .inr ⟨by simp [Outcome.ofActive], worker, ?_, ?_, ?_⟩
                · simp [workers]
                · simp [started]
                · simp [told]

/-- The outcome of a pass is combined from its three parts, each of which either did nothing or has
something to show for it. -/
theorem tick_tells (supervisor : Supervisor) (before : σ × List Call) {outcome : Outcome}
    (ok : (supervisor.tick kernel.transcribing before).outcome = .ok outcome) :
    let next := supervisor.tick kernel.transcribing before
    ∃ calls, next.state.2 = before.2 ++ calls ∧
      ((outcome = .idle ∧ leavers kernel.transcribing supervisor.table before = 0 ∧
          next.supervisor.table.workers.map Worker.unmuted =
            supervisor.table.workers.map Worker.unmuted ∧
          Lull calls next.notices) ∨
        (outcome = .active ∧
          (leavers kernel.transcribing supervisor.table before ≠ 0 ∨ Admits calls next ∨
            Delivers calls ∨ Overflows next.notices))) := by
  intro next
  obtain ⟨asked, looked, stays⟩ := look_tells kernel supervisor before
  obtain ⟨read, attended, came⟩ := attended_tells kernel supervisor before
  obtain ⟨last, later, wrote, told, ended⟩ := tick_ends kernel supervisor before ok
  have nobody : leavers kernel.transcribing supervisor.table before = 0 ↔
      (supervisor.look kernel.transcribing before).reaped.removed = false :=
    leavers_eq_zero_iff kernel.transcribing supervisor.table before
  generalize supervisor.look kernel.transcribing before = look
    at looked stays attended came wrote told ended nobody
  have written : next.state.2 = before.2 ++ (asked ++ (read ++ last)) := by
    rw [wrote, attended, looked, List.append_assoc, List.append_assoc]
  refine ⟨_, written, ?_⟩
  rcases ended with ⟨rfl, quiet, workers⟩ | ⟨rfl, worker, member, started, created⟩
  · cases removed : look.reaped.removed with
    | true => exact .inr ⟨by simp [Outcome.ofActive], .inl (by simp [nobody, removed])⟩
    | false =>
        obtain ⟨silent, unchanged, lull⟩ := stays removed
        rw [told, silent, List.nil_append]
        rcases came with ⟨still, kept, calm⟩ | ⟨active, reason⟩
        · refine .inl ⟨by simp [Outcome.ofActive, still], nobody.mpr removed, ?_, ?_⟩
          · rw [workers, kept, unchanged]
          · exact lull.append (calm.append quiet)
        · refine .inr ⟨by simp [Outcome.ofActive, active], .inr (.inr ?_)⟩
          refine reason.imp (·.mono ?_) (·.mono (List.subset_append_left ..))
          exact fun call listed => by simp [listed]
  · refine .inr ⟨rfl, .inr (.inl ⟨worker, member, ?_, ?_⟩)⟩
    · simp [startedIn_append, started]
    · rw [told]
      simp [createdIn_append, created]

/-- In any state, and so after any passes: an idle pass left the workers as they were but for
muting, no pipe gave bytes or came to its end, no line that had grown too long was told, and what
was told are pipe errors and reads that failed. In an active pass a worker left or was admitted, or
a pipe gave something, or such a line was told. A pass that found nothing or was interrupted in its
poll is active just when somebody had left. Every chunk that is read gets the memory it takes. -/
theorem outcome_is_truthful (supervisor : Supervisor) (state : σ) :
    let look := supervisor.look kernel.transcribing (state, [])
    let gone := leavers kernel.transcribing supervisor.table (state, [])
    let next := supervisor.tick kernel.transcribing (state, [])
    let calls := next.state.2
    next.seen Prod.fst = supervisor.tick kernel state ∧
    (next.outcome = .ok .idle →
      next.supervisor.table.workers.map Worker.unmuted =
        supervisor.table.workers.map Worker.unmuted ∧
      ¬Delivers calls ∧ ¬Overflows next.notices ∧
      ∀ event ∈ next.notices.filterMap Notice.event?,
        event = .pipeError event.pid ∨
          ∃ descriptor error, .read descriptor (.error error) ∈ calls ∧
            event = .forwardFailed event.pid (ForwardError.read error).message) ∧
    (next.outcome = .ok .active →
      gone ≠ 0 ∨ Admits calls next ∨ Delivers calls ∨ Overflows next.notices) ∧
    (((∃ error, look.answer.1 = .error error ∧ error.kind = .interrupted) ∨
        ∃ flags, look.answer.1 = .ok flags ∧ look.foundNothing flags = true) →
      next.outcome = .ok (if gone = 0 then .idle else .active)) := by
  intro look gone next calls
  refine ⟨tick_shows kernel.transcribing_shows supervisor (state, []), ?_, ?_, ?_⟩
  · intro idle
    obtain ⟨made, wrote, ⟨_, _, workers, lull⟩ | ⟨other, _⟩⟩ := tick_tells kernel supervisor _ idle
    · have same : calls = made := wrote
      rw [same]
      exact ⟨workers, lull.not_delivers, lull.not_overflows, lull.events⟩
    · cases other
  · intro active
    obtain ⟨made, wrote, ⟨other, _⟩ | ⟨_, reason⟩⟩ := tick_tells kernel supervisor _ active
    · cases other
    · have same : calls = made := wrote
      rw [same]
      exact reason
  · intro early
    have outcome : next.outcome = .ok (.ofActive look.reaped.removed) := by
      rcases answered : look.answer with ⟨flags, after⟩
      rw [answered] at early
      rcases early with ⟨error, rfl, interrupted⟩ | ⟨flags, rfl, nothing⟩
      · have ticked : next = _ := tick_of_error answered
        rw [ticked, if_pos interrupted]
      · have ticked : next = _ := tick_of_nothing answered nothing
        rw [ticked]
    have nobody : gone = 0 ↔ look.reaped.removed = false :=
      leavers_eq_zero_iff kernel.transcribing supervisor.table (state, [])
    rw [outcome]
    cases removed : look.reaped.removed with
    | true => rw [if_neg (by simp [nobody, removed])]; rfl
    | false => rw [if_pos (nobody.mpr removed)]; rfl

end

def interrupting : Kernel (Stage ReadScript) :=
  { Kernel.ofReader ReadScript.read with
    poll := fun _ _ stage => (.error (.bare .interrupted), stage) }

def beforeFailure : Ran (Stage ReadScript) :=
  passes (.ofReader ReadScript.read) (.new smallListener { text := "printf" } { workers := 4 })
    { source := { queue := [.error (.numbered 5)] }, running := 9, clients := 1 } 1

def afterFailure : Ticked (Stage ReadScript × List Call) :=
  beforeFailure.supervisor.tick (Kernel.ofReader ReadScript.read).transcribing
    (beforeFailure.state, [])

def afterInterrupt : Ticked (Stage ReadScript × List Call) :=
  afterFailure.supervisor.tick interrupting.transcribing ({ source := {} }, [])

theorem idle_after_failed_read_active_after_exit :
    (afterFailure.outcome = .ok .idle ∧ ¬Delivers afterFailure.state.2 ∧
      afterFailure.supervisor.table.workers.map Worker.unmuted =
        beforeFailure.supervisor.table.workers.map Worker.unmuted ∧
      afterFailure.notices.filterMap Notice.event? =
        [.forwardFailed 70 (ForwardError.read (.numbered 5)).message]) ∧
    afterInterrupt.outcome = .ok .active ∧
      leavers interrupting.transcribing afterFailure.supervisor.table ({ source := {} }, []) ≠
        0 := by
  have idle : afterFailure.outcome = .ok .idle := by decide +kernel
  have told : afterFailure.notices.filterMap Notice.event? =
      [.forwardFailed 70 (ForwardError.read (.numbered 5)).message] := by decide +kernel
  have active : afterInterrupt.outcome = .ok .active := by decide +kernel
  obtain ⟨workers, undelivered, _⟩ :=
    (outcome_is_truthful (.ofReader ReadScript.read) beforeFailure.supervisor
      beforeFailure.state).2.1 idle
  have combined := (outcome_is_truthful interrupting afterFailure.supervisor
    { source := {} }).2.2.2 (.inl ⟨.bare .interrupted, rfl, rfl⟩)
  refine ⟨⟨idle, undelivered, workers, told⟩, active, ?_⟩
  intro nobody
  rw [if_pos nobody] at combined
  cases active.symm.trans combined

end Supervisor

end Superserver
