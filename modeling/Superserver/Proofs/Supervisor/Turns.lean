import Superserver.Diagnostics.Script
import Superserver.Proofs.Supervisor.Polls
import Superserver.Proofs.Supervisor.Steps

/-!
Forwarding, turn by turn: every worker has one turn, in the order of the table. Main statement: in
each pass of a run a worker is treated by what the poll of this pass found for its own pipe, and by
that alone.
-/

namespace Superserver

namespace Supervisor

open ProcessTable

structure Turn (σ : Type) where
  worker : Worker
  flags : PollFlags
  before : σ
  attended : Worker.Attended
  after : σ

namespace Turn

def left (turn : Turn σ) : Worker :=
  if turn.attended.ended then turn.attended.worker.mute else turn.attended.worker

def slot (turn : Turn σ) (slot : PollSlot) : PollSlot :=
  if turn.attended.ended then slot.ignored else slot

def notices (turn : Turn σ) : List Notice :=
  turn.attended.reports.map (.worker turn.worker.pid)

def failed (turn : Turn σ) : Bool := turn.flags.meets (PollFlags.failed ||| PollFlags.invalid)

def ready (turn : Turn σ) : Bool := turn.flags.meets (PollFlags.readable ||| PollFlags.hangUp)

/-- A turn does what was found asks for: the worker is muted for an error, reads once from its own
pipe if that is ready, and is passed over otherwise. A full buffer refuses the read. -/
structure Apt (kernel : Kernel σ) (turn : Turn σ) : Prop where
  attends : turn.worker.attend kernel turn.flags turn.before = (turn.attended, turn.after)
  muted : turn.failed = true → turn.attended.reports = [.pipeError] ∧
    turn.attended.ended = true ∧ turn.left = turn.worker.mute ∧ turn.after = turn.before
  onlyFailed : .pipeError ∈ turn.attended.reports → turn.failed = true
  read : turn.failed = false → turn.ready = true →
    turn.after =
      (turn.worker.buffer.fill (kernel.read turn.worker.diagnostics) turn.before).2.2
  passedOver : turn.failed = false → turn.ready = false → turn.attended.reports = [] ∧
    turn.left = turn.worker ∧ turn.attended.ended = false ∧ turn.after = turn.before

def Consecutive : List (Turn σ) → σ → σ → Prop
  | [], state, last => state = last
  | turn :: turns, state, last => turn.before = state ∧ Consecutive turns turn.after last

end Turn

/-! ### One turn -/

section

variable {σ : Type} {kernel : Kernel σ} {worker : Worker} {flags : PollFlags} {state : σ}

theorem attend_of_failed
    (failed : flags.meets (PollFlags.failed ||| PollFlags.invalid) = true) :
    worker.attend kernel flags state =
      ({ worker, reports := [.pipeError], ended := true }, state) := by
  rw [Worker.attend, if_pos failed]

theorem attend_of_neither
    (sound : flags.meets (PollFlags.failed ||| PollFlags.invalid) = false)
    (quiet : flags.meets (PollFlags.readable ||| PollFlags.hangUp) = false) :
    worker.attend kernel flags state = ({ worker }, state) := by
  simp [Worker.attend, sound, quiet]

theorem state_forward (kernel : Kernel σ) (worker : Worker) (state : σ) :
    (worker.forward kernel state).2 =
      (worker.buffer.fill (kernel.read worker.diagnostics) state).2.2 := by
  unfold Worker.forward
  split <;> rename_i filled <;> rw [filled]

theorem pipeError_not_mem_forward (kernel : Kernel σ) (worker : Worker) (state : σ) :
    .pipeError ∉ (worker.forward kernel state).1.reports := by
  unfold Worker.forward
  split <;> simp

theorem pipeError_not_mem_flush (worker : Worker) : .pipeError ∉ worker.flush.1 := by
  simp [Worker.flush]

/-- A ready pipe costs one fill and gives no pipe error. -/
theorem attend_of_ready (kernel : Kernel σ) (worker : Worker) (state : σ)
    (sound : flags.meets (PollFlags.failed ||| PollFlags.invalid) = false)
    (ready : flags.meets (PollFlags.readable ||| PollFlags.hangUp) = true) :
    (worker.attend kernel flags state).2 =
        (worker.buffer.fill (kernel.read worker.diagnostics) state).2.2 ∧
      .pipeError ∉ (worker.attend kernel flags state).1.reports := by
  have read := state_forward kernel worker state
  have silent := pipeError_not_mem_forward kernel worker state
  unfold Worker.attend
  rw [if_neg (by simp [sound]), if_pos ready]
  generalize worker.forward kernel state = result at read silent ⊢
  obtain ⟨step, after⟩ := result
  simp only at read silent ⊢
  split
  · exact ⟨read, silent⟩
  · exact ⟨read, by simp [silent]⟩
  · exact ⟨read, by simp⟩
  · exact ⟨read, by simp⟩
  · exact ⟨read, by simp [pipeError_not_mem_flush]⟩

theorem apt_of_attends {turn : Turn σ}
    (attends : turn.worker.attend kernel turn.flags turn.before = (turn.attended, turn.after)) :
    turn.Apt kernel := by
  obtain ⟨worker, flags, before, attended, after⟩ := turn
  simp only at attends
  constructor
  · exact attends
  · intro failed
    rw [attend_of_failed failed] at attends
    cases attends
    exact ⟨rfl, rfl, rfl, rfl⟩
  · intro told
    cases failed : Turn.failed { worker, flags, before, attended, after } with
    | true => rfl
    | false =>
        cases ready : flags.meets (PollFlags.readable ||| PollFlags.hangUp) with
        | true =>
            have silent := (attend_of_ready kernel worker before failed ready).2
            rw [attends] at silent
            exact absurd told silent
        | false =>
            rw [attend_of_neither failed ready] at attends
            cases attends
            cases told
  · intro sound ready
    have read := (attend_of_ready kernel worker before sound ready).1
    rw [attends] at read
    exact read
  · intro sound quiet
    rw [attend_of_neither sound quiet] at attends
    cases attends
    exact ⟨rfl, rfl, rfl, rfl⟩

theorem Turn.Apt.pid_left {turn : Turn σ} (apt : turn.Apt kernel) :
    turn.left.pid = turn.worker.pid := by
  have alike := turn.worker.alike_attend kernel turn.flags turn.before
  rw [apt.attends] at alike
  unfold Turn.left
  split
  · exact alike.pid
  · exact alike.pid

end

/-! ### All turns -/

def turnsFrom (kernel : Kernel σ) (table : ProcessTable) :
    (index : Nat) → List Worker → σ → List (Turn σ)
  | _, [], _ => []
  | index, worker :: others, state =>
      let (attended, after) := worker.attend kernel (table.returned index) state
      { worker, flags := table.returned index, before := state, attended, after } ::
        turnsFrom kernel table (index + 1) others after

/-- Forwarding from `index` on is made of some turns. -/
structure MadeOf (forwarded : Forwarded σ) (turns : List (Turn σ)) (index : Nat)
    (table : ProcessTable) (state : σ) : Prop where
  workers : forwarded.table.workers = table.workers.take index ++ turns.map Turn.left
  slots : forwarded.table.slots =
    table.slots.take (index + 1) ++
      List.zipWith Turn.slot turns (table.slots.drop (index + 1))
  notices : forwarded.notices = turns.flatMap Turn.notices
  consecutive : Turn.Consecutive turns state forwarded.state
  listenerReady : forwarded.table.listenerReady = table.listenerReady

section

variable {σ : Type} (kernel : Kernel σ)

theorem turnsFrom_spec (table : ProcessTable) (index : Nat) (workers : List Worker) (state : σ) :
    (turnsFrom kernel table index workers state).map (·.worker) = workers ∧
    (∀ position turn, (turnsFrom kernel table index workers state)[position]? = some turn →
      turn.flags = table.returned (index + position)) ∧
    ∀ turn ∈ turnsFrom kernel table index workers state, turn.Apt kernel := by
  induction workers generalizing index state with
  | nil => simp [turnsFrom]
  | cons worker others ih =>
      obtain ⟨same, flags, apt⟩ := ih (index + 1)
        (worker.attend kernel (table.returned index) state).2
      refine ⟨?_, ?_, ?_⟩
      · simp only [turnsFrom, List.map_cons, same]
      · intro position turn found
        cases position with
        | zero =>
            simp only [turnsFrom, List.getElem?_cons_zero, Option.some.injEq] at found
            rw [← found]
            rfl
        | succ position =>
            rw [flags position turn found]
            congr 1
            omega
      · intro turn member
        rcases List.mem_cons.mp member with rfl | member
        · exact apt_of_attends rfl
        · exact apt turn member

/-- What a turn leaves of the table. -/
theorem table_after_turn (turn : Turn σ) {table : ProcessTable} {index : Nat} {worker : Worker}
    (found : table.workers[index]? = some worker) :
    let after := if turn.attended.ended then (table.update index turn.attended.worker).mute index
      else table.update index turn.attended.worker
    after.workers = table.workers.set index turn.left ∧
      after.slots = table.slots.modify (index + 1) turn.slot ∧
      (∀ position, after.returned position = table.returned position) ∧
      after.listenerReady = table.listenerReady := by
  have inside : index < (table.update index turn.attended.worker).workers.length := by
    simpa [ProcessTable.update] using (List.getElem?_eq_some_iff.mp found).1
  intro after
  cases ended : turn.attended.ended with
  | true =>
      have muted : after = (table.update index turn.attended.worker).mute index := if_pos ended
      have ignored : turn.slot = PollSlot.ignored := by
        funext slot
        exact if_pos ended
      refine ⟨?_, ?_, ?_, ?_⟩
      · rw [muted, workers_mute_update found, Turn.left, if_pos ended]
      · rw [muted, slots_mute inside, ignored]
        rfl
      · intro position
        rw [muted, returned_mute, returned_update]
      · rw [muted, listenerReady_mute, listenerReady_update]
  | false =>
      have kept : after = table.update index turn.attended.worker := if_neg (by simp [ended])
      have untouched : turn.slot = id := by
        funext slot
        exact if_neg (by simp [ended])
      refine ⟨?_, ?_, ?_, ?_⟩
      · rw [kept, Turn.left, if_neg (by simp [ended])]
        rfl
      · rw [kept, untouched, List.modify_id]
        rfl
      · intro position
        rw [kept, returned_update]
      · rw [kept, listenerReady_update]

theorem zipWith_after_modify {turn : Turn σ} {turns : List (Turn σ)} {slots : List PollSlot}
    {index : Nat} (inside : index < slots.length) :
    (slots.modify index turn.slot).take (index + 1) ++
        List.zipWith Turn.slot turns ((slots.modify index turn.slot).drop (index + 1)) =
      slots.take index ++ List.zipWith Turn.slot (turn :: turns) (slots.drop index) := by
  have found : slots[index]? = some slots[index] := List.getElem?_eq_getElem inside
  rw [modify_eq_set turn.slot found, List.drop_eq_getElem_cons inside, List.zipWith_cons_cons,
    List.take_add_one, List.drop_set_of_lt (by omega), List.take_set_of_le (Nat.le_refl index)]
  simp [inside]

theorem forwardFrom_madeOf (polled : ProcessTable) (workers : List Worker) (index : Nat)
    (table : ProcessTable) (state : σ)
    (current : ∀ position, table.returned position = polled.returned position)
    (unattended : table.workers.drop index = workers)
    (aligned : table.slots.length = table.workers.length + 1) :
    MadeOf (forwardFrom kernel workers.length index table state)
      (turnsFrom kernel polled index workers state) index table state := by
  induction workers generalizing index table state with
  | nil =>
      have outside := List.drop_eq_nil_iff.mp unattended
      constructor
      · simp [forwardFrom, turnsFrom, List.take_of_length_le outside]
      · have passed : table.slots.length ≤ index + 1 := by omega
        simp [forwardFrom, turnsFrom, List.take_of_length_le passed]
      · rfl
      · rfl
      · rfl
  | cons worker others ih =>
      have found : table.workers[index]? = some worker := by
        have head := congrArg (·[0]?) unattended
        simpa using head
      have inside : index < table.workers.length := (List.getElem?_eq_some_iff.mp found).1
      rcases attends : worker.attend kernel (polled.returned index) state with ⟨attended, between⟩
      obtain ⟨workers, slots, returned, listenerReady⟩ := table_after_turn
        { worker, flags := polled.returned index, before := state, attended, after := between }
        found
      simp only [List.length_cons, forwardFrom, found, turnsFrom, current index, attends]
      generalize (if attended.ended then (table.update index attended.worker).mute index
        else table.update index attended.worker) = after at workers slots returned listenerReady ⊢
      have rest := ih (index + 1) after between (fun position => by rw [returned, current])
        (by rw [workers, List.drop_set_of_lt (by omega), ← List.drop_drop, unattended]; rfl)
        (by rw [workers, slots]; simpa using aligned)
      constructor
      · rw [rest.workers, workers, List.map_cons, List.take_add_one]
        simp [List.take_set_of_le, inside]
      · rw [rest.slots, slots]
        exact zipWith_after_modify (by omega)
      · simp only [rest.notices, List.flatMap_cons, Turn.notices]
      · exact ⟨rfl, rest.consecutive⟩
      · rw [rest.listenerReady, listenerReady]

/-- Forwarding brings no worker and takes none away, tells of pipes alone and leaves what was found
for the listener. -/
theorem forward_keeps {listener : Int} {table : ProcessTable} (sound : Lockstep listener table)
    (state : σ) :
    (forward kernel table state).table.workers.map (·.pid) = table.workers.map (·.pid) ∧
      (∀ pid report, .worker pid report ∈ (forward kernel table state).notices →
        report.aboutPipe = true) ∧
      (forward kernel table state).table.listenerReady = table.listenerReady := by
  have made := forwardFrom_madeOf kernel table table.workers 0 table state (fun _ => rfl) rfl
    sound.length_slots
  obtain ⟨workers, _, apt⟩ := turnsFrom_spec kernel table 0 table.workers state
  refine ⟨?_, ?_, made.listenerReady⟩
  · have left : (forward kernel table state).table.workers =
        (turnsFrom kernel table 0 table.workers state).map Turn.left := made.workers
    have pids := congrArg (List.map (·.pid)) workers
    rw [List.map_map] at pids
    rw [left, List.map_map, ← pids]
    exact List.map_congr_left fun turn member => (apt turn member).pid_left
  · intro pid report told
    have sent : (forward kernel table state).notices = _ := made.notices
    rw [sent] at told
    obtain ⟨turn, member, told⟩ := List.mem_flatMap.mp told
    obtain ⟨_, heard, same⟩ := List.mem_map.mp told
    cases same
    have about := turn.worker.aboutPipe_attend kernel turn.before turn.flags
    rw [(apt turn member).attends] at about
    exact about report heard

end

/-! ### Whole runs -/

/-- A pass in which no worker is attended to after the poll. -/
structure Unheeded (look : Look σ) (next : Ticked σ) : Prop where
  notices : next.notices = look.reaped.notices
  workers : next.supervisor.table.workers = look.reaped.table.workers
  state : next.state = look.answer.2

theorem unheeded_or_respond (kernel : Kernel σ) (supervisor : Supervisor) (state : σ) :
    let look := supervisor.look kernel state
    let next := supervisor.tick kernel state
    Unheeded look next ∨ ∃ flags after, look.answer = (.ok flags, after) ∧
      look.foundNothing flags = false ∧
      next = respond kernel supervisor look.accepting look.reaped (look.table flags) after := by
  intro look next
  rcases answered : look.answer with ⟨flags, after⟩
  cases flags with
  | error error =>
      have ticked : next = _ := tick_of_error answered
      rw [ticked]
      exact Or.inl ⟨rfl, rfl, (congrArg Prod.snd answered).symm⟩
  | ok flags =>
      cases nothing : look.foundNothing flags with
      | true =>
          have ticked : next = _ := tick_of_nothing answered nothing
          rw [ticked]
          exact Or.inl ⟨rfl, rfl, (congrArg Prod.snd answered).symm⟩
      | false => exact Or.inr ⟨flags, after, rfl, nothing, tick_of_found answered nothing⟩

/-- A pass in three parts: reaping, forwarding if the poll found something, and an admission. -/
theorem tick_stages (kernel : Kernel σ) {listener : Int} {supervisor : Supervisor}
    (sound : Lockstep listener supervisor.table) (state : σ) :
    let look := supervisor.look kernel state
    let next := supervisor.tick kernel state
    ∃ sent middle between later,
      Steps kernel look.reaped.table.workers look.reaped.state sent middle between ∧
      middle.map (·.pid) = look.reaped.table.workers.map (·.pid) ∧
      (∀ pid report, .worker pid report ∈ sent → report.aboutPipe = true) ∧
      Admission kernel middle between later next.supervisor.table.workers next.state ∧
      next.notices = look.reaped.notices ++ (sent ++ later) ∧
      (look.accepting = false → later = []) := by
  intro look next
  have looked : Steps kernel look.reaped.table.workers look.reaped.state []
      look.reaped.table.workers look.answer.2 :=
    Steps.refl.step (.quiet (Kernel.Quiet.refl.poll _ _))
  rcases unheeded_or_respond kernel supervisor state with ⟨notices, workers, last⟩ |
    ⟨flags, after, answered, _, responded⟩
  · refine ⟨_, _, _, [], looked, rfl, by simp, ?_, ?_, fun _ => rfl⟩
    · rw [workers, last]
      exact .none (by simp [Asides]) .refl
    · rw [notices, List.append_nil, List.append_nil]
  · have answered : look.answer = (.ok flags, after) := answered
    have responded : next = respond kernel supervisor look.accepting look.reaped
      (look.table flags) after := responded
    have polled : Lockstep listener (look.table flags) :=
      (lockstep_look kernel sound state).cleared.polled look.accepting flags
    obtain ⟨later, admission, notices, shut⟩ := respond_admission kernel supervisor look.accepting
      look.reaped (look.table flags) after
    obtain ⟨pids, about, _⟩ := forward_keeps kernel polled after
    have sent : Steps kernel look.reaped.table.workers look.answer.2
        (forward kernel (look.table flags) after).notices
        (forward kernel (look.table flags) after).table.workers
        (forward kernel (look.table flags) after).state := by
      rw [answered]
      exact forwardFrom_steps kernel (look.table flags).length 0 (look.table flags) after
    rw [responded]
    exact ⟨_, _, _, later, looked.trans sent, pids, about, admission, notices, shut⟩

/-- In a pass in which the poll found something, each worker has one turn, and is treated in it by
what this poll found at the place of its own slot. Without an answer nobody is attended to. -/
theorem found_conditions_reach_their_workers (kernel : Kernel σ) (listener : Listener)
    (command : ShellCommand) (limit : AdmissionLimit) (state : σ) (count : Nat) :
    let ran := passes kernel (.new listener command limit) state count
    let look := ran.supervisor.look kernel ran.state
    let next := ran.supervisor.tick kernel ran.state
    look.offered.map (·.descriptor) =
      (if look.accepting then [(listener.descriptor : Int)] else []) ++
        look.reaped.table.workers.map Worker.watched ∧
    (∀ error, look.answer.1 = .error error → Unheeded look next) ∧
    ∀ flags, look.answer.1 = .ok flags →
      (look.accepting = false → (look.table flags).listenerReady = false) ∧
      (∀ index worker, look.reaped.table.workers[index]? = some worker →
        (look.table flags).returned index = answered look.accepting flags index worker) ∧
      (look.foundNothing flags = true → Unheeded look next) ∧
      (look.foundNothing flags = false →
        let forwarded := forward kernel (look.table flags) look.answer.2
        next = respond kernel ran.supervisor look.accepting look.reaped (look.table flags)
          look.answer.2 ∧
        ∃ turns : List (Turn σ),
          turns.map (·.worker) = look.reaped.table.workers ∧
          (∀ index turn, turns[index]? = some turn →
            turn.flags = answered look.accepting flags index turn.worker) ∧
          (∀ turn ∈ turns, turn.Apt kernel) ∧
          MadeOf forwarded turns 0 (look.table flags) look.answer.2) := by
  intro ran look next
  have sound : Lockstep listener.descriptor ran.supervisor.table :=
    lockstep_passes kernel listener command limit state count
  have cleared : Lockstep listener.descriptor look.reaped.table.cleared :=
    (lockstep_look kernel sound ran.state).cleared
  refine ⟨descriptors_offered kernel sound ran.state, ?_, ?_⟩
  · intro error failed
    have ticked : next = _ := tick_of_error (Prod.ext failed rfl)
    rw [ticked]
    exact ⟨rfl, rfl, rfl⟩
  · intro flags answer
    have answer : look.answer = (.ok flags, look.answer.2) := Prod.ext answer rfl
    have shown : ∀ index worker, look.reaped.table.workers[index]? = some worker →
        (look.table flags).returned index = answered look.accepting flags index worker :=
      fun index worker found => returned_polled cleared look.accepting flags found
    refine ⟨?_, shown, ?_, ?_⟩
    · intro leftOut
      simp only [Look.table, leftOut]
      exact listenerReady_polled_false flags look.reaped.table
    · intro nothing
      have ticked : next = _ := tick_of_nothing answer nothing
      rw [ticked]
      exact ⟨rfl, rfl, rfl⟩
    · intro something forwarded
      obtain ⟨workers, heard, apt⟩ := turnsFrom_spec kernel (look.table flags) 0
        look.reaped.table.workers look.answer.2
      refine ⟨tick_of_found answer something, _, workers, ?_, apt, ?_⟩
      · intro index turn found
        have worker : look.reaped.table.workers[index]? = some turn.worker := by
          rw [← workers, List.getElem?_map, found]
          rfl
        rw [heard index turn found, Nat.zero_add, shown index turn.worker worker]
      · exact forwardFrom_madeOf kernel (look.table flags) look.reaped.table.workers 0
          (look.table flags) look.answer.2 (fun _ => rfl) rfl
          (cleared.polled look.accepting flags).length_slots

/-- Once two processes were started the first one ends. The pipe of the second one is in error and
all else is ready. -/
def crossing : Kernel (Stage ReadScript) :=
  { Kernel.ofReader ReadScript.read with
    wait := fun pid stage =>
      (.ok (if pid = 70 && stage.started = 2 then some 0 else none), stage)
    poll := fun slots _ stage =>
      (.ok (slots.map fun slot =>
        if slot.descriptor = 7 then PollFlags.failed else PollFlags.readable), stage) }

def twoClients : Stage ReadScript where
  source := { queue := [.error (.bare .wouldBlock), .error (.bare .wouldBlock)] }
  clients := 2

theorem moved_worker_hears_its_own_error :
    let ran := passes crossing (.new smallListener { text := "printf" } { workers := 4 })
      twoClients 2
    let look := ran.supervisor.look crossing ran.state
    let flags := [PollFlags.readable, PollFlags.failed]
    ran.supervisor.table.workers.map (·.pid) = [70, 71] ∧
      look.answer.1 = .ok flags ∧ look.foundNothing flags = false ∧
      ∃ turns : List (Turn (Stage ReadScript)), turns.map (·.worker.pid) = [71] ∧
        turns.map (·.attended.reports) = [[.pipeError]] := by
  intro ran look flags
  have tracked : ran.supervisor.table.workers.map (·.pid) = [70, 71] := by decide +kernel
  have answer : look.answer.1 = .ok flags := rfl
  have something : look.foundNothing flags = false := by decide +kernel
  obtain ⟨_, _, heeded⟩ := found_conditions_reach_their_workers crossing smallListener
    { text := "printf" } { workers := 4 } twoClients 2
  obtain ⟨_, _, _, acted⟩ := heeded flags answer
  obtain ⟨_, turns, workers, heard, apt, _⟩ := acted something
  have left : look.reaped.table.workers.map (fun worker => (worker.pid, worker.muted)) =
      [(71, false)] := by decide +kernel
  have full : look.accepting = true := by decide +kernel
  rw [← workers, List.map_map] at left
  obtain ⟨turn, others, rfl⟩ := List.exists_cons_of_ne_nil (show turns ≠ [] by
    rintro rfl
    cases left)
  simp only [List.map_cons, List.cons.injEq, List.map_eq_nil_iff, Function.comp_apply,
    Prod.mk.injEq] at left
  obtain ⟨⟨moved, unmuted⟩, rfl⟩ := left
  have told : turn.flags = PollFlags.failed := by
    rw [heard 0 turn rfl, answered, unmuted, full]
    rfl
  have failed : turn.failed = true := by
    rw [Turn.failed, told]
    rfl
  refine ⟨tracked, answer, something, [turn], by simp [moved], ?_⟩
  simp [((apt turn (by simp)).muted failed).1]

end Supervisor

end Superserver
