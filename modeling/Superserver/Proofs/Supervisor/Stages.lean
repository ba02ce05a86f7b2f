import Superserver.Proofs.Supervisor.Turns

/-!
A pass up to its admission. Main statement: a pass is the attention to its workers, and after it one
admission if the listener was polled and found ready.
-/

namespace Superserver

namespace Supervisor

open ProcessTable

namespace Look

variable {σ : Type}

def turns (kernel : Kernel σ) (look : Look σ) : List (Turn σ) :=
  match look.answer with
  | (.error _, _) => []
  | (.ok flags, state) =>
      if look.foundNothing flags then []
      else turnsFrom kernel (look.table flags) 0 look.reaped.table.workers state

/-- What the pass has come to when everybody has been attended to. -/
def attended (kernel : Kernel σ) (look : Look σ) : Forwarded σ :=
  match look.answer with
  | (.error _, state) => { table := look.reaped.table.cleared, state }
  | (.ok flags, state) =>
      if look.foundNothing flags then { table := look.table flags, state }
      else forward kernel (look.table flags) state

def tries (kernel : Kernel σ) (look : Look σ) : Bool :=
  look.accepting && (look.attended kernel).table.listenerReady

def outcome (kernel : Kernel σ) (look : Look σ) : Except TickError Outcome :=
  match look.answer.1 with
  | .error error =>
      if error.kind = .interrupted then .ok (.ofActive look.reaped.removed)
      else .error (.poll error)
  | .ok _ => .ok (.ofActive (look.reaped.removed || (look.attended kernel).active))

end Look

theorem listenerReady_of_nothing {table : ProcessTable}
    (nothing : (table.slots.all fun slot => slot.returned = PollFlags.none) = true) :
    table.listenerReady = false := by
  unfold listenerReady
  cases shape : table.slots with
  | nil => rfl
  | cons slot rest =>
      have first : slot.returned = PollFlags.none := by simp_all
      simp only [first]
      rfl

section

variable {σ : Type} (kernel : Kernel σ) (supervisor : Supervisor) (state : σ)

theorem listenerReady_cleared (table : ProcessTable) : table.cleared.listenerReady = false := by
  apply listenerReady_of_nothing
  simp [ProcessTable.cleared, PollSlot.cleared]

theorem tick_of_shut (shut : (supervisor.look kernel state).tries kernel = false) :
    let look := supervisor.look kernel state
    let sent := look.attended kernel
    supervisor.tick kernel state =
      { supervisor := { supervisor with table := sent.table }
        notices := look.reaped.notices ++ sent.notices
        outcome := look.outcome kernel
        state := sent.state } := by
  intro look sent
  rcases answered : look.answer with ⟨flags, after⟩
  cases flags with
  | error error =>
      have ticked : supervisor.tick kernel state = _ := tick_of_error answered
      have stands : sent = { table := look.reaped.table.cleared, state := after } := by
        simp only [sent, Look.attended, answered]
      rw [ticked, stands]
      simp [Look.outcome, answered, look]
  | ok flags =>
      cases nothing : look.foundNothing flags with
      | true =>
          have ticked : supervisor.tick kernel state = _ := tick_of_nothing answered nothing
          have stands : sent = { table := look.table flags, state := after } := by
            simp only [sent, Look.attended, answered, nothing, if_true]
          rw [ticked, stands]
          simp [Look.outcome, Look.attended, answered, nothing, look]
      | false =>
          have ticked : supervisor.tick kernel state = _ := tick_of_found answered nothing
          have stands : sent = forward kernel (look.table flags) after := by
            simp only [sent, Look.attended, answered, nothing, Bool.false_eq_true, if_false]
          have unready : ¬(look.accepting &&
              (forward kernel (look.table flags) after).table.listenerReady) = true := by
            rw [← stands]
            exact Bool.eq_false_iff.mp shut
          have same : look.attended kernel = forward kernel (look.table flags) after := stands
          rw [ticked, stands]
          simp only [respond, Look.outcome, same]
          rw [if_neg unready, answered]

theorem tick_of_tried (tried : (supervisor.look kernel state).tries kernel = true) :
    let look := supervisor.look kernel state
    let sent := look.attended kernel
    let admitted := admitNext kernel supervisor.listener.descriptor supervisor.command sent.table
      sent.state
    supervisor.tick kernel state =
      { supervisor := { supervisor with table := admitted.table }
        notices := look.reaped.notices ++ sent.notices ++ admitted.notices
        outcome := admitted.outcome.map fun one =>
          .ofActive (look.reaped.removed || sent.active || one)
        state := admitted.state } := by
  intro look sent admitted
  obtain ⟨accepting, ready⟩ : look.accepting = true ∧ sent.table.listenerReady = true := by
    simpa [Look.tries] using tried
  rcases answered : look.answer with ⟨flags, after⟩
  cases flags with
  | error error =>
      have stands : sent.table = look.reaped.table.cleared := by
        simp only [sent, Look.attended, answered]
      rw [stands, listenerReady_cleared] at ready
      cases ready
  | ok flags =>
      cases nothing : look.foundNothing flags with
      | true =>
          have stands : sent.table = look.table flags := by
            simp only [sent, Look.attended, answered, nothing, if_true]
          rw [stands, listenerReady_of_nothing nothing] at ready
          cases ready
      | false =>
          have ticked : supervisor.tick kernel state = _ := tick_of_found answered nothing
          have stands : forward kernel (look.table flags) after = sent := by
            simp only [sent, Look.attended, answered, nothing, Bool.false_eq_true, if_false]
          rw [ticked]
          simp only [respond]
          rw [stands, if_pos (by
            rw [ready, Bool.and_true]
            exact accepting)]

/-- Either nobody has a turn or everybody has one. -/
theorem attended_cases {listener : Int} (sound : Lockstep listener supervisor.table) :
    let look := supervisor.look kernel state
    let sent := look.attended kernel
    (look.turns kernel = [] ∧ sent.table.workers = look.reaped.table.workers ∧
      sent.notices = [] ∧ sent.state = look.answer.2 ∧
      ∀ flags, look.answer.1 = .ok flags → look.foundNothing flags = true) ∨
    ∃ flags, look.answer.1 = .ok flags ∧ look.foundNothing flags = false ∧
      look.turns kernel =
        turnsFrom kernel (look.table flags) 0 look.reaped.table.workers look.answer.2 ∧
      sent = forward kernel (look.table flags) look.answer.2 ∧
      MadeOf sent (look.turns kernel) 0 (look.table flags) look.answer.2 := by
  intro look sent
  have cleared : Lockstep listener look.reaped.table.cleared :=
    (lockstep_look kernel sound state).cleared
  rcases answered : look.answer with ⟨flags, after⟩
  cases flags with
  | error error =>
      left
      simp only [sent, Look.turns, Look.attended, answered]
      refine ⟨trivial, rfl, trivial, trivial, ?_⟩
      intro flags same
      cases same
  | ok flags =>
      cases nothing : look.foundNothing flags with
      | true =>
          left
          simp only [sent, Look.turns, Look.attended, answered, nothing, if_true]
          refine ⟨trivial, rfl, trivial, trivial, ?_⟩
          intro others same
          cases same
          exact nothing
      | false =>
          right
          refine ⟨flags, rfl, nothing, ?_, ?_, ?_⟩
          · simp only [Look.turns, answered, nothing, Bool.false_eq_true, if_false]
          · simp only [sent, Look.attended, answered, nothing, Bool.false_eq_true, if_false]
          · simp only [sent, Look.turns, Look.attended, answered, nothing, Bool.false_eq_true,
              if_false]
            exact forwardFrom_madeOf kernel (look.table flags) look.reaped.table.workers 0
              (look.table flags) after (fun _ => rfl) rfl
              (cleared.polled look.accepting flags).length_slots

theorem turns_spec {listener : Int} (sound : Lockstep listener supervisor.table) :
    let look := supervisor.look kernel state
    let sent := look.attended kernel
    (∀ turn ∈ look.turns kernel, turn.Apt kernel) ∧
      sent.notices = (look.turns kernel).flatMap Turn.notices ∧
      Turn.Consecutive (look.turns kernel) look.answer.2 sent.state := by
  intro look sent
  rcases attended_cases kernel supervisor state sound with ⟨nobody, _, silent, still, _⟩ |
    ⟨flags, _, _, turns, _, made⟩
  · have nobody : look.turns kernel = [] := nobody
    rw [nobody]
    exact ⟨by simp, silent, still.symm⟩
  · refine ⟨?_, made.notices, made.consecutive⟩
    have turns : look.turns kernel = _ := turns
    rw [turns]
    exact (turnsFrom_spec kernel (look.table flags) 0 look.reaped.table.workers look.answer.2).2.2

theorem Turn.Apt.diagnostics_left {kernel : Kernel σ} {turn : Turn σ} (apt : turn.Apt kernel) :
    turn.left.diagnostics = turn.worker.diagnostics := by
  have alike := turn.worker.alike_attend kernel turn.flags turn.before
  rw [apt.attends] at alike
  unfold Turn.left
  split
  · exact alike.diagnostics
  · exact alike.diagnostics

/-- Who a worker is does not change by attention. -/
theorem named_attended {listener : Int} (sound : Lockstep listener supervisor.table) :
    let look := supervisor.look kernel state
    let sent := look.attended kernel
    sent.table.workers.map (fun worker => (worker.pid, worker.diagnostics)) =
      look.reaped.table.workers.map fun worker => (worker.pid, worker.diagnostics) := by
  intro look sent
  rcases attended_cases kernel supervisor state sound with ⟨_, kept, _⟩ |
    ⟨flags, _, _, turns, _, made⟩
  · have kept : sent.table.workers = look.reaped.table.workers := kept
    rw [kept]
  · obtain ⟨workers, _, apt⟩ := turnsFrom_spec kernel (look.table flags) 0
      look.reaped.table.workers look.answer.2
    rw [← turns] at workers apt
    have left : sent.table.workers = (look.turns kernel).map Turn.left := made.workers
    have workers : (look.turns kernel).map (·.worker) = look.reaped.table.workers := workers
    rw [left, ← workers, List.map_map, List.map_map]
    apply List.map_congr_left
    intro turn member
    simp only [Function.comp_apply, (apt turn member).pid_left, (apt turn member).diagnostics_left]

end

end Supervisor

end Superserver
