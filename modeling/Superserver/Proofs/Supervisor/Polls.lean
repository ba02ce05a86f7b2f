import Superserver.Proofs.Table.Passes
import Superserver.Proofs.Table.Polling

/-!
The poll of a pass: what it is asked for and how the pass goes on with the answer. Main statement: a
pass ends with the poll unless something was found, and then it goes on with what this poll found
and nothing else.
-/

namespace Superserver

namespace Supervisor

open ProcessTable

structure Look (σ : Type) where
  reaped : Reaped σ
  accepting : Bool
  timeout : Timeout
  answer : Except SystemError (List PollFlags) × σ

def look (kernel : Kernel σ) (supervisor : Supervisor) (state : σ) : Look σ :=
  let reaped := reap kernel supervisor.table state
  let accepting := supervisor.isAccepting reaped.table
  let timeout := waitTimeout reaped.removed accepting reaped.table.anyMuted
  { reaped, accepting, timeout
    answer := kernel.poll (reaped.table.cleared.pollSlots accepting) timeout reaped.state }

namespace Look

def offered (look : Look σ) : List PollSlot :=
  look.reaped.table.cleared.pollSlots look.accepting

def table (look : Look σ) (flags : List PollFlags) : ProcessTable :=
  look.reaped.table.cleared.polled look.accepting flags

def foundNothing (look : Look σ) (flags : List PollFlags) : Bool :=
  (look.table flags).slots.all fun slot => slot.returned = PollFlags.none

end Look

section

variable {σ : Type} {kernel : Kernel σ} {supervisor : Supervisor} {state after : σ}
  {flags : List PollFlags} {error : SystemError}

/-! ### The pass after the poll -/

theorem tick_of_error (failed : (supervisor.look kernel state).answer = (.error error, after)) :
    supervisor.tick kernel state =
      { supervisor :=
          { supervisor with table := (supervisor.look kernel state).reaped.table.cleared }
        notices := (supervisor.look kernel state).reaped.notices
        outcome :=
          if error.kind = .interrupted then
            .ok (.ofActive (supervisor.look kernel state).reaped.removed)
          else .error (.poll error)
        state := after } := by
  simp only [look] at failed
  simp only [tick, failed, look]
  split <;> rfl

theorem tick_of_nothing (answered : (supervisor.look kernel state).answer = (.ok flags, after))
    (nothing : (supervisor.look kernel state).foundNothing flags = true) :
    supervisor.tick kernel state =
      { supervisor := { supervisor with table := (supervisor.look kernel state).table flags }
        notices := (supervisor.look kernel state).reaped.notices
        outcome := .ok (.ofActive (supervisor.look kernel state).reaped.removed)
        state := after } := by
  simp only [Look.foundNothing, Look.table, look] at answered nothing
  simp only [tick, answered, nothing, Look.table, look, if_true]

theorem tick_of_found (answered : (supervisor.look kernel state).answer = (.ok flags, after))
    (something : (supervisor.look kernel state).foundNothing flags = false) :
    supervisor.tick kernel state =
      respond kernel supervisor (supervisor.look kernel state).accepting
        (supervisor.look kernel state).reaped ((supervisor.look kernel state).table flags)
        after := by
  simp only [Look.foundNothing, Look.table, look] at answered something
  simp only [tick, answered, something, Look.table, look]
  rfl

/-! ### The polled table -/

theorem lockstep_reap {listener : Int} (kernel : Kernel σ) {table : ProcessTable}
    (sound : Lockstep listener table) (state : σ) :
    Lockstep listener (reap kernel table state).table :=
  (reapFrom_leads kernel table.length 0 table state).lockstep sound

theorem lockstep_look {listener : Int} (kernel : Kernel σ)
    (sound : Lockstep listener supervisor.table) (state : σ) :
    Lockstep listener (supervisor.look kernel state).reaped.table :=
  lockstep_reap kernel sound state

theorem descriptors_offered {listener : Int} (kernel : Kernel σ)
    (sound : Lockstep listener supervisor.table) (state : σ) :
    (supervisor.look kernel state).offered.map (·.descriptor) =
      (if (supervisor.look kernel state).accepting then [listener] else []) ++
        (supervisor.look kernel state).reaped.table.workers.map Worker.watched :=
  descriptors_pollSlots (lockstep_look kernel sound state).cleared _

end

end Supervisor

end Superserver
