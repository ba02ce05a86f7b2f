import Superserver.Proofs.Diagnostics.Forwarding
import Superserver.Proofs.Supervisor.Admission
import Superserver.Proofs.Table.Lockstep

/-!
What the passes of a supervisor do to its table, as a list of actions. Main statement: whatever the
system answers, a machine that checks every step carries those actions out and arrives at the
supervisor's table, in which slots and workers are in step.
-/

namespace Superserver

open ProcessTable

namespace Supervisor

/-! ### The actions of each phase -/

def reapActions (kernel : Kernel σ) : (unasked index : Nat) → ProcessTable → σ → List Action
  | 0, _, _, _ => []
  | unasked + 1, index, table, state =>
      match table.workers[index]? with
      | none => []
      | some worker =>
          match lastReports kernel worker state with
          | (none, state) => reapActions kernel unasked (index + 1) table state
          | (some _, state) =>
              .remove index :: reapActions kernel unasked index (table.remove index).2
                (kernel.close worker.diagnostics state)

def forwardActions (kernel : Kernel σ) :
    (unattended index : Nat) → ProcessTable → σ → List Action
  | 0, _, _, _ => []
  | unattended + 1, index, table, state =>
      match table.workers[index]? with
      | none => []
      | some worker =>
          let (attended, state) := worker.attend kernel (table.returned index) state
          let table := table.update index attended.worker
          .returned index :: .refill index attended.worker.buffer ::
            if attended.ended then
              .mute index :: forwardActions kernel unattended (index + 1) (table.mute index) state
            else forwardActions kernel unattended (index + 1) table state

def admissionActions (kernel : Kernel σ) (listener : Descriptor) (command : ShellCommand)
    (table : ProcessTable) (state : σ) : List Action :=
  match kernel.acceptRemote listener state with
  | (.error _, _) => []
  | (.ok (connection, peer), state) =>
      match kernel.nonblockingPipe state with
      | (.error _, _) => []
      | (.ok _, opened) =>
          .reserve (table.reserve kernel opened).1.isOk ::
            match startWorker kernel command connection peer.label table state with
            | (_, .ok worker, _, _) => [.push worker]
            | (_, .error _, _, _) => []

def responseActions (kernel : Kernel σ) (supervisor : Supervisor) (accepting : Bool)
    (table : ProcessTable) (state : σ) : List Action :=
  let forwarded := forward kernel table state
  forwardActions kernel table.length 0 table state ++
    if accepting then
      .listenerReady ::
        if forwarded.table.listenerReady then
          admissionActions kernel supervisor.listener.descriptor supervisor.command
            forwarded.table forwarded.state
        else []
    else []

def tickActions (kernel : Kernel σ) (supervisor : Supervisor) (state : σ) : List Action :=
  let reaped := reap kernel supervisor.table state
  let accepting := supervisor.isAccepting reaped.table
  let timeout := waitTimeout reaped.removed accepting reaped.table.anyMuted
  let table := reaped.table.cleared
  reapActions kernel supervisor.table.length 0 supervisor.table state ++
    .pollSlots accepting ::
      match kernel.poll (table.pollSlots accepting) timeout reaped.state with
      | (.error _, _) => []
      | (.ok flags, state) =>
          let table := table.polled accepting flags
          .answer accepting flags ::
            if table.slots.all fun slot => slot.returned = PollFlags.none then []
            else responseActions kernel supervisor accepting table state

def passesActions (kernel : Kernel σ) (supervisor : Supervisor) (state : σ) : Nat → List Action
  | 0 => []
  | count + 1 =>
      let ran := passes kernel supervisor state count
      passesActions kernel supervisor state count ++ tickActions kernel ran.supervisor ran.state

/-! ### From the actions to the table -/

/-- Whether room was made or not, the actions are allowed and lead from one table to another. -/
structure Leads (actions : List Action) (table after : ProcessTable) : Prop where
  orderly : ∀ reserved, Orderly actions { table, reserved }
  reached : ∀ reserved, (performAll actions { table, reserved }).table = after

namespace Leads

variable {table middle after : ProcessTable}

theorem nil (table : ProcessTable) : Leads [] table table :=
  ⟨fun _ => trivial, fun _ => rfl⟩

theorem append {first second : List Action} (begun : Leads first table middle)
    (continued : Leads second middle after) : Leads (first ++ second) table after := by
  have arrived : ∀ reserved, performAll first { table, reserved } =
      { table := middle,
        reserved := (performAll first { table, reserved }).reserved } := by
    intro reserved
    rw [← begun.reached reserved]
  constructor
  · intro reserved
    rw [orderly_append, arrived]
    exact ⟨begun.orderly reserved, continued.orderly _⟩
  · intro reserved
    rw [performAll_append, arrived]
    exact continued.reached _

theorem cons {action : Action} {actions : List Action}
    (allowed : ∀ reserved, action.Allowed { table, reserved })
    (same : ∀ reserved, (action.perform { table, reserved }).table =
      (action.perform { table, reserved := false }).table)
    (continued : Leads actions (action.perform { table, reserved := false }).table after) :
    Leads (action :: actions) table after := by
  have begun : Leads [action] table (action.perform { table, reserved := false }).table :=
    ⟨fun reserved => ⟨allowed reserved, trivial⟩, same⟩
  exact begun.append continued

theorem lockstep {listener : Int} {actions : List Action} (leads : Leads actions table after)
    (sound : Lockstep listener table) : Lockstep listener after := by
  have start : Booked.Sound listener { table, reserved := false } := ⟨sound, by simp⟩
  rw [← leads.reached false]
  exact (performAll_sound start (leads.orderly false)).lockstep

end Leads

theorem reapFrom_leads (kernel : Kernel σ) (unasked index : Nat) (table : ProcessTable)
    (state : σ) :
    Leads (reapActions kernel unasked index table state) table
      (reapFrom kernel unasked index table state).table := by
  induction unasked generalizing index table state with
  | zero => exact Leads.nil table
  | succ unasked ih =>
      cases found : table.workers[index]? with
      | none =>
          simp only [reapActions, reapFrom, found]
          exact Leads.nil table
      | some worker =>
          simp only [reapActions, reapFrom, found]
          rcases lastReports kernel worker state with ⟨last, after⟩
          cases last with
          | none => exact ih (index + 1) table after
          | some reports =>
              exact Leads.cons (fun _ => trivial) (fun _ => rfl) (ih index _ _)

theorem update_eq_refill {table : ProcessTable} {index : Nat} {worker changed : Worker}
    (found : table.workers[index]? = some worker) (alike : worker.Alike changed) :
    table.update index changed = table.refill index changed.buffer := by
  rw [refill, found, alike.eq]

theorem forwardFrom_leads (kernel : Kernel σ) {listener : Int} (unattended index : Nat)
    (table : ProcessTable) (sound : Lockstep listener table) (state : σ) :
    Leads (forwardActions kernel unattended index table state) table
      (forwardFrom kernel unattended index table state).table := by
  induction unattended generalizing index table state with
  | zero => exact Leads.nil table
  | succ unattended ih =>
      cases found : table.workers[index]? with
      | none =>
          simp only [forwardActions, forwardFrom, found]
          exact Leads.nil table
      | some worker =>
          have alike := worker.alike_attend kernel (table.returned index) state
          simp only [forwardActions, forwardFrom, found]
          generalize worker.attend kernel (table.returned index) state = result at alike ⊢
          obtain ⟨attended, after⟩ := result
          simp only at alike ⊢
          rw [update_eq_refill found alike]
          have refilled := sound.refill index attended.worker.buffer
          refine Leads.cons (fun _ => sound.lt_wordMax_of_worker found) (fun _ => rfl) ?_
          refine Leads.cons (fun _ => trivial) (fun _ => rfl) ?_
          split
          · exact Leads.cons (fun _ => trivial) (fun _ => rfl)
              (ih (index + 1) _ (refilled.mute index) _)
          · exact ih (index + 1) _ refilled _

theorem performed_of_reserved {kernel : Kernel σ} {table grown : ProcessTable} {state : σ}
    {notices : List Notice} (made : (table.reserve kernel state).1 = .ok (notices, grown))
    (reserved : Bool) :
    (Action.reserve true).perform { table, reserved } = { table := grown, reserved := true } := by
  simp [Action.perform, reserveOne_of_reserve made]

theorem refused_leads {kernel : Kernel σ} {table : ProcessTable} {state : σ} {error : TableError}
    (refused : (table.reserve kernel state).1 = .error error) :
    Leads [.reserve false] table table := by
  constructor
  · exact fun _ => ⟨trivial, trivial⟩
  · intro reserved
    simp only [performAll, List.foldl_cons, List.foldl_nil, Action.perform]
    rcases reserve_cases kernel table state with same | ⟨full, _⟩
    · rw [← same, refused]
    · cases made : table.reserveOne with
      | error error => rfl
      | ok grown =>
          obtain ⟨_, _, space⟩ | ⟨capacity, grew, _⟩ := reserveOne_cases made
          · omega
          · simp [grew]

theorem reserved_leads {kernel : Kernel σ} {table grown : ProcessTable} {state : σ}
    {notices : List Notice} (made : (table.reserve kernel state).1 = .ok (notices, grown)) :
    Leads [.reserve true] table grown := by
  constructor
  · exact fun _ => ⟨trivial, trivial⟩
  · intro reserved
    simp [performAll, performed_of_reserved made]

theorem pushed_leads {kernel : Kernel σ} {table grown : ProcessTable} {state : σ}
    {notices : List Notice} {worker : Worker}
    (made : (table.reserve kernel state).1 = .ok (notices, grown))
    (fresh : worker.muted = false) :
    Leads [.reserve true, .push worker] table (grown.push worker) := by
  constructor
  · intro reserved
    refine ⟨trivial, ?_, trivial⟩
    rw [performed_of_reserved made]
    exact ⟨rfl, fresh⟩
  · intro reserved
    simp only [performAll, List.foldl_cons, performed_of_reserved made]
    rfl

theorem admitNext_leads (kernel : Kernel σ) (listener : Descriptor) (command : ShellCommand)
    (table : ProcessTable) (state : σ) :
    Leads (admissionActions kernel listener command table state) table
      (admitNext kernel listener command table state).table := by
  rcases arrived : kernel.acceptRemote listener state with ⟨accepted, after⟩
  cases accepted with
  | error error =>
      simp only [admissionActions, admitNext, arrived]
      split <;> exact Leads.nil table
  | ok accepted =>
      simp only [admissionActions, admitNext, arrived]
      have starting := startWorker_starting kernel command accepted.1 accepted.2.label table after
      generalize startWorker kernel command accepted.1 accepted.2.label table after = started
        at starting ⊢
      rcases piped : kernel.nonblockingPipe after with ⟨ends, last⟩
      cases starting with
      | unopened unavailable =>
          rw [piped] at unavailable
          subst unavailable
          exact Leads.nil table
      | refused opened refused =>
          rw [piped] at opened refused
          subst opened
          simp only [refused]
          exact refused_leads refused
      | failed opened made =>
          rw [piped] at opened made
          subst opened
          simp only [made]
          exact reserved_leads made
      | started opened made =>
          rw [piped] at opened made
          subst opened
          simp only [made]
          exact pushed_leads made rfl

theorem respond_leads (kernel : Kernel σ) (supervisor : Supervisor) {listener : Int}
    (accepting : Bool) (reaped : Reaped σ) (table : ProcessTable) (sound : Lockstep listener table)
    (state : σ) :
    Leads (responseActions kernel supervisor accepting table state) table
      (respond kernel supervisor accepting reaped table state).supervisor.table := by
  have forwarded : Leads (forwardActions kernel table.length 0 table state) table
      (forward kernel table state).table :=
    forwardFrom_leads kernel table.length 0 table sound state
  unfold responseActions respond
  cases accepting with
  | false =>
      simp only [Bool.false_and]
      exact forwarded.append (Leads.nil _)
  | true =>
      cases ready : (forward kernel table state).table.listenerReady with
      | false =>
          simp only [ready]
          exact forwarded.append (Leads.cons (fun _ => trivial) (fun _ => rfl) (Leads.nil _))
      | true =>
          simp only [ready]
          exact forwarded.append (Leads.cons (fun _ => trivial) (fun _ => rfl)
            (admitNext_leads kernel _ _ _ _))

theorem tick_leads (kernel : Kernel σ) (supervisor : Supervisor) {listener : Int}
    (sound : Lockstep listener supervisor.table) (state : σ) :
    Leads (tickActions kernel supervisor state) supervisor.table
      (supervisor.tick kernel state).supervisor.table := by
  have reaped : Leads (reapActions kernel supervisor.table.length 0 supervisor.table state)
      supervisor.table (reap kernel supervisor.table state).table :=
    reapFrom_leads kernel supervisor.table.length 0 supervisor.table state
  have left := (reaped.lockstep sound).cleared
  unfold tickActions tick
  refine reaped.append (Leads.cons (fun _ => trivial) (fun _ => rfl) ?_)
  generalize reap kernel supervisor.table state = reaped at left ⊢
  simp only
  generalize kernel.poll _ _ reaped.state = polled
  obtain ⟨found, after⟩ := polled
  cases found with
  | error error =>
      simp only
      split <;> exact Leads.nil _
  | ok flags =>
      refine Leads.cons (fun _ => trivial) (fun _ => rfl) ?_
      simp only
      split
      · exact Leads.nil _
      · exact respond_leads kernel supervisor _ _ _ (left.polled _ flags) _

theorem passes_leads (kernel : Kernel σ) {supervisor : Supervisor} {listener : Int}
    (sound : Lockstep listener supervisor.table) (state : σ) (count : Nat) :
    Leads (passesActions kernel supervisor state count) supervisor.table
      (passes kernel supervisor state count).supervisor.table := by
  induction count with
  | zero => exact Leads.nil _
  | succ count ih => exact ih.append (tick_leads kernel _ (ih.lockstep sound) _)

theorem passes_leads_of_new (kernel : Kernel σ) (listener : Listener) (command : ShellCommand)
    (limit : AdmissionLimit) (state : σ) (count : Nat) :
    Leads (passesActions kernel (.new listener command limit) state count)
      (.new listener.descriptor maxEntries)
      (passes kernel (.new listener command limit) state count).supervisor.table :=
  passes_leads kernel (Lockstep.new listener.descriptor maxEntries) state count

theorem lockstep_passes (kernel : Kernel σ) (listener : Listener) (command : ShellCommand)
    (limit : AdmissionLimit) (state : σ) (count : Nat) :
    Lockstep listener.descriptor
      (passes kernel (.new listener command limit) state count).supervisor.table :=
  (passes_leads_of_new kernel listener command limit state count).lockstep
    (Lockstep.new listener.descriptor maxEntries)

end Supervisor

end Superserver
