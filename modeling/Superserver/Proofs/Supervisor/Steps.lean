import Superserver.Proofs.Diagnostics.Forwarding
import Superserver.Proofs.Supervisor.Admission
import Superserver.Proofs.Table.Lockstep

/-!
A pass of the supervisor step by step: what each step does to the workers and what it reports.
Main statement: a pass is a number of steps that bring no worker, and then an attempt to bring one.
-/

namespace Superserver

namespace Supervisor

open Kernel

def Asides (notices : List Notice) : Prop :=
  ∀ notice ∈ notices, ∀ pid report, notice ≠ .worker pid report

/-- One thing that a pass does to the workers, what it reports of it, and the state after it. -/
inductive Step (kernel : Kernel σ) :
    List Worker → σ → List Notice → List Worker → σ → Prop where
  | quiet {workers : List Worker} {state after : σ} :
      Quiet kernel state after → Step kernel workers state [] workers after
  | attended {workers : List Worker} {state after : σ} {index : Nat} {worker : Worker}
      {flags : PollFlags} {attended : Worker.Attended} {changed : Worker} :
      workers[index]? = some worker → worker.attend kernel flags state = (attended, after) →
        changed = attended.worker ∨ changed = attended.worker.mute →
        Step kernel workers state (attended.reports.map (.worker worker.pid))
          (workers.set index changed) after
  | exited {workers : List Worker} {state after : σ} {index : Nat} {worker emptied : Worker}
      {reports : List Report} {status : Int} :
      workers[index]? = some worker →
        worker.drain kernel Worker.drainReads state = (reports, emptied, after) →
        Step kernel workers state
          (reports.map (.worker worker.pid) ++ [.worker worker.pid (.exited status)])
          (swapRemove index workers) after
  | lost {workers : List Worker} {state : σ} {index : Nat} {worker : Worker}
      {error : SystemError} :
      workers[index]? = some worker →
        Step kernel workers state [.worker worker.pid (.lost error)] (swapRemove index workers)
          state

inductive Steps (kernel : Kernel σ) (workers : List Worker) (state : σ) :
    List Notice → List Worker → σ → Prop where
  | refl : Steps kernel workers state [] workers state
  | step {earlier later : List Notice} {middle last : List Worker} {between after : σ} :
      Steps kernel workers state earlier middle between →
        Step kernel middle between later last after →
        Steps kernel workers state (earlier ++ later) last after

inductive Admission (kernel : Kernel σ) (workers : List Worker) (state : σ) :
    List Notice → List Worker → σ → Prop where
  | none {notices : List Notice} {after : σ} :
      Asides notices → Quiet kernel state after →
        Admission kernel workers state notices workers after
  | one {asides : List Notice} {before spawned after : σ} {request : SpawnRequest} {pid : Pid}
      {diagnostics : Descriptor} {remote : String} :
      Asides asides → Quiet kernel state before →
        kernel.spawn request before = (.ok pid, spawned) → Quiet kernel spawned after →
        Admission kernel workers state (asides ++ [.worker pid (.created remote)])
          (workers ++ [{ pid := pid, diagnostics := diagnostics }]) after

namespace Steps

variable {kernel : Kernel σ} {workers middle last : List Worker} {state between after : σ}
  {earlier later : List Notice}

theorem trans (steps : Steps kernel workers state earlier middle between)
    (next : Steps kernel middle between later last after) :
    Steps kernel workers state (earlier ++ later) last after := by
  induction next with
  | refl => simpa using steps
  | step _ step ih =>
      rw [← List.append_assoc]
      exact ih.step step

theorem cons (step : Step kernel workers state earlier middle between)
    (next : Steps kernel middle between later last after) :
    Steps kernel workers state (earlier ++ later) last after :=
  Steps.trans (Steps.refl.step step) next

end Steps

section

variable {σ : Type} {kernel : Kernel σ} {workers last : List Worker} {state after : σ}
  {told : List Notice}

theorem created_not_mem_of_step (step : Step kernel workers state told last after) (pid : Pid)
    (remote : String) : .worker pid (.created remote) ∉ told := by
  intro member
  cases step with
  | quiet quiet => cases member
  | @attended _ index worker flags attended changed found attends change =>
      have about := worker.aboutPipe_attend kernel state flags
      rw [attends] at about
      obtain ⟨report, listed, same⟩ := List.mem_map.mp member
      cases same
      cases about _ listed
  | @exited _ index worker emptied reports status found drains =>
      have about := worker.aboutPipe_drain kernel state Worker.drainReads
      rw [drains] at about
      rcases List.mem_append.mp member with member | member
      · obtain ⟨report, listed, same⟩ := List.mem_map.mp member
        cases same
        cases about _ listed
      · cases List.mem_singleton.mp member
  | lost found => cases List.mem_singleton.mp member

theorem created_not_mem_of_steps (steps : Steps kernel workers state told last after) (pid : Pid)
    (remote : String) : .worker pid (.created remote) ∉ told := by
  induction steps with
  | refl => exact List.not_mem_nil
  | step _ step ih =>
      intro member
      rcases List.mem_append.mp member with member | member
      · exact ih member
      · exact created_not_mem_of_step step pid remote member

end

section

variable {σ : Type} (kernel : Kernel σ)

theorem lastReports_cases (worker : Worker) (state : σ) :
    (∃ after, kernel.wait worker.pid state = (.ok none, after) ∧
      lastReports kernel worker state = (none, after)) ∨
    (∃ status between reports emptied after,
      kernel.wait worker.pid state = (.ok (some status), between) ∧
      worker.drain kernel Worker.drainReads between = (reports, emptied, after) ∧
      lastReports kernel worker state = (some (reports ++ [.exited status]), after)) ∨
    (∃ error after, kernel.wait worker.pid state = (.error error, after) ∧
      lastReports kernel worker state = (some [.lost error], after)) := by
  rcases answer : kernel.wait worker.pid state with ⟨status, after⟩
  cases status with
  | error error => exact Or.inr (Or.inr ⟨error, after, rfl, by simp [lastReports, answer]⟩)
  | ok status =>
      cases status with
      | none => exact Or.inl ⟨after, rfl, by simp [lastReports, answer]⟩
      | some status =>
          rcases drained : worker.drain kernel Worker.drainReads after
            with ⟨reports, emptied, last⟩
          exact Or.inr (Or.inl ⟨status, after, reports, emptied, last, rfl, drained,
            by simp [lastReports, answer, drained]⟩)

theorem quiet_of_wait {worker : Worker} {state after : σ}
    {answer : Except SystemError (Option Int)}
    (waited : kernel.wait worker.pid state = (answer, after)) : Quiet kernel state after := by
  have quiet : Quiet kernel state (kernel.wait worker.pid state).2 := Quiet.refl.wait worker.pid
  rwa [waited] at quiet

theorem running_steps {workers : List Worker} {worker : Worker} {state after : σ}
    (asked : lastReports kernel worker state = (none, after)) :
    Steps kernel workers state [] workers after := by
  rcases lastReports_cases kernel worker state with ⟨_, waited, answer⟩ |
    ⟨_, _, _, _, _, _, _, answer⟩ | ⟨_, _, _, answer⟩
  · cases asked.symm.trans answer
    exact Steps.refl.step (.quiet (quiet_of_wait kernel waited))
  · cases asked.symm.trans answer
  · cases asked.symm.trans answer

theorem leaving_steps {table : ProcessTable} {index : Nat} {worker : Worker} {state after : σ}
    {reports : List Report} (found : table.workers[index]? = some worker)
    (asked : lastReports kernel worker state = (some reports, after)) :
    Steps kernel table.workers state (reports.map (.worker worker.pid))
      (table.remove index).2.workers (kernel.close worker.diagnostics after) := by
  have removed : (table.remove index).2.workers = swapRemove index table.workers := by
    simp [ProcessTable.remove, found]
  have left : Steps kernel table.workers state (reports.map (.worker worker.pid))
      (swapRemove index table.workers) after := by
    rcases lastReports_cases kernel worker state with ⟨_, _, answer⟩ |
      ⟨status, _, _, _, _, waited, drained, answer⟩ | ⟨error, _, waited, answer⟩
    · cases asked.symm.trans answer
    · cases asked.symm.trans answer
      rw [List.map_append]
      exact (Steps.refl.step (.quiet (quiet_of_wait kernel waited))).step (.exited found drained)
    · cases asked.symm.trans answer
      exact (Steps.refl.step (.quiet (quiet_of_wait kernel waited))).step (.lost found)
  have closed := left.step (.quiet (Quiet.refl.close worker.diagnostics))
  rwa [List.append_nil, ← removed] at closed

theorem reapFrom_steps (unasked index : Nat) (table : ProcessTable) (state : σ) :
    Steps kernel table.workers state (reapFrom kernel unasked index table state).notices
      (reapFrom kernel unasked index table state).table.workers
      (reapFrom kernel unasked index table state).state := by
  induction unasked generalizing index table state with
  | zero => exact Steps.refl
  | succ unasked ih =>
      cases found : table.workers[index]? with
      | none =>
          simp only [reapFrom, found]
          exact Steps.refl
      | some worker =>
          rcases asked : lastReports kernel worker state with ⟨last, after⟩
          simp only [reapFrom, found, asked]
          cases last with
          | none => exact (running_steps kernel asked).trans (ih (index + 1) table after)
          | some reports => exact (leaving_steps kernel found asked).trans (ih index _ _)

theorem workers_mute_update {table : ProcessTable} {index : Nat} {worker : Worker}
    (found : table.workers[index]? = some worker) (changed : Worker) :
    ((table.update index changed).mute index).workers =
      table.workers.set index changed.mute := by
  have inside : index < table.workers.length := (List.getElem?_eq_some_iff.mp found).1
  simp [ProcessTable.mute, ProcessTable.update, inside]

theorem forwardFrom_steps (unattended index : Nat) (table : ProcessTable) (state : σ) :
    Steps kernel table.workers state (forwardFrom kernel unattended index table state).notices
      (forwardFrom kernel unattended index table state).table.workers
      (forwardFrom kernel unattended index table state).state := by
  induction unattended generalizing index table state with
  | zero => exact Steps.refl
  | succ unattended ih =>
      cases found : table.workers[index]? with
      | none =>
          simp only [forwardFrom, found]
          exact Steps.refl
      | some worker =>
          rcases result : worker.attend kernel (table.returned index) state with ⟨attended, after⟩
          simp only [forwardFrom, found, result]
          have attends : ∀ changed, changed = attended.worker ∨ changed = attended.worker.mute →
              Step kernel table.workers state (attended.reports.map (.worker worker.pid))
                (table.workers.set index changed) after :=
            fun changed => .attended found result
          split
          · have rest := ih (index + 1) ((table.update index attended.worker).mute index) after
            rw [workers_mute_update found] at rest
            exact .cons (attends _ (Or.inr rfl)) rest
          · have rest := ih (index + 1) (table.update index attended.worker) after
            exact .cons (attends _ (Or.inl rfl)) rest

theorem asides_of_reserveOne {table grown : ProcessTable} {notices : List Notice}
    (made : table.reserveOne = .ok (notices, grown)) :
    Asides notices ∧ grown.workers = table.workers := by
  rcases ProcessTable.reserveOne_cases made with ⟨rfl, rfl, _⟩ | ⟨capacity, rfl, rfl, _, _⟩
  · exact ⟨by simp [Asides], rfl⟩
  · exact ⟨by simp [Asides], rfl⟩

theorem asides_of_reserve {table grown : ProcessTable} {notices : List Notice} {state : σ}
    (made : (table.reserve kernel state).1 = .ok (notices, grown)) :
    Asides notices ∧ grown.workers = table.workers :=
  asides_of_reserveOne (ProcessTable.reserveOne_of_reserve made)

theorem admitNext_admission (listener : Descriptor) (command : ShellCommand)
    (table : ProcessTable) (state : σ) :
    Admission kernel table.workers state (admitNext kernel listener command table state).notices
      (admitNext kernel listener command table state).table.workers
      (admitNext kernel listener command table state).state := by
  have accepted : Quiet kernel state (kernel.acceptRemote listener state).2 :=
    Quiet.refl.acceptRemote listener
  rcases arrived : kernel.acceptRemote listener state with ⟨arrival, after⟩
  rw [arrived] at accepted
  cases arrival with
  | error error =>
      simp only [admitNext, arrived]
      split <;> exact .none (by simp [Asides]) accepted
  | ok arrival =>
      simp only [admitNext, arrived]
      have starting := startWorker_starting kernel command arrival.1 arrival.2.label table after
      generalize startWorker kernel command arrival.1 arrival.2.label table after = started
        at starting ⊢
      cases starting with
      | unopened unavailable quiet => exact .none (by simp [Asides]) (accepted.trans quiet)
      | refused opened refused quiet => exact .none (by simp [Asides]) (accepted.trans quiet)
      | failed opened made quiet =>
          obtain ⟨asides, same⟩ := asides_of_reserve kernel made
          simp only [same]
          exact .none asides (accepted.trans quiet)
      | started opened made quiet spawned closed =>
          obtain ⟨asides, same⟩ := asides_of_reserve kernel made
          simp only [ProcessTable.push, same]
          exact .one asides (accepted.trans quiet) spawned closed

theorem respond_admission (supervisor : Supervisor) (accepting : Bool) (reaped : Reaped σ)
    (table : ProcessTable) (state : σ) :
    ∃ later,
      Admission kernel (forward kernel table state).table.workers
        (forward kernel table state).state later
        (respond kernel supervisor accepting reaped table state).supervisor.table.workers
        (respond kernel supervisor accepting reaped table state).state ∧
      (respond kernel supervisor accepting reaped table state).notices =
        reaped.notices ++ ((forward kernel table state).notices ++ later) ∧
      (accepting = false → later = []) := by
  unfold respond
  generalize forward kernel table state = sent
  simp only
  split
  · rename_i isOpen
    refine ⟨_, admitNext_admission kernel _ _ _ _, List.append_assoc _ _ _, fun shut => ?_⟩
    rw [shut] at isOpen
    cases isOpen
  · exact ⟨[], .none (by simp [Asides]) .refl, by simp, fun _ => rfl⟩

theorem respond_steps (supervisor : Supervisor) (accepting : Bool) (reaped : Reaped σ)
    (table : ProcessTable) (state : σ) :
    ∃ earlier middle between later,
      Steps kernel table.workers state earlier middle between ∧
      Admission kernel middle between later
        (respond kernel supervisor accepting reaped table state).supervisor.table.workers
        (respond kernel supervisor accepting reaped table state).state ∧
      (respond kernel supervisor accepting reaped table state).notices =
        reaped.notices ++ (earlier ++ later) := by
  obtain ⟨later, admission, notices, _⟩ :=
    respond_admission kernel supervisor accepting reaped table state
  exact ⟨_, _, _, later, forwardFrom_steps kernel table.length 0 table state, admission, notices⟩

/-- Reaping, polling and forwarding bring no worker; then there is an attempt to bring one. -/
theorem tick_steps (supervisor : Supervisor) (state : σ) :
    ∃ earlier middle between later,
      Steps kernel supervisor.table.workers state earlier middle between ∧
      Admission kernel middle between later
        (supervisor.tick kernel state).supervisor.table.workers
        (supervisor.tick kernel state).state ∧
      (supervisor.tick kernel state).notices = earlier ++ later := by
  have gone : Steps kernel supervisor.table.workers state
      (reap kernel supervisor.table state).notices
      (reap kernel supervisor.table state).table.workers
      (reap kernel supervisor.table state).state :=
    reapFrom_steps kernel supervisor.table.length 0 supervisor.table state
  unfold tick
  generalize reap kernel supervisor.table state = reaped at gone ⊢
  simp only
  generalize waitTimeout _ _ _ = timeout
  have looked : Quiet kernel reaped.state _ :=
    Quiet.refl.poll (reaped.table.cleared.pollSlots (supervisor.isAccepting reaped.table)) timeout
  generalize kernel.poll _ timeout reaped.state = found at looked ⊢
  obtain ⟨flags, after⟩ := found
  cases flags with
  | error error =>
      refine ⟨_, _, _, [], gone, ?_, ?_⟩
      · simp only
        split <;> exact .none (by simp [Asides]) looked
      · simp only
        split <;> simp
  | ok flags =>
      simp only
      split
      · exact ⟨_, _, _, [], gone, .none (by simp [Asides]) looked, by simp⟩
      · obtain ⟨earlier, middle, between, later, sent, admitted, notices⟩ := respond_steps kernel
          supervisor (supervisor.isAccepting reaped.table) reaped
          (reaped.table.cleared.polled (supervisor.isAccepting reaped.table) flags) after
        have polled : Steps kernel supervisor.table.workers state (reaped.notices ++ []) _ after :=
          gone.step (.quiet looked)
        refine ⟨_, _, _, _, polled.trans sent, admitted, ?_⟩
        rw [notices]
        simp

end

end Supervisor

end Superserver
