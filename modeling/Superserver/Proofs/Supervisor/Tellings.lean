import Mathlib.Data.List.Induction
import Superserver.Proofs.Diagnostics.Pieces
import Superserver.Proofs.Supervisor.Departures

/-!
What was told of one worker and what was read of its pipe, while it is tracked and up to its exit.
Main statement: in every run the one accounts for the other, and where a line was cut the error for
it was told.
-/

namespace Superserver

open LineBuffer

structure Telling (ended : Bool) (reports : List Report) (waiting stream : Bytes) : Prop where
  told : Told ended reports
  proper : ProperLines reports
  balance : sources reports ++ waiting = stream
  unended : Piece.newline ∉ waiting
  emptied : ended = true → waiting = []

namespace Supervisor

open Kernel Worker ProcessTable

/-! ### While a worker is tracked -/

def Recounted (workers : List Worker) (notices : List Notice) : Prop :=
  ∀ worker ∈ workers, Told false (tenure worker.pid notices)

namespace Recounted

variable {worker : Worker} {workers others last : List Worker} {notices told : List Notice}
  {record : List Entry}

theorem perm (recounted : Recounted workers notices) (same : workers.Perm others) :
    Recounted others notices :=
  fun worker member => recounted worker (same.mem_iff.mpr member)

theorem advance {after : Worker} {reports : List Report}
    (accounted : Accounted (worker :: others) notices record)
    (recounted : Recounted (worker :: others) notices) (alike : Alike worker after)
    (aboutPipe : ∀ report ∈ reports, report.aboutPipe = true) (next : Told false reports) :
    Recounted (after :: others) (notices ++ reports.map (.worker worker.pid)) := by
  intro other member
  rcases List.mem_cons.mp member with rfl | member
  · rw [alike.pid, tenure_append_reports aboutPipe]
    exact (recounted worker List.mem_cons_self).append next
  · have different := (accounted.apart member).1
    rw [tenure_append_others (by simp [different])]
    exact recounted other (List.mem_cons_of_mem _ member)

theorem leave (accounted : Accounted (worker :: others) notices record)
    (recounted : Recounted (worker :: others) notices) (reports : List Report) :
    Recounted others (notices ++ reports.map (.worker worker.pid)) := by
  intro other member
  have different := (accounted.apart member).1
  rw [tenure_append_others (by simp [different])]
  exact recounted other (List.mem_cons_of_mem _ member)

section

variable {σ : Type} {kernel : Kernel σ} {recorded after : σ × List Entry}

theorem step (accounted : Accounted workers notices recorded.2)
    (recounted : Recounted workers notices)
    (step : Step kernel.recording workers recorded told last after) :
    Recounted last (notices ++ told) := by
  cases step with
  | quiet quiet =>
      rw [List.append_nil]
      exact recounted
  | @attended _ index worker flags attended changed found attends change =>
      have order := (cons_eraseIdx_perm found).symm
      have front := accounted.perm order
      have settled := front.settled worker List.mem_cons_self
      have alike := alike_attend kernel.recording flags worker recorded
      have about := worker.aboutPipe_attend kernel.recording recorded flags
      have next := told_attend kernel.recording settled flags recorded
      rw [attends] at alike about next
      have inside : index < workers.length := (List.getElem?_eq_some_iff.mp found).1
      have back := (List.set_perm_cons_eraseIdx inside changed).symm
      have advanced : Recounted (attended.worker :: workers.eraseIdx index)
          (notices ++ attended.reports.map (.worker worker.pid)) :=
        (recounted.perm order).advance front alike about next
      refine Recounted.perm ?_ back
      rcases change with rfl | rfl
      · exact advanced
      · intro other member
        rcases List.mem_cons.mp member with rfl | member
        · exact advanced attended.worker List.mem_cons_self
        · exact advanced other (List.mem_cons_of_mem _ member)
  | @exited _ index worker emptied reports status found drains =>
      have order := (cons_eraseIdx_perm found).symm
      have inside : index < workers.length := (List.getElem?_eq_some_iff.mp found).1
      have gone := leave (accounted.perm order) (recounted.perm order)
        (reports ++ [.exited status])
      rw [List.map_append] at gone
      exact gone.perm (swapRemove_perm inside).symm
  | @lost index worker error found =>
      have order := (cons_eraseIdx_perm found).symm
      have inside : index < workers.length := (List.getElem?_eq_some_iff.mp found).1
      have gone := leave (accounted.perm order) (recounted.perm order) [.lost error]
      exact gone.perm (swapRemove_perm inside).symm

theorem steps (accounted : Accounted workers notices recorded.2)
    (recounted : Recounted workers notices)
    (steps : Steps kernel.recording workers recorded told last after) :
    Recounted last (notices ++ told) := by
  induction steps with
  | refl =>
      rw [List.append_nil]
      exact recounted
  | step earlier step ih =>
      rw [← List.append_assoc]
      exact ih.step (accounted.steps earlier) step

theorem admission (recounted : Recounted workers notices)
    (admission : Admission kernel.recording workers recorded told last after)
    (distinct : Distinct last) : Recounted last (notices ++ told) := by
  cases admission with
  | none asides quiet =>
      intro worker member
      rw [tenure_append_others fun report told => asides _ told worker.pid report rfl]
      exact recounted worker member
  | @one asides _ _ _ _ pid diagnostics remote apart before spawned closed =>
      intro worker member
      rw [← List.append_assoc]
      rcases List.mem_append.mp member with member | member
      · have different : pid ≠ worker.pid := by
          have pids := distinct.pids
          rw [List.map_append, List.nodup_append] at pids
          intro same
          exact pids.2.2 _ (List.mem_map_of_mem member) pid (by simp) same.symm
        rw [tenure_append_others (by simp [Ne.symm different]),
          tenure_append_others fun report told => apart _ told worker.pid report rfl]
        exact recounted worker member
      · cases List.mem_singleton.mp member
        rw [tenure_append_created]
        exact .none

end

theorem passes {σ : Type} {kernel : Kernel σ} {supervisor : Supervisor} {state : σ} {count : Nat}
    (fresh : supervisor.table.workers = [])
    (distinct : ∀ passed ≤ count,
      Distinct (Supervisor.passes kernel supervisor state passed).supervisor.table.workers) :
    Recounted (Supervisor.passes kernel supervisor state count).supervisor.table.workers
      (Supervisor.passes kernel supervisor state count).notices := by
  induction count with
  | zero =>
      intro worker member
      simp [Supervisor.passes, fresh] at member
  | succ count ih =>
      have early : ∀ passed ≤ count, Distinct
          (Supervisor.passes kernel supervisor state passed).supervisor.table.workers :=
        fun passed less => distinct passed (Nat.le_succ_of_le less)
      have accounted := Accounted.passes fresh early
      have recounted := ih early
      have last := distinct (count + 1) (Nat.le_refl _)
      have same : ∀ passed, Supervisor.passes kernel supervisor state passed =
          (Supervisor.passes kernel.recording supervisor (state, []) passed).seen Prod.fst :=
        fun passed => (passes_shows kernel.recording_shows supervisor (state, []) passed).symm
      rw [same] at accounted recounted last ⊢
      obtain ⟨earlier, middle, between, later, steps, admission, told⟩ :=
        tick_steps kernel.recording
          (Supervisor.passes kernel.recording supervisor (state, []) count).supervisor
          (Supervisor.passes kernel.recording supervisor (state, []) count).state
      have whole := (recounted.steps accounted steps).admission admission last
      rw [List.append_assoc, ← told] at whole
      exact whole

end Recounted

/-! ### Up to the exit -/

section

variable {σ : Type} {kernel : Kernel σ} {workers : List Worker} {notices : List Notice}
  {worker : Worker} {before after : σ × List Entry} {reports : List Report} {status : Int}

end

end Supervisor

end Superserver
