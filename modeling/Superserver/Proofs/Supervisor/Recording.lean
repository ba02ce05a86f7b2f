import Superserver.Proofs.Diagnostics.Forwarding
import Superserver.Proofs.Supervisor.Admission
import Superserver.Proofs.Supervisor.Views

/-!
A system that also keeps a record of the chunks that are read from it and of the processes that it
starts. Main statements: the record tells what was read and started, and a system answers the same
with it and without it.
-/

namespace Superserver

inductive Entry where
  | read (descriptor : Descriptor) (bytes : Bytes)
  | started (pid : Pid)
deriving DecidableEq

namespace Kernel

def unnoted (call : σ → α × σ) (recorded : σ × List Entry) : α × (σ × List Entry) :=
  ((call recorded.1).1, (call recorded.1).2, recorded.2)

/-- The same system, with a record of what is read and started. -/
def recording (kernel : Kernel σ) : Kernel (σ × List Entry) where
  wait pid := unnoted (kernel.wait pid)
  read descriptor count recorded :=
    match kernel.read descriptor count recorded.1 with
    | (.ok chunk, state) => (.ok chunk, state, recorded.2 ++ [.read descriptor chunk.val])
    | (.error error, state) => (.error error, state, recorded.2)
  poll slots timeout := unnoted (kernel.poll slots timeout)
  accept listener := unnoted (kernel.accept listener)
  nonblocking descriptor := unnoted (kernel.nonblocking descriptor)
  changeNonblocking descriptor wanted := unnoted (kernel.changeNonblocking descriptor wanted)
  pipe := unnoted kernel.pipe
  duplicate descriptor := unnoted (kernel.duplicate descriptor)
  spawn request recorded :=
    match kernel.spawn request recorded.1 with
    | (.ok pid, state) => (.ok pid, state, recorded.2 ++ [.started pid])
    | (.error error, state) => (.error error, state, recorded.2)
  allocate count := unnoted (kernel.allocate count)
  close descriptor recorded := (kernel.close descriptor recorded.1, recorded.2)

section

variable {σ : Type} {kernel : Kernel σ} {recorded after : σ × List Entry}

/-! ### What is in the record -/

theorem record_of_quiet (quiet : Quiet kernel.recording recorded after) :
    after.2 = recorded.2 := by
  induction quiet with
  | refl => rfl
  | unstarted _ failed ih =>
      simp only [recording] at failed
      split at failed
      · cases failed
      · cases failed
        exact ih
  | _ => assumption

theorem record_of_spawn {request : SpawnRequest} {pid : Pid}
    (spawned : kernel.recording.spawn request recorded = (.ok pid, after)) :
    after.2 = recorded.2 ++ [.started pid] := by
  simp only [recording] at spawned
  split at spawned
  · cases spawned
    rfl
  · cases spawned

theorem record_of_reads {descriptor : Descriptor} {bytes : Bytes}
    (reads : Worker.Reads kernel.recording descriptor recorded bytes after) :
    ∃ chunks : List Bytes, after.2 = recorded.2 ++ chunks.map (.read descriptor) ∧
      chunks.flatten = bytes := by
  induction reads with
  | none => exact ⟨[], by simp, rfl⟩
  | failed _ read ih =>
      obtain ⟨chunks, record, whole⟩ := ih
      simp only [recording] at read
      split at read
      · cases read
      · cases read
        exact ⟨chunks, record, whole⟩
  | @chunk bytes middle after chunk _ read ih =>
      obtain ⟨chunks, record, whole⟩ := ih
      simp only [recording] at read
      split at read
      · cases read
        exact ⟨chunks ++ [chunk.val], by simp [record], by simp [whole]⟩
      · cases read

end

/-! ### What the record leaves as it is -/

variable {σ : Type} (kernel : Kernel σ)

theorem recording_shows : Shows kernel.recording kernel Prod.fst where
  wait _ _ := rfl
  read descriptor count recorded := by
    simp only [recording]
    rcases kernel.read descriptor count recorded.1 with ⟨answer, after⟩
    cases answer <;> rfl
  poll _ _ _ := rfl
  accept _ _ := rfl
  nonblocking _ _ := rfl
  changeNonblocking _ _ _ := rfl
  pipe _ := rfl
  duplicate _ _ := rfl
  spawn request recorded := by
    simp only [recording]
    rcases kernel.spawn request recorded.1 with ⟨answer, after⟩
    cases answer <;> rfl
  allocate _ _ := rfl
  close _ _ := rfl

end Kernel

end Superserver
