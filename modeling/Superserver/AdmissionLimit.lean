import Superserver.System.Error

/-!
How many workers may run at once. The supervisor keeps a few descriptors for itself; every worker
is taken to cost two.
-/

namespace Superserver

inductive LimitError where
  | zero
  | query (error : SystemError)
  | tooFewDescriptors (openFiles : UInt64)
deriving DecidableEq, Repr

def LimitError.message : LimitError → String
  | .zero => "The maximum number of processes must be at least 1"
  | .query error => s!"Could not query the open file limit: {error}"
  | .tooFewDescriptors openFiles =>
      s!"Open file limit {openFiles} leaves no room for a single worker"

def LimitError.sources : LimitError → List String
  | .query error => [error.message]
  | .zero | .tooFewDescriptors _ => []

structure AdmissionLimit where
  workers : UInt64
deriving DecidableEq, Repr

namespace AdmissionLimit

def defaultCeiling : UInt64 := 1024

/-- Descriptors that are no worker's: the standard streams and the listener. -/
def reservedDescriptors : UInt64 := 4

/-- Descriptors that one worker is taken to cost. -/
def descriptorsPerWorker : UInt64 := 2

def ofCeiling (ceiling : UInt64) : Except LimitError AdmissionLimit :=
  if ceiling = 0 then .error .zero else .ok ⟨ceiling⟩

def room (openFiles : UInt64) : UInt64 :=
  (if openFiles < reservedDescriptors then 0 else openFiles - reservedDescriptors) /
    descriptorsPerWorker

def ofDescriptors (ceiling openFiles : UInt64) : Except LimitError AdmissionLimit :=
  if ceiling = 0 then .error .zero
  else if room openFiles = 0 then .error (.tooFewDescriptors openFiles)
  else .ok ⟨min ceiling (room openFiles)⟩

/-- The limit under a soft limit on open files, `none` being no limit at all. -/
def detect (ceiling : UInt64) (openFiles : Option UInt64) : Except LimitError AdmissionLimit :=
  match openFiles with
  | some openFiles => ofDescriptors ceiling openFiles
  | none => ofCeiling ceiling

def unlimited : UInt64 := UInt64.ofNat (UInt64.size - 1)

def ofSoftLimit (soft : UInt64) : Option UInt64 := if soft = unlimited then none else some soft

theorem room_toNat (openFiles : UInt64) : (room openFiles).toNat = (openFiles.toNat - 4) / 2 := by
  unfold room reservedDescriptors descriptorsPerWorker
  split
  · rename_i small
    have : openFiles.toNat < 4 := by simpa [UInt64.lt_iff_toNat_lt] using small
    simp; omega
  · rename_i large
    have : 4 ≤ openFiles.toNat := by simpa [UInt64.lt_iff_toNat_lt] using large
    rw [UInt64.toNat_div, UInt64.toNat_sub_of_le _ _ (by simpa [UInt64.le_iff_toNat_le] using this)]
    simp

end AdmissionLimit

end Superserver
