import Superserver.Diagnostics.LineBuffer
import Superserver.Diagnostics.Event
import Superserver.Net.RawAddress

/-!
The calls that supervision makes of the system. Each takes the state of the world and gives a
result with the state after it, so nothing is assumed of a result but its type.
-/

namespace Superserver

abbrev Descriptor := Nat

abbrev PollFlags := UInt16

namespace PollFlags

def none : PollFlags := 0
def readable : PollFlags := 1
def failed : PollFlags := 8
def hangUp : PollFlags := 16
def invalid : PollFlags := 32

def toInt (flags : PollFlags) : Int := flags.toInt16.toInt

def meets (flags wanted : PollFlags) : Bool := flags &&& wanted != 0

end PollFlags

structure PollSlot where
  descriptor : Int
  requested : PollFlags := PollFlags.readable
  returned : PollFlags := PollFlags.none
deriving DecidableEq

namespace PollSlot

def ofDescriptor (descriptor : Int) : PollSlot := { descriptor }

def cleared (slot : PollSlot) : PollSlot := { slot with returned := PollFlags.none }

/-- The slot with every bit of its number turned over, so that polling passes over it and its
number can be had back. -/
def ignored (slot : PollSlot) : PollSlot :=
  if slot.descriptor < 0 then slot else { slot with descriptor := ~~~slot.descriptor }

/-- The number that the slot is about, whether polling passes over it or not. -/
def subject (slot : PollSlot) : Int :=
  if slot.descriptor < 0 then ~~~slot.descriptor else slot.descriptor

def polled (flags : PollFlags) (slot : PollSlot) : PollSlot :=
  if slot.descriptor < 0 then slot.cleared else { slot with returned := flags }

@[simp] theorem descriptor_cleared (slot : PollSlot) :
    slot.cleared.descriptor = slot.descriptor := rfl

@[simp] theorem descriptor_polled (flags : PollFlags) (slot : PollSlot) :
    (slot.polled flags).descriptor = slot.descriptor := by
  unfold polled
  split <;> rfl

end PollSlot

inductive Timeout where
  | unbounded
  | milliseconds (count : Nat)
deriving DecidableEq

structure SpawnRequest where
  arguments : List String
  remote : String
  input : Descriptor
  output : Descriptor
  diagnostics : Descriptor
deriving DecidableEq

structure Kernel (σ : Type) where
  /-- The raw status of a process that has ended, without waiting for it. -/
  wait : Pid → σ → Except SystemError (Option Int) × σ
  read : Descriptor → Reader σ
  /-- The conditions of each slot, in their order. -/
  poll : List PollSlot → Timeout → σ → Except SystemError (List PollFlags) × σ
  /-- A pending connection and its remote end. -/
  accept : Descriptor → σ → Except SystemError (Descriptor × RawAddress) × σ
  nonblocking : Descriptor → σ → Except SystemError Bool × σ
  changeNonblocking : Descriptor → Bool → σ → Except SystemError Unit × σ
  pipe : σ → Except SystemError (Descriptor × Descriptor) × σ
  duplicate : Descriptor → σ → Except SystemError Descriptor × σ
  spawn : SpawnRequest → σ → Except SystemError Pid × σ
  /-- Memory for so many more items of a sequence. -/
  allocate : Nat → σ → Except MemoryError Unit × σ
  close : Descriptor → σ → σ

namespace Kernel

def closeAll (kernel : Kernel σ) (descriptors : List Descriptor) (state : σ) : σ :=
  descriptors.foldl (fun state descriptor => kernel.close descriptor state) state

def setNonblocking (kernel : Kernel σ) (descriptor : Descriptor) (wanted : Bool) (state : σ) :
    Except SystemError Unit × σ :=
  match kernel.nonblocking descriptor state with
  | (.error error, state) => (.error error, state)
  | (.ok current, state) =>
      if current = wanted then (.ok (), state) else kernel.changeNonblocking descriptor wanted state

def nonblockingPipe (kernel : Kernel σ) (state : σ) :
    Except SystemError (Descriptor × Descriptor) × σ :=
  match kernel.pipe state with
  | (.error error, state) => (.error error, state)
  | (.ok (readEnd, writeEnd), state) =>
      match kernel.setNonblocking writeEnd true state with
      | (.error error, state) => (.error error, kernel.closeAll [writeEnd, readEnd] state)
      | (.ok (), state) =>
          match kernel.setNonblocking readEnd true state with
          | (.error error, state) => (.error error, kernel.closeAll [writeEnd, readEnd] state)
          | (.ok (), state) => (.ok (readEnd, writeEnd), state)

/-- A pending connection, waiting on its descriptor allowed, and its remote end. A connection
whose remote end has no known form is closed. -/
def acceptRemote (kernel : Kernel σ) (listener : Descriptor) (state : σ) :
    Except SystemError (Descriptor × PeerAddress) × σ :=
  match kernel.accept listener state with
  | (.error error, state) => (.error error, state)
  | (.ok (connection, raw), state) =>
      match kernel.setNonblocking connection false state with
      | (.error error, state) => (.error error, kernel.close connection state)
      | (.ok (), state) =>
          match raw.decode with
          | .error error => (.error error, kernel.close connection state)
          | .ok peer => (.ok (connection, peer), state)

end Kernel

/-- Failures to accept that pass by themselves: an aborted handshake, an interruption, a lack of
descriptors, or nothing pending. -/
def SystemError.isTransient (error : SystemError) : Bool :=
  error.number? == some Errno.connectionAborted || error.number? == some Errno.interrupted ||
    error.number? == some Errno.tooManyDescriptors || error.kind == .wouldBlock

end Superserver
