import Superserver.Diagnostics.LineBuffer

/-!
A reader that plays back a queue of chunks and errors, and how often a buffer fills from it.
-/

namespace Superserver

structure ReadScript where
  chunk : Option Nat := none
  queue : List (Except SystemError Bytes) := []

namespace ReadScript

def enqueue (script : ReadScript) (entry : Except SystemError Bytes) : ReadScript :=
  { script with queue := script.queue ++ [entry] }

def remaining (rest : Bytes) (queue : List (Except SystemError Bytes)) :
    List (Except SystemError Bytes) :=
  if rest.isEmpty then queue else .ok rest :: queue

/-- Reads from the entry at the front; an empty queue is the end of the stream. -/
def read : Reader ReadScript := fun count script =>
  match script.queue with
  | [] => (.ok ⟨[], by simp⟩, script)
  | .error error :: queue => (.error error, { script with queue })
  | .ok bytes :: queue =>
      let wanted := min count (script.chunk.getD count)
      (.ok ⟨bytes.take wanted, by simp only [List.length_take]; omega⟩,
        { script with queue := remaining (bytes.drop wanted) queue })

end ReadScript

namespace LineBuffer

structure Filled where
  bytes : Nat := 0
  reads : Nat := 0
  error : Option ForwardError := none

def fillTimes (reader : Reader σ) : Nat → LineBuffer → σ → Filled × LineBuffer × σ
  | 0, buffer, state => ({}, buffer, state)
  | times + 1, buffer, state =>
      match buffer.fill reader state with
      | (.error error, buffer, state) => ({ error := some error }, buffer, state)
      | (.ok count, buffer, state) =>
          let (filled, buffer, state) := fillTimes reader times buffer state
          ({ filled with bytes := count + filled.bytes, reads := filled.reads + 1 }, buffer, state)

end LineBuffer

end Superserver
