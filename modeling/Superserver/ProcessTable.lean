import Superserver.Capacity
import Superserver.Worker

/-!
The live workers and the poll set that watches them. The first slot is the listener's and slot
`i + 1` is that of worker `i`. A removal moves the last entry into the gap in both sequences.
-/

namespace Superserver

inductive TableError where
  | capacityExhausted (capacity : Nat)
  | outOfMemory (error : MemoryError)
deriving DecidableEq, Repr

def TableError.message : TableError → String
  | .capacityExhausted capacity => s!"Process table cannot grow beyond {capacity} entries"
  | .outOfMemory error => s!"Cannot allocate memory for process table: {error}"

def swapRemove (index : Nat) (items : List α) : List α :=
  match items.getLast? with
  | none => []
  | some last => (items.set index last).dropLast

@[simp] theorem length_swapRemove (index : Nat) (items : List α) :
    (swapRemove index items).length = items.length - 1 := by
  unfold swapRemove
  split
  · rename_i empty
    simp [List.getLast?_eq_none_iff.mp empty]
  · simp

theorem getElem?_swapRemove {items : List α} (index position : Nat) :
    (swapRemove index items)[position]? =
      if position + 1 < items.length then
        if position = index then items.getLast? else items[position]?
      else none := by
  unfold swapRemove
  split
  · rename_i empty
    simp [List.getLast?_eq_none_iff.mp empty]
  · rename_i last found
    rw [List.getElem?_dropLast, List.length_set]
    by_cases inside : position + 1 < items.length
    · rw [if_pos (by omega), if_pos inside, List.getElem?_set]
      by_cases same : position = index
      · rw [if_pos same.symm, if_pos (by omega), if_pos same, found]
      · rw [if_neg (Ne.symm same), if_neg same]
    · rw [if_neg (by omega), if_neg inside]

theorem map_swapRemove (change : α → β) (index : Nat) (items : List α) :
    (swapRemove index items).map change = swapRemove index (items.map change) := by
  apply List.ext_getElem?
  intro position
  simp only [List.getElem?_map, getElem?_swapRemove, List.length_map, List.getLast?_map]
  split
  · split <;> rfl
  · rfl

theorem swapRemove_succ_cons (first : α) {index : Nat} {items : List α}
    (inside : index < items.length) :
    swapRemove (index + 1) (first :: items) = first :: swapRemove index items := by
  obtain ⟨head, tail, rfl⟩ := List.exists_cons_of_ne_nil (List.ne_nil_of_length_pos (by omega) :
    items ≠ [])
  simp [swapRemove, List.getLast?_cons, List.set_cons_succ, List.dropLast_cons_of_ne_nil]

structure ProcessTable where
  workers : List Worker
  slots : List PollSlot
  capacity : Nat
  ceiling : Nat

namespace ProcessTable

/-- The most entries for which both sequences stay addressable: half the address space, at 72
bytes for a worker. -/
def maxEntries : Nat := (UInt64.size / 2 - 1) / 72

def new (listener : Int) (ceiling : Nat) : ProcessTable where
  workers := []
  slots := [PollSlot.ofDescriptor listener]
  capacity := 0
  ceiling := min ceiling maxEntries

def length (table : ProcessTable) : Nat := table.workers.length

def isEmpty (table : ProcessTable) : Bool := table.workers.isEmpty

/-- Makes room for one more worker, given the memory; the notice says whether the table grew. -/
def reserveOne (table : ProcessTable) : Except TableError (List Notice × ProcessTable) :=
  if table.length < table.capacity then .ok ([], table)
  else match Capacity.grown? table.capacity table.ceiling with
    | none => .error (.capacityExhausted table.capacity)
    | some capacity =>
        .ok ([.tableGrew table.capacity capacity], { table with capacity })

/-- Makes room for one more worker. A table that has to grow asks for the memory of its workers and
then for that of its slots, and does not grow if one of them is refused. -/
def reserve (kernel : Kernel σ) (table : ProcessTable) (state : σ) :
    Except TableError (List Notice × ProcessTable) × σ :=
  match table.reserveOne with
  | .error error => (.error error, state)
  | .ok (notices, grown) =>
      if table.length < table.capacity then (.ok (notices, grown), state)
      else match kernel.allocate (grown.capacity - table.workers.length) state with
        | (.error error, state) => (.error (.outOfMemory error), state)
        | (.ok (), state) =>
            match kernel.allocate (grown.capacity + 1 - table.slots.length) state with
            | (.error error, state) => (.error (.outOfMemory error), state)
            | (.ok (), state) => (.ok (notices, grown), state)

/-- Adds a worker, for which room must have been made. -/
def push (worker : Worker) (table : ProcessTable) : ProcessTable :=
  { table with
    workers := table.workers ++ [worker]
    slots := table.slots ++ [PollSlot.ofDescriptor worker.diagnostics] }

def remove (index : Nat) (table : ProcessTable) : Option Worker × ProcessTable :=
  match table.workers[index]? with
  | none => (none, table)
  | some worker =>
      (some worker,
        { table with
          workers := swapRemove index table.workers
          slots := swapRemove (index + 1) table.slots })

def update (index : Nat) (worker : Worker) (table : ProcessTable) : ProcessTable :=
  { table with workers := table.workers.set index worker }

def mute (index : Nat) (table : ProcessTable) : ProcessTable :=
  match table.workers[index]? with
  | none => table
  | some worker =>
      { table with
        workers := table.workers.set index worker.mute
        slots := table.slots.modify (index + 1) PollSlot.ignored }

def anyMuted (table : ProcessTable) : Bool := table.workers.any (·.muted)

def cleared (table : ProcessTable) : ProcessTable :=
  { table with slots := table.slots.map PollSlot.cleared }

def skipped (includeListener : Bool) : Nat := if includeListener then 0 else 1

def pollSlots (includeListener : Bool) (table : ProcessTable) : List PollSlot :=
  table.slots.drop (skipped includeListener)

def notePolled : List PollFlags → List PollSlot → List PollSlot
  | _, [] => []
  | [], slot :: slots => slot.cleared :: notePolled [] slots
  | flags :: others, slot :: slots => slot.polled flags :: notePolled others slots

def polled (includeListener : Bool) (flags : List PollFlags) (table : ProcessTable) :
    ProcessTable :=
  { table with
    slots := table.slots.take (skipped includeListener) ++
      notePolled flags (table.pollSlots includeListener) }

def setReturned (slot : Nat) (flags : PollFlags) (table : ProcessTable) : ProcessTable :=
  { table with slots := table.slots.modify slot fun entry => { entry with returned := flags } }

def listenerReady (table : ProcessTable) : Bool :=
  match table.slots with
  | [] => false
  | slot :: _ => slot.returned.meets PollFlags.readable

/-- What the last poll found for a worker. No worker is looked for first: the place of its slot is
a word, and the place after the last word is the listener's. -/
def returned (index : Nat) (table : ProcessTable) : PollFlags :=
  match table.slots[(index + 1) % UInt64.size]? with
  | none => PollFlags.none
  | some slot => slot.returned

/-- Whether a slot is about a worker's pipe, and passed over just while the worker is muted. -/
def agrees (worker : Worker) (slot : PollSlot) : Bool :=
  slot.subject == worker.diagnostics && decide (slot.descriptor < 0) == worker.muted

def isConsistent (table : ProcessTable) : Bool :=
  table.slots.length == table.workers.length + 1 && table.workers.length ≤ table.capacity &&
    table.capacity ≤ table.ceiling &&
    (table.workers.zip (table.slots.drop 1)).all fun entry => agrees entry.1 entry.2

end ProcessTable

end Superserver
