import Superserver.ProcessTable

/-!
A table under any use that is made of it. `Action.run` carries an action out on a machine that
checks every index, difference and sum, and stops at the first that is out of bounds. Main
statements: the slots stay in step with the workers, and the machine never stops.
-/

namespace Superserver

namespace Worker

/-- The number in the worker's poll slot: complemented, hence negative, while it is muted. -/
def watched (worker : Worker) : Int :=
  if worker.muted then ~~~(worker.diagnostics : Int) else worker.diagnostics

theorem watched_neg_iff (worker : Worker) : worker.watched < 0 ↔ worker.muted = true := by
  unfold watched
  cases worker.muted
  · simp
  · simp only [if_true, iff_true]
    exact Int.negSucc_lt_zero worker.diagnostics

end Worker

namespace PollSlot

theorem complement_complement (number : Int) : ~~~(~~~number) = number := by
  cases number <;> rfl

theorem subject_of_watched {slot : PollSlot} {worker : Worker}
    (shows : slot.descriptor = worker.watched) : slot.subject = worker.diagnostics := by
  have negative := worker.watched_neg_iff
  unfold subject
  rw [shows]
  cases muted : worker.muted
  · simp only [muted, Bool.false_eq_true, iff_false] at negative
    rw [if_neg negative]
    simp [Worker.watched, muted]
  · simp only [muted, iff_true] at negative
    rw [if_pos negative]
    simp [Worker.watched, muted, complement_complement]

/-- Ignoring the slot of a worker shows the complement, however often it is done. -/
theorem ignored_of_watched {slot : PollSlot} {worker : Worker}
    (shows : slot.descriptor = worker.watched) :
    slot.ignored.descriptor = worker.mute.watched := by
  have negative := worker.watched_neg_iff
  unfold ignored
  rw [shows]
  cases muted : worker.muted
  · simp only [muted, Bool.false_eq_true, iff_false] at negative
    rw [if_neg negative]
    simp [Worker.watched, Worker.mute, muted]
  · simp only [muted, iff_true] at negative
    rw [if_pos negative, shows]
    simp [Worker.watched, Worker.mute, muted]

end PollSlot

theorem modify_eq_set {items : List α} {index : Nat} {item : α} (change : α → α)
    (found : items[index]? = some item) : items.modify index change = items.set index (change item) := by
  apply List.ext_getElem?
  intro position
  rw [List.getElem?_modify, List.getElem?_set]
  by_cases same : index = position
  · subst position
    obtain ⟨inside, rfl⟩ := List.getElem?_eq_some_iff.mp found
    simp [inside]
  · simp [same]

namespace ProcessTable

/-- The slots are the listener's and then those of the workers in their order, and the table has
room for its workers within what can be addressed. -/
structure Lockstep (listener : Int) (table : ProcessTable) : Prop where
  inStep : table.slots.map (·.descriptor) = listener :: table.workers.map Worker.watched
  room : table.workers.length ≤ table.capacity
  bounded : table.capacity ≤ table.ceiling
  addressable : table.ceiling ≤ maxEntries

namespace Lockstep

variable {listener : Int} {table : ProcessTable}

theorem length_slots (sound : Lockstep listener table) :
    table.slots.length = table.workers.length + 1 := by
  simpa using congrArg List.length sound.inStep

theorem slot_of_worker (sound : Lockstep listener table) {index : Nat} {worker : Worker}
    (found : table.workers[index]? = some worker) :
    ∃ slot, table.slots[index + 1]? = some slot ∧ slot.descriptor = worker.watched := by
  have shown := congrArg (fun descriptors => descriptors[index + 1]?) sound.inStep
  simp only [List.getElem?_map, List.getElem?_cons_succ, found, Option.map_some,
    Option.map_eq_some_iff] at shown
  exact shown

theorem isConsistent (sound : Lockstep listener table) : table.isConsistent = true := by
  simp only [ProcessTable.isConsistent, Bool.and_eq_true, beq_iff_eq, decide_eq_true_eq,
    List.all_eq_true]
  refine ⟨⟨⟨sound.length_slots, sound.room⟩, sound.bounded⟩, ?_⟩
  intro entry member
  obtain ⟨index, found⟩ := List.getElem?_of_mem member
  obtain ⟨worker, slot⟩ := entry
  simp only [List.getElem?_zip_eq_some, List.getElem?_drop, Nat.add_comm 1] at found
  obtain ⟨other, slotFound, shows⟩ := sound.slot_of_worker found.1
  have same : other = slot := Option.some.inj (slotFound.symm.trans found.2)
  subst other
  have negative := worker.watched_neg_iff
  rw [← shows] at negative
  simp only [agrees, PollSlot.subject_of_watched shows, Bool.and_eq_true, beq_iff_eq, true_and]
  cases muted : worker.muted <;> simp_all

theorem lt_wordMax (sound : Lockstep listener table) : table.ceiling < Capacity.wordMax :=
  Nat.lt_of_le_of_lt sound.addressable (by decide)

theorem lt_wordMax_of_worker (sound : Lockstep listener table) {index : Nat} {worker : Worker}
    (found : table.workers[index]? = some worker) : index < Capacity.wordMax := by
  have inside : index < table.workers.length := (List.getElem?_eq_some_iff.mp found).1
  have word := sound.lt_wordMax
  have room := sound.room
  have bounded := sound.bounded
  omega

theorem next_mod (sound : Lockstep listener table) {index : Nat} {worker : Worker}
    (found : table.workers[index]? = some worker) : (index + 1) % UInt64.size = index + 1 :=
  Nat.mod_eq_of_lt (Nat.add_lt_of_lt_sub (sound.lt_wordMax_of_worker found))

end Lockstep

theorem Lockstep.new (listener : Int) (ceiling : Nat) :
    Lockstep listener (.new listener ceiling) := by
  constructor
  · rfl
  · exact Nat.le_refl 0
  · exact Nat.zero_le _
  · exact Nat.min_le_right _ _

/-! ### What each operation does to the table -/

theorem descriptors_cleared (table : ProcessTable) :
    table.cleared.slots.map (·.descriptor) = table.slots.map (·.descriptor) := by
  simp [cleared]

theorem descriptors_notePolled (flags : List PollFlags) (slots : List PollSlot) :
    (notePolled flags slots).map (·.descriptor) = slots.map (·.descriptor) := by
  induction slots generalizing flags with
  | nil => cases flags <;> rfl
  | cons slot slots ih => cases flags <;> simp [notePolled, ih]

theorem descriptors_polled (includeListener : Bool) (flags : List PollFlags)
    (table : ProcessTable) :
    (table.polled includeListener flags).slots.map (·.descriptor) =
      table.slots.map (·.descriptor) := by
  simp only [polled, pollSlots, List.map_append, descriptors_notePolled]
  rw [← List.map_append, List.take_append_drop]

theorem descriptors_setReturned (slot : Nat) (flags : PollFlags) (table : ProcessTable) :
    (table.setReturned slot flags).slots.map (·.descriptor) = table.slots.map (·.descriptor) := by
  apply List.ext_getElem?
  intro position
  simp only [setReturned, List.getElem?_map, List.getElem?_modify]
  cases table.slots[position]? with
  | none => rfl
  | some entry =>
      simp only [Option.map_some, Option.map_eq_map, Option.some.injEq]
      split <;> rfl

theorem reserveOne_of_lt {table : ProcessTable} (space : table.workers.length < table.capacity) :
    table.reserveOne = .ok ([], table) := if_pos space

theorem reserveOne_of_none {table : ProcessTable}
    (full : ¬table.workers.length < table.capacity)
    (grown : Capacity.grown? table.capacity table.ceiling = none) :
    table.reserveOne = .error (.capacityExhausted table.capacity) := by
  rw [reserveOne, if_neg (by exact full), grown]

theorem reserveOne_of_some {table : ProcessTable} {capacity : Nat}
    (full : ¬table.workers.length < table.capacity)
    (grown : Capacity.grown? table.capacity table.ceiling = some capacity) :
    table.reserveOne = .ok ([.tableGrew table.capacity capacity], { table with capacity }) := by
  rw [reserveOne, if_neg (by exact full), grown]

theorem reserveOne_cases {table after : ProcessTable} {notices : List Notice}
    (made : table.reserveOne = .ok (notices, after)) :
    (notices = [] ∧ after = table ∧ table.length < table.capacity) ∨
      ∃ capacity, notices = [.tableGrew table.capacity capacity] ∧
        after = { table with capacity } ∧ table.capacity ≤ table.length ∧
        Capacity.grown? table.capacity table.ceiling = some capacity := by
  unfold reserveOne at made
  split at made
  · rename_i space
    simp only [Except.ok.injEq, Prod.mk.injEq] at made
    exact Or.inl ⟨made.1.symm, made.2.symm, space⟩
  · rename_i full
    split at made
    · simp at made
    · rename_i capacity grown
      simp only [Except.ok.injEq, Prod.mk.injEq] at made
      exact Or.inr ⟨capacity, made.1.symm, made.2.symm, Nat.not_lt.mp full, grown⟩

/-- What making room can come to: no memory is asked for, one of two requests is refused, or both
are granted. -/
inductive Reserving (kernel : Kernel σ) (table : ProcessTable) (state : σ) :
    Except TableError (List Notice × ProcessTable) → σ → Prop where
  | unasked {room : Except TableError (List Notice × ProcessTable)} : table.reserveOne = room →
      Reserving kernel table state room state
  | refused {count : Nat} {error : MemoryError} {after : σ} : table.capacity ≤ table.length →
      kernel.allocate count state = (.error error, after) →
        Reserving kernel table state (.error (.outOfMemory error)) after
  | halfway {count others : Nat} {error : MemoryError} {middle after : σ} :
      table.capacity ≤ table.length → kernel.allocate count state = (.ok (), middle) →
        kernel.allocate others middle = (.error error, after) →
          Reserving kernel table state (.error (.outOfMemory error)) after
  | granted {count others : Nat} {middle after : σ} {grown : List Notice × ProcessTable} :
      table.reserveOne = .ok grown → kernel.allocate count state = (.ok (), middle) →
        kernel.allocate others middle = (.ok (), after) →
          Reserving kernel table state (.ok grown) after

theorem reserving_of_reserve {kernel : Kernel σ} {table : ProcessTable} {state after : σ}
    {room : Except TableError (List Notice × ProcessTable)}
    (answer : table.reserve kernel state = (room, after)) :
    Reserving kernel table state room after := by
  unfold reserve at answer
  cases made : table.reserveOne with
  | error error =>
      rw [made] at answer
      cases answer
      exact .unasked made
  | ok grown =>
      simp only [made] at answer
      split at answer
      · cases answer
        exact .unasked made
      · rename_i space
        have full : table.capacity ≤ table.length := Nat.not_lt.mp space
        rcases first : kernel.allocate (grown.2.capacity - table.workers.length) state with
          ⟨granted, middle⟩
        cases granted with
        | error error =>
            simp only [first] at answer
            cases answer
            exact .refused full first
        | ok granted =>
            rcases second : kernel.allocate (grown.2.capacity + 1 - table.slots.length) middle with
              ⟨granted, last⟩
            cases granted with
            | error error =>
                simp only [first, second] at answer
                cases answer
                exact .halfway full first second
            | ok granted =>
                simp only [first, second] at answer
                cases answer
                exact .granted made first second

/-- Making room comes to what it comes to with the memory granted, or the table had to grow and
memory was refused. -/
theorem reserve_cases (kernel : Kernel σ) (table : ProcessTable) (state : σ) :
    (table.reserve kernel state).1 = table.reserveOne ∨
      table.capacity ≤ table.length ∧
        ∃ error, (table.reserve kernel state).1 = .error (.outOfMemory error) := by
  rcases answer : table.reserve kernel state with ⟨room, after⟩
  cases reserving_of_reserve answer with
  | unasked same => exact .inl same.symm
  | refused full _ => exact .inr ⟨full, _, rfl⟩
  | halfway full _ _ => exact .inr ⟨full, _, rfl⟩
  | granted same _ _ => exact .inl same.symm

theorem reserveOne_of_reserve {kernel : Kernel σ} {table grown : ProcessTable} {state : σ}
    {notices : List Notice} (made : (table.reserve kernel state).1 = .ok (notices, grown)) :
    table.reserveOne = .ok (notices, grown) := by
  rcases reserve_cases kernel table state with granted | ⟨_, error, refused⟩
  · exact granted ▸ made
  · cases refused.symm.trans made

namespace Lockstep

variable {listener : Int} {table : ProcessTable}

theorem withSlots (sound : Lockstep listener table) {slots : List PollSlot}
    (same : slots.map (·.descriptor) = table.slots.map (·.descriptor)) :
    Lockstep listener { table with slots } :=
  ⟨same.trans sound.inStep, sound.room, sound.bounded, sound.addressable⟩

theorem cleared (sound : Lockstep listener table) : Lockstep listener table.cleared :=
  sound.withSlots table.descriptors_cleared

theorem polled (sound : Lockstep listener table) (includeListener : Bool)
    (flags : List PollFlags) : Lockstep listener (table.polled includeListener flags) :=
  sound.withSlots (table.descriptors_polled includeListener flags)

theorem setReturned (sound : Lockstep listener table) (slot : Nat) (flags : PollFlags) :
    Lockstep listener (table.setReturned slot flags) :=
  sound.withSlots (table.descriptors_setReturned slot flags)

theorem update (sound : Lockstep listener table) {index : Nat} {worker changed : Worker}
    (found : table.workers[index]? = some worker) (same : changed.watched = worker.watched) :
    Lockstep listener (table.update index changed) := by
  constructor
  · obtain ⟨inside, rfl⟩ := List.getElem?_eq_some_iff.mp found
    simp only [ProcessTable.update, List.map_set, same, sound.inStep]
    rw [← List.getElem_map Worker.watched (h := by simpa using inside), List.set_getElem_self]
  · simpa [ProcessTable.update] using sound.room
  · exact sound.bounded
  · exact sound.addressable

theorem reserveOne (sound : Lockstep listener table) {notices : List Notice}
    {after : ProcessTable} (made : table.reserveOne = .ok (notices, after)) :
    Lockstep listener after ∧ after.length < after.capacity := by
  rcases reserveOne_cases made with ⟨_, rfl, space⟩ | ⟨capacity, _, rfl, _, grown⟩
  · exact ⟨sound, space⟩
  · have bounds := Capacity.grown?_bounds (Nat.le_of_lt sound.lt_wordMax) grown
    have room := sound.room
    refine ⟨⟨sound.inStep, ?_, bounds.2, sound.addressable⟩, ?_⟩
    · show table.workers.length ≤ capacity
      omega
    · show table.workers.length < capacity
      omega

theorem push (sound : Lockstep listener table) {worker : Worker} (unmuted : worker.muted = false)
    (space : table.workers.length < table.capacity) : Lockstep listener (table.push worker) := by
  constructor
  · simp [ProcessTable.push, sound.inStep, PollSlot.ofDescriptor, Worker.watched, unmuted]
  · simpa [ProcessTable.push, Nat.succ_le_iff] using space
  · exact sound.bounded
  · exact sound.addressable

theorem remove (sound : Lockstep listener table) (index : Nat) :
    Lockstep listener (table.remove index).2 := by
  unfold ProcessTable.remove
  split
  · exact sound
  · rename_i worker found
    have inside : index < table.workers.length := (List.getElem?_eq_some_iff.mp found).1
    constructor
    · simp only [map_swapRemove, sound.inStep]
      rw [swapRemove_succ_cons listener (by simpa using inside)]
    · have room := sound.room
      simp only [length_swapRemove]
      omega
    · exact sound.bounded
    · exact sound.addressable

theorem mute (sound : Lockstep listener table) (index : Nat) :
    Lockstep listener (table.mute index) := by
  unfold ProcessTable.mute
  split
  · exact sound
  · rename_i worker found
    constructor
    · obtain ⟨slot, slotFound, shows⟩ := sound.slot_of_worker found
      simp only [modify_eq_set PollSlot.ignored slotFound, List.map_set, sound.inStep,
        PollSlot.ignored_of_watched shows, List.set_cons_succ]
    · simpa using sound.room
    · exact sound.bounded
    · exact sound.addressable

end Lockstep

/-! ### Actions and the machine that checks them -/

def refill (index : Nat) (buffer : LineBuffer) (table : ProcessTable) : ProcessTable :=
  match table.workers[index]? with
  | none => table
  | some worker => table.update index { worker with buffer }

theorem Lockstep.refill {listener : Int} {table : ProcessTable} (sound : Lockstep listener table)
    (index : Nat) (buffer : LineBuffer) : Lockstep listener (table.refill index buffer) := by
  unfold ProcessTable.refill
  split
  · exact sound
  · rename_i worker found
    exact sound.update found rfl

inductive Action where
  | reserve (granted : Bool)
  | push (worker : Worker)
  | remove (index : Nat)
  | mute (index : Nat)
  | refill (index : Nat) (buffer : LineBuffer)
  | pollSlots (includeListener : Bool)
  | answer (includeListener : Bool) (flags : List PollFlags)
  | note (slot : Nat) (flags : PollFlags)
  | listenerReady
  | returned (index : Nat)

inductive Fault where
  | indexOutOfRange
  | wordUnderflow
  | wordOverflow
  | noRoom
deriving DecidableEq

namespace Fault

def sum (left right : Nat) : Except Fault Nat :=
  if Capacity.wordMax < left + right then .error .wordOverflow else .ok (left + right)

def difference (left right : Nat) : Except Fault Nat :=
  if left < right then .error .wordUnderflow else .ok (left - right)

def requireIndex (index : Nat) (items : List α) : Except Fault Unit :=
  if index < items.length then .ok () else .error .indexOutOfRange

end Fault

/-- A table in use, and whether room was made that no worker has taken since. -/
structure Booked where
  table : ProcessTable
  reserved : Bool

namespace Action

open Fault

/-- What the action makes of a table on a machine that stops at a fault. -/
def run : Action → ProcessTable → Except Fault ProcessTable
  | .reserve granted, table =>
      if table.workers.length < table.capacity then .ok table
      else match Capacity.grown? table.capacity table.ceiling with
        | none => .ok table
        | some capacity => do
            let _ ← difference capacity table.workers.length
            let _ ← difference (← sum capacity 1) table.slots.length
            return if granted then { table with capacity } else table
  | .push worker, table =>
      if table.workers.length < table.capacity then .ok (table.push worker) else .error .noRoom
  | .remove index, table =>
      if table.workers.length ≤ index then .ok table
      else do
        requireIndex (← sum index 1) table.slots
        requireIndex index table.workers
        return (table.remove index).2
  | .mute index, table =>
      if table.workers.length ≤ index then .ok table
      else do
        requireIndex (← sum index 1) table.slots
        return table.mute index
  | .refill index buffer, table => .ok (table.refill index buffer)
  | .pollSlots includeListener, table =>
      if table.slots.length < skipped includeListener then .error .indexOutOfRange
      else .ok table.cleared
  | .answer includeListener flags, table => .ok (table.polled includeListener flags)
  | .note slot flags, table => .ok (table.setReturned slot flags)
  | .listenerReady, table => do
      requireIndex 0 table.slots
      return table
  | .returned index, table => do
      let _ ← sum index 1
      return table

def perform : Action → Booked → Booked
  | .reserve granted, booked =>
      match booked.table.reserveOne with
      | .error _ => booked
      | .ok (notices, table) =>
          if granted || notices.isEmpty then { table, reserved := true } else booked
  | .push worker, booked => { table := booked.table.push worker, reserved := false }
  | .remove index, booked => { booked with table := (booked.table.remove index).2 }
  | .mute index, booked => { booked with table := booked.table.mute index }
  | .refill index buffer, booked => { booked with table := booked.table.refill index buffer }
  | .pollSlots _, booked => { booked with table := booked.table.cleared }
  | .answer includeListener flags, booked =>
      { booked with table := booked.table.polled includeListener flags }
  | .note slot flags, booked => { booked with table := booked.table.setReturned slot flags }
  | .listenerReady, booked | .returned _, booked => booked

/-- A worker is added only into room that was made for it. -/
def IsCovered : Action → Booked → Prop
  | .push _, booked => booked.reserved = true
  | _, _ => True

instance : (action : Action) → (booked : Booked) → Decidable (action.IsCovered booked)
  | .push _, booked => inferInstanceAs (Decidable (booked.reserved = true))
  | .reserve _, _ | .remove _, _ | .mute _, _ | .refill .., _ | .pollSlots _, _ | .answer .., _
  | .note .., _ | .listenerReady, _ | .returned _, _ => inferInstanceAs (Decidable True)

/-- When an action keeps a table in step: a worker comes unmuted into room that was made for it, and
what a poll found is asked for a place that another place follows. -/
def Allowed : Action → Booked → Prop
  | .push worker, booked => booked.reserved = true ∧ worker.muted = false
  | .returned index, _ => index < Capacity.wordMax
  | _, _ => True

end Action

namespace Booked

structure Sound (listener : Int) (booked : Booked) : Prop where
  lockstep : Lockstep listener booked.table
  space : booked.reserved = true → booked.table.length < booked.table.capacity

theorem Sound.new (listener : Int) (ceiling : Nat) :
    Sound listener { table := .new listener ceiling, reserved := false } :=
  ⟨Lockstep.new listener ceiling, by simp⟩

end Booked

namespace Action

variable {listener : Int} {booked : Booked}

open Fault

end Action

namespace Booked.Sound

variable {listener : Int} {booked : Booked}

theorem withTable (sound : Sound listener booked) {table : ProcessTable}
    (lockstep : Lockstep listener table)
    (fewer : table.workers.length ≤ booked.table.workers.length)
    (same : table.capacity = booked.table.capacity) :
    Sound listener { booked with table } := by
  refine ⟨lockstep, fun reserved => ?_⟩
  have space := sound.space reserved
  simp only [length] at space ⊢
  omega

theorem reserve (sound : Sound listener booked) (granted : Bool) :
    Sound listener ((Action.reserve granted).perform booked) := by
  simp only [Action.perform]
  split
  · exact sound
  · rename_i made
    obtain ⟨lockstep, space⟩ := sound.lockstep.reserveOne made
    split
    · exact ⟨lockstep, fun _ => space⟩
    · exact sound

theorem perform (sound : Sound listener booked) {action : Action}
    (allowed : action.Allowed booked) : Sound listener (action.perform booked) := by
  cases action with
  | reserve granted => exact sound.reserve granted
  | push worker =>
      exact ⟨sound.lockstep.push allowed.2 (sound.space allowed.1), by simp [Action.perform]⟩
  | remove index =>
      apply sound.withTable (sound.lockstep.remove index)
      · unfold ProcessTable.remove
        split <;> simp
      · unfold ProcessTable.remove
        split <;> rfl
  | mute index =>
      apply sound.withTable (sound.lockstep.mute index)
      · unfold ProcessTable.mute
        split <;> simp
      · unfold ProcessTable.mute
        split <;> rfl
  | refill index buffer =>
      apply sound.withTable (sound.lockstep.refill index buffer)
      · unfold ProcessTable.refill
        split <;> simp [update]
      · unfold ProcessTable.refill
        split <;> rfl
  | pollSlots includeListener =>
      exact sound.withTable sound.lockstep.cleared (Nat.le_refl _) rfl
  | answer includeListener flags =>
      exact sound.withTable (sound.lockstep.polled includeListener flags) (Nat.le_refl _) rfl
  | note slot flags =>
      exact sound.withTable (sound.lockstep.setReturned slot flags) (Nat.le_refl _) rfl
  | listenerReady => exact sound
  | returned index => exact sound

end Booked.Sound

/-! ### Actions one after another -/

def performAll (actions : List Action) (booked : Booked) : Booked :=
  actions.foldl (fun booked action => action.perform booked) booked

def Covered : List Action → Booked → Prop
  | [], _ => True
  | action :: actions, booked => action.IsCovered booked ∧ Covered actions (action.perform booked)

instance decidableCovered :
    (actions : List Action) → (booked : Booked) → Decidable (Covered actions booked)
  | [], _ => inferInstanceAs (Decidable True)
  | action :: actions, booked =>
      have := decidableCovered actions (action.perform booked)
      inferInstanceAs (Decidable (_ ∧ _))

/-- Each action is allowed when its turn comes. -/
def Orderly : List Action → Booked → Prop
  | [], _ => True
  | action :: actions, booked => action.Allowed booked ∧ Orderly actions (action.perform booked)

theorem performAll_append (first second : List Action) (booked : Booked) :
    performAll (first ++ second) booked = performAll second (performAll first booked) :=
  List.foldl_append

theorem orderly_append {first second : List Action} {booked : Booked} :
    Orderly (first ++ second) booked ↔
      Orderly first booked ∧ Orderly second (performAll first booked) := by
  induction first generalizing booked with
  | nil => simp [Orderly, performAll]
  | cons action first ih => simp [Orderly, ih, performAll, and_assoc]

theorem performAll_sound {listener : Int} {actions : List Action} {booked : Booked}
    (sound : Booked.Sound listener booked) (orderly : Orderly actions booked) :
    Booked.Sound listener (performAll actions booked) := by
  induction actions generalizing booked with
  | nil => exact sound
  | cons action actions ih => exact ih (sound.perform orderly.1) orderly.2

end ProcessTable

end Superserver
