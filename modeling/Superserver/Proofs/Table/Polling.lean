import Superserver.Proofs.Table.Lockstep

/-!
What a poll leaves in a table. Main statements: the polled slots are the listener's, if it is among
them, and then those of the workers in their order; a worker shows what this poll found at its own
place, and nothing is left of what an earlier poll found.
-/

namespace Superserver

namespace PollSlot

theorem returned_polled (flags : PollFlags) (slot : PollSlot) :
    (slot.polled flags).returned = if slot.descriptor < 0 then PollFlags.none else flags := by
  unfold polled
  split <;> rfl

theorem cleared_eq_polled (slot : PollSlot) : slot.cleared = slot.polled PollFlags.none := by
  unfold polled
  split <;> rfl

theorem returned_ignored (slot : PollSlot) : slot.ignored.returned = slot.returned := by
  unfold ignored
  split <;> rfl

end PollSlot

namespace ProcessTable

/-- What the answer to a poll says of a worker: what stands at its place behind the listener's, if
that was polled, and nothing of a muted worker, whose slot polling passes over. -/
def answered (includeListener : Bool) (flags : List PollFlags) (index : Nat) (worker : Worker) :
    PollFlags :=
  if worker.muted then PollFlags.none
  else flags.getD (index + includeListener.toNat) PollFlags.none

theorem getElem?_notePolled (flags : List PollFlags) (slots : List PollSlot) (position : Nat) :
    (notePolled flags slots)[position]? =
      slots[position]?.map (·.polled (flags.getD position PollFlags.none)) := by
  induction slots generalizing flags position with
  | nil => cases flags <;> simp [notePolled]
  | cons slot slots ih =>
      cases flags with
      | nil =>
          cases position with
          | zero => simp [notePolled, PollSlot.cleared_eq_polled]
          | succ position => simp [notePolled, ih]
      | cons found flags =>
          cases position with
          | zero => simp [notePolled]
          | succ position => simp [notePolled, ih]

theorem slots_polled_true (flags : List PollFlags) (table : ProcessTable) :
    (table.polled true flags).slots = notePolled flags table.slots := by
  simp [polled, pollSlots, skipped]

theorem slots_polled_false (flags : List PollFlags) (table : ProcessTable) :
    (table.polled false flags).slots =
      table.slots.take 1 ++ notePolled flags (table.slots.drop 1) := by
  simp [polled, pollSlots, skipped]

section

variable {listener : Int} {table : ProcessTable}

theorem Lockstep.slots_eq_cons (sound : Lockstep listener table) :
    ∃ first rest, table.slots = first :: rest ∧ first.descriptor = listener ∧
      rest.map (·.descriptor) = table.workers.map Worker.watched := by
  have inStep := sound.inStep
  cases shape : table.slots with
  | nil => simp [shape] at inStep
  | cons first rest =>
      rw [shape, List.map_cons, List.cons.injEq] at inStep
      exact ⟨first, rest, rfl, inStep.1, inStep.2⟩

theorem descriptors_pollSlots (sound : Lockstep listener table) (includeListener : Bool) :
    (table.pollSlots includeListener).map (·.descriptor) =
      (if includeListener then [listener] else []) ++ table.workers.map Worker.watched := by
  obtain ⟨first, rest, shape, shows, inStep⟩ := sound.slots_eq_cons
  cases includeListener with
  | true => simp [pollSlots, skipped, shape, shows, inStep]
  | false => simp [pollSlots, skipped, shape, inStep]

theorem length_pollSlots (sound : Lockstep listener table) (includeListener : Bool) :
    (table.pollSlots includeListener).length = table.length + includeListener.toNat := by
  have shown := congrArg List.length (descriptors_pollSlots sound includeListener)
  cases includeListener with
  | true => simpa [length, Nat.add_comm] using shown
  | false => simpa [length] using shown

/-- The slot of a worker after a poll, wherever the polled part of the table begins. -/
theorem slot_polled (sound : Lockstep listener table) (includeListener : Bool)
    (flags : List PollFlags) {index : Nat} {worker : Worker}
    (found : table.workers[index]? = some worker) :
    ∃ slot : PollSlot, slot.descriptor = worker.watched ∧
      (table.polled includeListener flags).slots[index + 1]? =
        some (slot.polled (flags.getD (index + includeListener.toNat) PollFlags.none)) := by
  obtain ⟨slot, slotFound, shows⟩ := sound.slot_of_worker found
  obtain ⟨first, rest, shape, _, _⟩ := sound.slots_eq_cons
  refine ⟨slot, shows, ?_⟩
  cases includeListener with
  | true =>
      rw [slots_polled_true, getElem?_notePolled, slotFound]
      rfl
  | false =>
      rw [shape, List.getElem?_cons_succ] at slotFound
      rw [slots_polled_false, shape]
      simp [getElem?_notePolled, slotFound]

theorem returned_polled (sound : Lockstep listener table) (includeListener : Bool)
    (flags : List PollFlags) {index : Nat} {worker : Worker}
    (found : table.workers[index]? = some worker) :
    (table.polled includeListener flags).returned index =
      answered includeListener flags index worker := by
  obtain ⟨slot, shows, place⟩ := slot_polled sound includeListener flags found
  have negative := worker.watched_neg_iff
  simp only [returned, sound.next_mod found, place, PollSlot.returned_polled, shows, answered, negative]

theorem listenerReady_polled_false (flags : List PollFlags) (table : ProcessTable) :
    (table.cleared.polled false flags).listenerReady = false := by
  unfold listenerReady
  rw [slots_polled_false]
  cases shape : table.slots with
  | nil => simp [cleared, shape, notePolled]
  | cons first rest =>
      simp [cleared, shape, PollSlot.cleared, PollFlags.meets, PollFlags.none]

theorem listenerReady_polled_true {descriptor : Descriptor}
    (sound : Lockstep descriptor table) (flags : List PollFlags) :
    (table.polled true flags).listenerReady =
      (flags.headD PollFlags.none).meets PollFlags.readable := by
  obtain ⟨first, rest, shape, shows, _⟩ := sound.slots_eq_cons
  have watched : ¬first.descriptor < 0 := by omega
  unfold listenerReady
  rw [slots_polled_true, shape]
  cases flags with
  | nil => simp [notePolled, PollSlot.cleared]
  | cons found flags => simp [notePolled, PollSlot.returned_polled, watched]

end

/-! ### What later changes leave of it -/

theorem returned_update (index position : Nat) (worker : Worker) (table : ProcessTable) :
    (table.update index worker).returned position = table.returned position := rfl

theorem listenerReady_update (index : Nat) (worker : Worker) (table : ProcessTable) :
    (table.update index worker).listenerReady = table.listenerReady := rfl

theorem slots_mute {table : ProcessTable} {index : Nat} (inside : index < table.workers.length) :
    (table.mute index).slots = table.slots.modify (index + 1) PollSlot.ignored := by
  unfold mute
  rw [List.getElem?_eq_getElem inside]

theorem returned_mute (index position : Nat) (table : ProcessTable) :
    (table.mute index).returned position = table.returned position := by
  by_cases inside : index < table.workers.length
  · simp only [returned, slots_mute inside, List.getElem?_modify]
    cases table.slots[(position + 1) % UInt64.size]? with
    | none => rfl
    | some slot =>
        simp only [Option.map_eq_map, Option.map_some]
        split
        · exact slot.returned_ignored
        · rfl
  · rw [mute, List.getElem?_eq_none (Nat.le_of_not_lt inside)]

theorem listenerReady_mute (index : Nat) (table : ProcessTable) :
    (table.mute index).listenerReady = table.listenerReady := by
  by_cases inside : index < table.workers.length
  · simp only [listenerReady, slots_mute inside]
    cases table.slots with
    | nil => rfl
    | cons first rest => rfl
  · rw [mute, List.getElem?_eq_none (Nat.le_of_not_lt inside)]

end ProcessTable

end Superserver
