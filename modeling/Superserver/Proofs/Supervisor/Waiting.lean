import Superserver.Proofs.Supervisor.Gate
import Superserver.Proofs.Supervisor.Transcript

/-!
How long a pass waits and what it watches meanwhile. Main statement: a pass polls once, and without
a limit of time just when nobody left in it, there is room for one more worker and nobody is muted;
then the listener and the pipe of every worker are polled for reading.
-/

namespace Superserver

namespace Call

def polled? : Call → Option (List PollSlot × Timeout)
  | .poll slots timeout _ => some (slots, timeout)
  | _ => none

end Call

/-! ### What the slots ask for -/

theorem map_modify_of_same {view : α → β} {change : α → α}
    (same : ∀ item, view (change item) = view item) (items : List α) (index : Nat) :
    (items.modify index change).map view = items.map view := by
  apply List.ext_getElem?
  intro position
  simp only [List.getElem?_map, List.getElem?_modify]
  cases items[position]? with
  | none => rfl
  | some item =>
      by_cases here : index = position
      · simp [here, same]
      · simp [here]

theorem swapRemove_subset (index : Nat) (items : List α) : swapRemove index items ⊆ items := by
  intro item member
  unfold swapRemove at member
  split at member
  · cases member
  · rename_i last found
    rcases List.mem_or_eq_of_mem_set ((List.dropLast_sublist _).subset member) with kept | rfl
    · exact kept
    · exact List.mem_of_getLast? found

namespace PollSlot

theorem requested_ignored (slot : PollSlot) : slot.ignored.requested = slot.requested := by
  unfold ignored
  split <;> rfl

theorem requested_polled (flags : PollFlags) (slot : PollSlot) :
    (slot.polled flags).requested = slot.requested := by
  unfold polled
  split <;> rfl

end PollSlot

namespace ProcessTable

theorem requested_notePolled (flags : List PollFlags) (slots : List PollSlot) :
    (notePolled flags slots).map (·.requested) = slots.map (·.requested) := by
  induction slots generalizing flags with
  | nil => cases flags <;> rfl
  | cons slot slots ih =>
      cases flags with
      | nil => simp [notePolled, ih, PollSlot.cleared]
      | cons found flags => simp [notePolled, ih, PollSlot.requested_polled]

theorem requested_setReturned (slot : Nat) (flags : PollFlags) (table : ProcessTable) :
    (table.setReturned slot flags).slots.map (·.requested) = table.slots.map (·.requested) := by
  rw [setReturned, map_modify_of_same]
  intro entry
  rfl

def WatchesReading (table : ProcessTable) : Prop :=
  ∀ wanted ∈ table.slots.map (·.requested), wanted = PollFlags.readable

namespace WatchesReading

variable {table : ProcessTable} {booked : Booked} {actions : List Action}

theorem new (listener : Int) (ceiling : Nat) : WatchesReading (.new listener ceiling) := by
  intro wanted member
  exact List.mem_singleton.mp member

theorem cleared (watches : table.WatchesReading) : table.cleared.WatchesReading := by
  have same : table.cleared.slots.map (·.requested) = table.slots.map (·.requested) := by
    simp [ProcessTable.cleared, PollSlot.cleared]
  intro wanted member
  exact watches wanted (same ▸ member)

theorem reserve {notices : List Notice} {grown : ProcessTable} (watches : table.WatchesReading)
    (made : table.reserveOne = .ok (notices, grown)) : grown.WatchesReading := by
  rcases reserveOne_cases made with ⟨_, rfl, _⟩ | ⟨capacity, _, rfl, _, _⟩
  · exact watches
  · exact watches

theorem perform (watches : booked.table.WatchesReading) (action : Action) :
    (action.perform booked).table.WatchesReading := by
  cases action with
  | reserve granted =>
      simp only [Action.perform]
      split
      · exact watches
      · rename_i made
        split
        · exact watches.reserve made
        · exact watches
  | push worker =>
      intro wanted member
      simp only [Action.perform, push, List.map_append, List.mem_append] at member
      rcases member with member | member
      · exact watches wanted member
      · exact List.mem_singleton.mp member
  | remove index =>
      intro wanted member
      simp only [Action.perform, remove] at member
      split at member
      · exact watches wanted member
      · rw [map_swapRemove] at member
        exact watches wanted (swapRemove_subset _ _ member)
  | mute index =>
      intro wanted member
      simp only [Action.perform, mute] at member
      split at member
      · exact watches wanted member
      · rw [map_modify_of_same PollSlot.requested_ignored] at member
        exact watches wanted member
  | refill index buffer =>
      simp only [Action.perform, refill]
      split
      · exact watches
      · exact watches
  | pollSlots includeListener => exact watches.cleared
  | answer includeListener flags =>
      intro wanted member
      simp only [Action.perform, polled, pollSlots, List.map_append, requested_notePolled] at member
      rw [← List.map_append, List.take_append_drop] at member
      exact watches wanted member
  | note slot flags =>
      intro wanted member
      simp only [Action.perform, requested_setReturned] at member
      exact watches wanted member
  | listenerReady => exact watches
  | returned index => exact watches

theorem performAll (watches : booked.table.WatchesReading) (actions : List Action) :
    (performAll actions booked).table.WatchesReading := by
  induction actions generalizing booked with
  | nil => exact watches
  | cons action actions ih => exact ih (watches.perform action)

end WatchesReading

end ProcessTable

namespace Supervisor

open ProcessTable Kernel

theorem Leads.watchesReading {actions : List Action} {table after : ProcessTable}
    (leads : Leads actions table after) (watches : table.WatchesReading) :
    after.WatchesReading := by
  have begins : ({ table, reserved := false } : Booked).table.WatchesReading := watches
  rw [← leads.reached false]
  exact begins.performAll actions

/-! ### What is polled -/

section

variable {σ : Type} (kernel : Kernel σ)

theorem watchesReading_passes (listener : Listener) (command : ShellCommand)
    (limit : AdmissionLimit) (state : σ) (count : Nat) :
    (passes kernel (.new listener command limit) state count).supervisor.table.WatchesReading :=
  (passes_leads_of_new kernel listener command limit state count).watchesReading
    (WatchesReading.new listener.descriptor maxEntries)

theorem requested_offered {supervisor : Supervisor}
    (watches : supervisor.table.WatchesReading) (state : σ) :
    ∀ slot ∈ (supervisor.look kernel state).offered, slot.requested = PollFlags.readable := by
  intro slot member
  have reaped : (supervisor.look kernel state).reaped.table.WatchesReading :=
    (reapFrom_leads kernel supervisor.table.length 0 supervisor.table state).watchesReading watches
  exact reaped.cleared _ (List.mem_map_of_mem (List.mem_of_mem_drop member))

/-! ### How long it waits -/

theorem length_reapFrom_le (unasked index : Nat) (table : ProcessTable) (state : σ) :
    (reapFrom kernel unasked index table state).table.workers.length ≤ table.workers.length :=
  length_le_of_steps (reapFrom_steps kernel unasked index table state)

theorem removed_reapFrom (unasked index : Nat) (table : ProcessTable) (state : σ) :
    let reaped := reapFrom kernel unasked index table state
    (reaped.removed = true → reaped.table.workers.length < table.workers.length) ∧
      (reaped.removed = false → reaped.table.workers = table.workers) := by
  induction unasked generalizing index table state with
  | zero =>
      constructor
      · intro removed
        cases removed
      · intro _
        rfl
  | succ unasked ih =>
      cases found : table.workers[index]? with
      | none => simp [reapFrom, found]
      | some worker =>
          rcases asked : lastReports kernel worker state with ⟨last, after⟩
          cases last with
          | none =>
              simp only [reapFrom, found, asked]
              exact ih (index + 1) table after
          | some reports =>
              have inside : index < table.workers.length := (List.getElem?_eq_some_iff.mp found).1
              have fewer := length_reapFrom_le kernel unasked index (table.remove index).2
                (kernel.close worker.diagnostics after)
              have left : (table.remove index).2.workers.length = table.workers.length - 1 := by
                simp [remove, found]
              simp only [reapFrom, found, asked]
              constructor
              · intro _
                omega
              · intro kept
                cases kept

/-- After a removal a pass only looks. Else it waits until something happens if the poll set shows
all that may happen, and for 50 ms if it does not. -/
theorem timeout_look (supervisor : Supervisor) (state : σ) :
    let look := supervisor.look kernel state
    let tracked := look.reaped.table.workers
    (look.timeout = .unbounded ∧ tracked = supervisor.table.workers ∧
      tracked.length < supervisor.limit.workers.toNat ∧
        ∀ worker ∈ tracked, worker.muted = false) ∨
    (look.timeout = .milliseconds 50 ∧ tracked = supervisor.table.workers ∧
      (supervisor.limit.workers.toNat ≤ tracked.length ∨
        ∃ worker ∈ tracked, worker.muted = true)) ∨
    (look.timeout = .milliseconds 0 ∧ tracked.length < supervisor.workerCount) := by
  intro look tracked
  obtain ⟨fewer, same⟩ : (look.reaped.removed = true → tracked.length < supervisor.workerCount) ∧
      (look.reaped.removed = false → tracked = supervisor.table.workers) :=
    removed_reapFrom kernel supervisor.table.length 0 supervisor.table state
  have chosen : look.timeout =
      waitTimeout look.reaped.removed look.accepting look.reaped.table.anyMuted := rfl
  have room : look.accepting = decide (tracked.length < supervisor.limit.workers.toNat) := rfl
  by_cases removed : look.reaped.removed = true
  · right
    right
    rw [chosen, waitTimeout, if_pos removed]
    exact ⟨rfl, fewer removed⟩
  · have kept := same (Bool.eq_false_iff.mpr removed)
    rw [chosen, waitTimeout, if_neg removed]
    by_cases space : tracked.length < supervisor.limit.workers.toNat
    · have accepting : look.accepting = true := by
        rw [room]
        exact decide_eq_true space
      cases muted : look.reaped.table.anyMuted with
      | true =>
          right
          left
          obtain ⟨worker, member, quiet⟩ := List.any_eq_true.mp muted
          rw [if_neg (by simp)]
          exact ⟨rfl, kept, .inr ⟨worker, member, quiet⟩⟩
      | false =>
          left
          rw [if_pos (by simp [accepting])]
          refine ⟨rfl, kept, space, ?_⟩
          intro worker member
          exact Bool.eq_false_iff.mpr (List.any_eq_false.mp muted worker member)
    · right
      left
      have full : look.accepting = false := by
        rw [room]
        exact decide_eq_false space
      rw [if_neg (by simp [full])]
      exact ⟨rfl, kept, .inl (Nat.le_of_not_lt space)⟩

end

/-! ### The poll of a pass -/

def pollsIn (calls : List Call) : List (List PollSlot × Timeout) := calls.filterMap Call.polled?

theorem pollsIn_append (first second : List Call) :
    pollsIn (first ++ second) = pollsIn first ++ pollsIn second :=
  List.filterMap_append ..

theorem pollsIn_of_none {calls : List Call} (none : ∀ call ∈ calls, call.polled? = Option.none) :
    pollsIn calls = [] :=
  List.filterMap_eq_nil_iff.mpr none

theorem pollsIn_of_setup {calls : List Call} (setup : calls.all Call.isSetup = true) :
    pollsIn calls = [] := by
  apply pollsIn_of_none
  intro call member
  have allowed := List.all_eq_true.mp setup call member
  cases call <;> first | rfl | cases allowed

theorem pollsIn_of_beginning {connection : Descriptor} {remote : String}
    {table grown : ProcessTable} {calls : List Call} {notices : List Notice}
    {started : Except AdmissionError Worker}
    (beginning : Beginning connection remote table calls notices started grown) :
    pollsIn calls = [] := by
  cases beginning with
  | pipeless piping | roomless piping | uncopied piping | unstarted piping | started piping =>
      rw [pollsIn_append, pollsIn_of_setup piping.setup]
      rfl

theorem pollsIn_of_admitting {listener : Descriptor} {table after : ProcessTable}
    {calls : List Call} {later : List Notice} {outcome : Except TickError Bool}
    (admitting : Admitting listener table calls later outcome after) : pollsIn calls = [] := by
  cases admitting with
  | ignored accepting | failed accepting => exact pollsIn_of_setup accepting.setup
  | refused accepting beginning | admitted accepting beginning =>
      rw [pollsIn_append, pollsIn_of_setup accepting.setup, pollsIn_of_beginning beginning]
      rfl

section

variable {σ : Type} (kernel : Kernel σ)

theorem pollsIn_look (supervisor : Supervisor) (before : σ × List Call) :
    let look := supervisor.look kernel.transcribing before
    pollsIn (look.calls kernel supervisor before) = [(look.offered, look.timeout)] := by
  intro look
  have asked := (askingsFrom_spec kernel.transcribing supervisor.table.length 0 supervisor.table
    before (by simp [ProcessTable.length])).2.2.2
  rw [Look.calls, pollsIn_append, pollsIn_of_none]
  · rfl
  · intro call member
    obtain ⟨asking, listed, member⟩ := List.mem_flatMap.mp member
    obtain ⟨answer, answers, calls⟩ := Asking.writes kernel (asked asking listed)
    rw [calls] at member
    rcases List.mem_cons.mp member with rfl | member
    · rfl
    · rcases List.mem_append.mp member with member | member
      · obtain ⟨answer, _, rfl⟩ := List.mem_map.mp member
        rfl
      · split at member
        · cases member
        · rw [List.mem_singleton.mp member]
          rfl

theorem pollsIn_turns {turns : List (Turn (σ × List Call))}
    (apt : ∀ turn ∈ turns, turn.Apt kernel.transcribing) :
    pollsIn (turns.flatMap Turn.calls) = [] := by
  apply pollsIn_of_none
  intro call member
  obtain ⟨turn, listed, member⟩ := List.mem_flatMap.mp member
  obtain ⟨answers, _, calls, _⟩ := Turn.writes kernel (apt turn listed)
  rw [calls] at member
  obtain ⟨answer, _, rfl⟩ := List.mem_map.mp member
  rfl

/-- A pass polls once. -/
theorem tick_polls {listener : Int} {supervisor : Supervisor}
    (sound : Lockstep listener supervisor.table) (before : σ × List Call) :
    let look := supervisor.look kernel.transcribing before
    pollsIn (written before (supervisor.tick kernel.transcribing before).state) =
      [(look.offered, look.timeout)] := by
  intro look
  obtain ⟨last, ending, appended⟩ := tick_writes kernel sound before
  have apt := (turns_spec kernel.transcribing supervisor before sound).1
  have rest : pollsIn last = [] := by
    cases ending with
    | shut table notices => rfl
    | tried admitting notices outcome => exact pollsIn_of_admitting admitting
  rw [written_of_append appended, pollsIn_append, pollsIn_append, pollsIn_turns kernel apt, rest,
    pollsIn_look]
  rfl

/-! ### Whole runs -/

/-- A pass polls once. It waits without a limit of time only with everybody still there, with room
for one more and with the listener and every worker's pipe polled for reading. -/
theorem unbounded_wait_watches_everything (listener : Listener) (command : ShellCommand)
    (limit : AdmissionLimit) (state : σ) (count : Nat) :
    let initial : Supervisor := .new listener command limit
    let ran := passes kernel.transcribing initial (state, []) count
    let tracked := (reap kernel.transcribing ran.supervisor.table ran.state).table.workers
    let next := ran.supervisor.tick kernel.transcribing ran.state
    (ran.seen Prod.fst = passes kernel initial state count ∧
      next.seen Prod.fst = (ran.seen Prod.fst).supervisor.tick kernel (ran.seen Prod.fst).state) ∧
    ∃ slots timeout, pollsIn (written ran.state next.state) = [(slots, timeout)] ∧
      ((timeout = .unbounded ∧ tracked = ran.supervisor.table.workers ∧
          tracked.length < limit.workers.toNat ∧ (∀ worker ∈ tracked, worker.muted = false) ∧
          slots.map (·.descriptor) =
            (listener.descriptor :: tracked.map (·.diagnostics)).map Int.ofNat ∧
          ∀ slot ∈ slots, slot.requested = PollFlags.readable) ∨
        (timeout = .milliseconds 50 ∧ tracked = ran.supervisor.table.workers ∧
          (limit.workers.toNat ≤ tracked.length ∨ ∃ worker ∈ tracked, worker.muted = true)) ∨
        (timeout = .milliseconds 0 ∧ tracked.length < ran.supervisor.workerCount)) := by
  intro initial ran tracked next
  have sound : Lockstep listener.descriptor ran.supervisor.table :=
    lockstep_passes kernel.transcribing listener command limit (state, []) count
  have watches : ran.supervisor.table.WatchesReading :=
    watchesReading_passes kernel.transcribing listener command limit (state, []) count
  have limited : ran.supervisor.limit = limit :=
    limit_passes kernel.transcribing initial (state, []) count
  have same : ran.seen Prod.fst = passes kernel initial state count :=
    passes_shows kernel.transcribing_shows initial (state, []) count
  refine ⟨⟨same, ?_⟩, _, _, tick_polls kernel sound ran.state, ?_⟩
  · exact tick_shows kernel.transcribing_shows ran.supervisor ran.state
  · have waits := timeout_look kernel.transcribing ran.supervisor ran.state
    simp only [limited] at waits
    rcases waits with ⟨unbounded, kept, room, heard⟩ | ⟨bounded, kept, unseen⟩ | ⟨looks, left⟩
    · left
      refine ⟨unbounded, kept, room, heard, ?_, requested_offered _ watches ran.state⟩
      have accepting : (ran.supervisor.look kernel.transcribing ran.state).accepting = true := by
        refine decide_eq_true ?_
        rw [limited]
        exact room
      rw [descriptors_offered kernel.transcribing sound ran.state, if_pos accepting,
        List.map_cons, List.map_map]
      refine congrArg (_ :: ·) (List.map_congr_left ?_)
      intro worker member
      rw [Worker.watched, heard worker member]
      rfl
    · right
      left
      exact ⟨bounded, kept, unseen⟩
    · right
      right
      exact ⟨looks, left⟩

end

end Supervisor

end Superserver
