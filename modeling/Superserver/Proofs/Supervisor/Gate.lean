import Superserver.Proofs.Server.Limits
import Superserver.Proofs.Supervisor.Turns

/-!
The gate to new workers. Main statement: there are never more workers than the limit allows, a pass
brings at most one, and it asks for a connection just when the listener was polled and found ready.
-/

namespace Superserver

def Kernel.withAccept (kernel : Kernel σ)
    (accept : Descriptor → σ → Except SystemError (Descriptor × RawAddress) × σ) : Kernel σ :=
  { kernel with accept }

def Notice.admits : Notice → Bool
  | .worker _ (.created _) => true
  | _ => false

/-! ### What does not depend on accepting -/

section

variable {σ : Type} (kernel : Kernel σ)
  (accept : Descriptor → σ → Except SystemError (Descriptor × RawAddress) × σ)

namespace Worker

theorem drainTurns_withAccept (turns : Nat) (worker : Worker) (state : σ) :
    drainTurns (kernel.withAccept accept) turns worker state =
      drainTurns kernel turns worker state := by
  induction turns generalizing worker state with
  | zero => rfl
  | succ turns ih =>
      have forwarded : worker.forward (kernel.withAccept accept) state =
          worker.forward kernel state := rfl
      simp only [drainTurns, forwarded, ih]

theorem drain_withAccept (turns : Nat) (worker : Worker) (state : σ) :
    worker.drain (kernel.withAccept accept) turns state = worker.drain kernel turns state := by
  rw [drain, drainTurns_withAccept]
  rfl

end Worker

namespace Supervisor

theorem lastReports_withAccept (worker : Worker) (state : σ) :
    lastReports (kernel.withAccept accept) worker state = lastReports kernel worker state := by
  have waited : (kernel.withAccept accept).wait worker.pid state =
      kernel.wait worker.pid state := rfl
  simp only [lastReports, waited, Worker.drain_withAccept]

theorem reapFrom_withAccept (unasked index : Nat) (table : ProcessTable) (state : σ) :
    reapFrom (kernel.withAccept accept) unasked index table state =
      reapFrom kernel unasked index table state := by
  induction unasked generalizing index table state with
  | zero => rfl
  | succ unasked ih =>
      have closed : ∀ descriptor last, (kernel.withAccept accept).close descriptor last =
          kernel.close descriptor last := fun _ _ => rfl
      simp only [reapFrom, lastReports_withAccept, closed, ih]

theorem forwardFrom_withAccept (unattended index : Nat) (table : ProcessTable) (state : σ) :
    forwardFrom (kernel.withAccept accept) unattended index table state =
      forwardFrom kernel unattended index table state := by
  induction unattended generalizing index table state with
  | zero => rfl
  | succ unattended ih =>
      have attends : ∀ (worker : Worker) flags,
          worker.attend (kernel.withAccept accept) flags state =
            worker.attend kernel flags state := fun _ _ => rfl
      simp only [forwardFrom, attends, ih]

theorem forward_withAccept (table : ProcessTable) (state : σ) :
    forward (kernel.withAccept accept) table state = forward kernel table state :=
  forwardFrom_withAccept kernel accept table.length 0 table state

theorem look_withAccept (supervisor : Supervisor) (state : σ) :
    supervisor.look (kernel.withAccept accept) state = supervisor.look kernel state := by
  have reaped : reap (kernel.withAccept accept) supervisor.table state =
      reap kernel supervisor.table state := reapFrom_withAccept kernel accept _ _ _ _
  simp only [look, reaped]
  rfl

end Supervisor

end

namespace Supervisor

open AdmissionLimit (workers_of_ofDescriptors)
open ProcessTable

/-! ### The bound -/

section

variable {σ : Type} {kernel : Kernel σ} {workers last : List Worker} {state after : σ}
  {told : List Notice}

theorem countP_admits_eq_zero
    (absent : ∀ pid remote, .worker pid (.created remote) ∉ told) :
    told.countP Notice.admits = 0 := by
  apply List.countP_eq_zero.mpr
  intro notice member admits
  unfold Notice.admits at admits
  split at admits
  · exact absent _ _ member
  · cases admits

theorem length_le_of_steps (steps : Steps kernel workers state told last after) :
    last.length ≤ workers.length := by
  induction steps with
  | refl => exact Nat.le_refl _
  | step _ step ih =>
      refine Nat.le_trans ?_ ih
      cases step with
      | quiet quiet => exact Nat.le_refl _
      | attended found attends change => simp
      | exited found drains => simp
      | lost found => simp

theorem length_of_admission (admission : Admission kernel workers state told last after) :
    told.countP Notice.admits ≤ 1 ∧
      last.length = workers.length + told.countP Notice.admits := by
  have silent : ∀ {asides : List Notice}, Asides asides → asides.countP Notice.admits = 0 :=
    fun apart => countP_admits_eq_zero fun pid remote member => apart _ member pid _ rfl
  cases admission with
  | none asides quiet => simp [silent asides]
  | one asides before spawned closed => simp [silent asides, Notice.admits]

end

section

variable {σ : Type} (kernel : Kernel σ) {supervisor : Supervisor} {listener : Descriptor}
  (state : σ)

/-- After the poll, workers come by admission alone. -/
theorem tick_admission (sound : Lockstep listener supervisor.table) :
    let look := supervisor.look kernel state
    let next := supervisor.tick kernel state
    next.notices.countP Notice.admits ≤ 1 ∧
      next.supervisor.workerCount =
        look.reaped.table.length + next.notices.countP Notice.admits ∧
      (look.accepting = false → next.notices.countP Notice.admits = 0) := by
  intro look next
  have gone : look.reaped.notices.countP Notice.admits = 0 :=
    countP_admits_eq_zero (created_not_mem_of_steps
      (reapFrom_steps kernel supervisor.table.length 0 supervisor.table state))
  obtain ⟨sent, middle, between, later, steps, pids, _, admission, notices, shut⟩ :=
    tick_stages kernel sound state
  have forwarded : sent.countP Notice.admits = 0 :=
    countP_admits_eq_zero (created_not_mem_of_steps steps)
  have told : next.notices.countP Notice.admits = later.countP Notice.admits := by
    rw [notices, List.countP_append, List.countP_append, gone, forwarded]
    omega
  have kept : middle.length = look.reaped.table.length := by
    have same := congrArg List.length pids
    rwa [List.length_map, List.length_map] at same
  obtain ⟨one, grown⟩ := length_of_admission admission
  rw [told]
  refine ⟨one, kept ▸ grown, fun leftOut => ?_⟩
  rw [shut leftOut]
  rfl

theorem limit_tick (supervisor : Supervisor) (state : σ) :
    (supervisor.tick kernel state).supervisor.limit = supervisor.limit := by
  simp only [tick, respond]
  split
  · split <;> rfl
  · split
    · rfl
    · split <;> rfl

theorem limit_passes (supervisor : Supervisor) (state : σ) (count : Nat) :
    (passes kernel supervisor state count).supervisor.limit = supervisor.limit := by
  induction count with
  | zero => rfl
  | succ count ih => rw [passes, limit_tick, ih]

theorem length_reaped_le (supervisor : Supervisor) (state : σ) :
    (supervisor.look kernel state).reaped.table.length ≤ supervisor.workerCount :=
  length_le_of_steps (reapFrom_steps kernel supervisor.table.length 0 supervisor.table state)

theorem workerCount_passes_le (listener : Listener) (command : ShellCommand)
    (limit : AdmissionLimit) (state : σ) (count : Nat) :
    (passes kernel (.new listener command limit) state count).supervisor.workerCount ≤
      limit.workers.toNat := by
  induction count with
  | zero => exact Nat.zero_le _
  | succ count ih =>
      have sound := lockstep_passes kernel listener command limit state count
      have bound := limit_passes kernel (.new listener command limit) state count
      rw [passes]
      generalize passes kernel (.new listener command limit) state count = ran at ih sound bound
      obtain ⟨one, grown, shut⟩ := tick_admission kernel ran.state sound
      have left := length_reaped_le kernel ran.supervisor ran.state
      have limited : ran.supervisor.limit = limit := bound
      have room : (ran.supervisor.look kernel ran.state).accepting =
          decide ((ran.supervisor.look kernel ran.state).reaped.table.length <
            ran.supervisor.limit.workers.toNat) := rfl
      simp only at grown ⊢
      rw [grown]
      rw [limited] at room
      cases accepting : (ran.supervisor.look kernel ran.state).accepting with
      | true =>
          have space := of_decide_eq_true (room.symm.trans accepting)
          omega
      | false =>
          rw [shut accepting]
          omega

/-! ### Asking for a connection -/

/-- Whether a pass asks for a connection: what it comes to depends on what accepting gives. -/
def Accepts (kernel : Kernel σ) (supervisor : Supervisor) (state : σ) : Prop :=
  ∃ accept, supervisor.tick (kernel.withAccept accept) state ≠ supervisor.tick kernel state

def Look.Welcomes (look : Look σ) : Prop :=
  look.accepting = true ∧ ∃ flags, look.answer.1 = .ok flags ∧
    (flags.headD PollFlags.none).meets PollFlags.readable = true

def refusal (error : SystemError) :
    Descriptor → σ → Except SystemError (Descriptor × RawAddress) × σ :=
  fun _ state => (.error error, state)

theorem listenerReady_forward_look (sound : Lockstep listener supervisor.table)
    {flags : List PollFlags} {after : σ}
    (answered : (supervisor.look kernel state).answer = (.ok flags, after)) :
    let look := supervisor.look kernel state
    (look.accepting && (forward kernel (look.table flags) after).table.listenerReady) = true ↔
      look.Welcomes := by
  intro look
  have cleared : Lockstep listener look.reaped.table.cleared :=
    (lockstep_look kernel sound state).cleared
  have polled : Lockstep listener (look.table flags) := cleared.polled look.accepting flags
  have found : look.answer.1 = .ok flags := congrArg Prod.fst answered
  rw [(forward_keeps kernel polled after).2.2, Look.Welcomes, found, Look.table]
  cases look.accepting with
  | false => simp
  | true => simp [listenerReady_polled_true cleared]

theorem tick_withAccept_of_shut (sound : Lockstep listener supervisor.table)
    (shut : ¬(supervisor.look kernel state).Welcomes)
    (accept : Descriptor → σ → Except SystemError (Descriptor × RawAddress) × σ) :
    supervisor.tick (kernel.withAccept accept) state = supervisor.tick kernel state := by
  have same := look_withAccept kernel accept supervisor state
  rcases answered : (supervisor.look kernel state).answer with ⟨flags, after⟩
  have alike : (supervisor.look (kernel.withAccept accept) state).answer = (flags, after) := by
    rw [same, answered]
  cases flags with
  | error error => rw [tick_of_error answered, tick_of_error alike, same]
  | ok flags =>
      cases found : (supervisor.look kernel state).foundNothing flags with
      | true =>
          rw [tick_of_nothing answered found, tick_of_nothing alike (by rw [same, found]), same]
      | false =>
          have unready := (listenerReady_forward_look kernel state sound answered).not.mpr shut
          rw [tick_of_found answered found, tick_of_found alike (by rw [same, found]), same]
          simp only [respond, forward_withAccept, unready, Bool.false_eq_true, if_false]

theorem found_of_welcomes (sound : Lockstep listener supervisor.table)
    (welcomes : (supervisor.look kernel state).Welcomes) :
    ∃ flags after, (supervisor.look kernel state).answer = (.ok flags, after) ∧
      (supervisor.look kernel state).foundNothing flags = false := by
  obtain ⟨accepting, flags, answer, ready⟩ := welcomes
  refine ⟨flags, _, Prod.ext answer rfl, ?_⟩
  rw [← listenerReady_polled_true (lockstep_look kernel sound state).cleared] at ready
  rw [Look.foundNothing, Look.table, accepting]
  unfold listenerReady at ready
  split at ready
  · cases ready
  · rename_i slot rest shape
    have shows : slot.returned ≠ PollFlags.none := by
      intro none
      rw [none] at ready
      cases ready
    simp [shape, shows]

/-- The last thing that such a pass tells is how accepting failed. -/
theorem notices_tick_refusal (sound : Lockstep listener supervisor.table)
    (welcomes : (supervisor.look kernel state).Welcomes) :
    ∃ earlier, ∀ error : SystemError, error.isTransient = true →
      (supervisor.tick (kernel.withAccept (refusal error)) state).notices =
        earlier ++ [.acceptIgnored error] := by
  obtain ⟨flags, after, answered, found⟩ := found_of_welcomes kernel state sound welcomes
  have ready := (listenerReady_forward_look kernel state sound answered).mpr welcomes
  refine ⟨(supervisor.look kernel state).reaped.notices ++
    (forward kernel ((supervisor.look kernel state).table flags) after).notices, ?_⟩
  intro error passing
  have same := look_withAccept kernel (refusal error) supervisor state
  rw [tick_of_found (by rw [same, answered]) (by rw [same, found]), same]
  have refused : ∀ last, (kernel.withAccept (refusal error)).acceptRemote
      supervisor.listener.descriptor last = (.error error, last) := fun _ => rfl
  simp only [respond, forward_withAccept, ready, if_true, admitNext, refused, passing]

theorem accepts_iff_welcomes (sound : Lockstep listener supervisor.table) :
    Accepts kernel supervisor state ↔ (supervisor.look kernel state).Welcomes := by
  constructor
  · rintro ⟨accept, differs⟩
    by_contra shut
    exact differs (tick_withAccept_of_shut kernel state sound shut accept)
  · intro welcomes
    by_contra asksNot
    have same : ∀ accept, supervisor.tick (kernel.withAccept accept) state =
        supervisor.tick kernel state := by simpa [Accepts] using asksNot
    obtain ⟨earlier, told⟩ := notices_tick_refusal kernel state sound welcomes
    have first := told (.bare .wouldBlock) rfl
    have second := told (.numbered Errno.interrupted) rfl
    rw [same] at first second
    rw [first] at second
    cases List.append_cancel_left second

theorem accepts_iff (sound : Lockstep listener supervisor.table) :
    Accepts kernel supervisor state ↔
      (supervisor.look kernel state).offered.map (·.descriptor) =
          (listener : Int) ::
            (supervisor.look kernel state).reaped.table.workers.map Worker.watched ∧
        ∃ flags, (supervisor.look kernel state).answer.1 = .ok flags ∧
          (flags.headD PollFlags.none).meets PollFlags.readable = true := by
  rw [accepts_iff_welcomes kernel state sound, descriptors_offered kernel sound state]
  refine and_congr_left fun _ => ?_
  cases (supervisor.look kernel state).accepting with
  | true => simp
  | false =>
      -- Without the listener's slot the list is too short.
      refine iff_of_false Bool.false_ne_true fun same => ?_
      have lengths := congrArg List.length same
      simp at lengths

end

/-! ### The size of the poll -/

section

variable {σ : Type} (kernel : Kernel σ)

theorem poll_not_of_admitNext (listener : Descriptor) (command : ShellCommand)
    (table : ProcessTable) (state : σ) (error : SystemError) :
    (admitNext kernel listener command table state).outcome ≠ .error (.poll error) := by
  unfold admitNext
  split
  · split <;> simp
  · split <;> simp

theorem answer_of_poll_error {supervisor : Supervisor} {state : σ} {error : SystemError}
    (failed : (supervisor.tick kernel state).outcome = .error (.poll error)) :
    (supervisor.look kernel state).answer.1 = .error error := by
  rcases answered : (supervisor.look kernel state).answer with ⟨flags, after⟩
  cases flags with
  | error other =>
      rw [tick_of_error answered] at failed
      simp only at failed
      split at failed
      · cases failed
      · cases failed
        rfl
  | ok flags =>
      cases found : (supervisor.look kernel state).foundNothing flags with
      | true =>
          rw [tick_of_nothing answered found] at failed
          cases failed
      | false =>
          rw [tick_of_found answered found, respond] at failed
          simp only at failed
          split at failed
          · have admitted := poll_not_of_admitNext kernel supervisor.listener.descriptor
              supervisor.command
              (forward kernel ((supervisor.look kernel state).table flags) after).table
              (forward kernel ((supervisor.look kernel state).table flags) after).state error
            generalize (admitNext kernel supervisor.listener.descriptor supervisor.command
              (forward kernel ((supervisor.look kernel state).table flags) after).table
              (forward kernel ((supervisor.look kernel state).table flags) after).state).outcome =
                outcome at failed admitted
            cases outcome with
            | error other =>
                cases failed
                exact absurd rfl admitted
            | ok one => cases failed
          · cases failed

end

/-- The listener is polled only while there is room for one more worker. -/
theorem length_offered_le {kernel : Kernel σ} {supervisor : Supervisor} {state : σ}
    {listener : Descriptor} (sound : Lockstep listener supervisor.table)
    (bounded : supervisor.workerCount ≤ supervisor.limit.workers.toNat) :
    (supervisor.look kernel state).offered.length ≤ supervisor.limit.workers.toNat := by
  have left := length_reaped_le kernel supervisor state
  rw [Look.offered, length_pollSlots (lockstep_look kernel sound state).cleared]
  have room : (supervisor.look kernel state).accepting =
    decide ((supervisor.look kernel state).reaped.table.length <
      supervisor.limit.workers.toNat) := rfl
  change (supervisor.look kernel state).reaped.table.length + _ ≤ _
  cases accepting : (supervisor.look kernel state).accepting with
  | true =>
      have space := of_decide_eq_true (room.symm.trans accepting)
      exact space
  | false => exact Nat.le_trans left bounded

/-! ### Whole runs -/

/-- A poll is refused as invalid only if it asks for more slots than files may be open. -/
def PollsWithin (kernel : Kernel σ) (openFiles : UInt64) : Prop :=
  ∀ slots timeout state,
    (kernel.poll slots timeout state).1 = .error (.numbered Errno.invalid) →
      openFiles.toNat < slots.length

/-- The limit is never passed, a pass brings at most one worker, a full table asks for none, and
nobody is asked for unless the listener was polled and found ready. A limit made from a number of
descriptors keeps the polled slots within that number. -/
theorem admission_bounded_and_gated (kernel : Kernel σ) (listener : Listener)
    (command : ShellCommand) (limit : AdmissionLimit) (state : σ) (count : Nat) :
    let ran := passes kernel (.new listener command limit) state count
    let look := ran.supervisor.look kernel ran.state
    let next := ran.supervisor.tick kernel ran.state
    ran.supervisor.workerCount ≤ limit.workers.toNat ∧
    (next.notices.countP Notice.admits ≤ 1 ∧
      next.supervisor.workerCount =
        look.reaped.table.length + next.notices.countP Notice.admits) ∧
    (look.reaped.table.length = limit.workers.toNat →
      look.offered.map (·.descriptor) = look.reaped.table.workers.map Worker.watched ∧
        ¬Accepts kernel ran.supervisor ran.state) ∧
    (Accepts kernel ran.supervisor ran.state ↔
      look.offered.map (·.descriptor) =
          (listener.descriptor : Int) :: look.reaped.table.workers.map Worker.watched ∧
        ∃ flags, look.answer.1 = .ok flags ∧
          (flags.headD PollFlags.none).meets PollFlags.readable = true) ∧
    ∀ ceiling openFiles, AdmissionLimit.ofDescriptors ceiling openFiles = .ok limit →
      look.offered.length ≤ openFiles.toNat ∧
      (PollsWithin kernel openFiles →
        next.outcome ≠ .error (.poll (.numbered Errno.invalid))) := by
  intro ran look next
  have sound : Lockstep listener.descriptor ran.supervisor.table :=
    lockstep_passes kernel listener command limit state count
  have bounded : ran.supervisor.workerCount ≤ limit.workers.toNat :=
    workerCount_passes_le kernel listener command limit state count
  have limited : ran.supervisor.limit = limit := limit_passes kernel _ state count
  have asks := accepts_iff kernel ran.state sound
  obtain ⟨one, grown, _⟩ := tick_admission kernel ran.state sound
  refine ⟨bounded, ⟨one, grown⟩, ?_, asks, ?_⟩
  · intro full
    have shut : look.accepting = false := by
      refine decide_eq_false ?_
      change ¬look.reaped.table.length < ran.supervisor.limit.workers.toNat
      rw [limited, full]
      exact Nat.lt_irrefl _
    have offered : look.offered.map (·.descriptor) = _ :=
      descriptors_offered kernel sound ran.state
    refine ⟨offered.trans ?_, ?_⟩
    · rw [show (ran.supervisor.look kernel ran.state).accepting = false from shut]
      rfl
    · rw [accepts_iff_welcomes kernel ran.state sound]
      intro welcomes
      cases shut.symm.trans welcomes.1
  · intro ceiling openFiles made
    have few := (workers_of_ofDescriptors made).2
    have within : look.offered.length ≤ ran.supervisor.limit.workers.toNat :=
      length_offered_le sound (limited ▸ bounded)
    have polled : look.offered.length ≤ openFiles.toNat := by
      rw [limited] at within
      omega
    refine ⟨polled, ?_⟩
    intro withinFiles failed
    have beyond := withinFiles _ _ _ (answer_of_poll_error kernel failed)
    exact absurd polled (Nat.not_le_of_lt beyond)

def sixFiles : Kernel (Stage ReadScript) :=
  { Kernel.ofReader ReadScript.read with
    poll := fun slots _ stage =>
      if 6 < slots.length then (.error (.numbered Errno.invalid), stage)
      else (.ok (slots.map fun _ => PollFlags.readable), stage) }

theorem pollsWithin_sixFiles : PollsWithin sixFiles 6 := by
  intro slots timeout state refused
  by_contra few
  have short : ¬6 < slots.length := few
  simp [sixFiles, short] at refused

theorem second_client_waits_for_room :
    let initial := Supervisor.new smallListener { text := "printf" } { workers := 1 }
    let clients : Stage ReadScript := { source := {}, running := 9, clients := 2 }
    let ran := passes sixFiles initial clients 1
    let look := ran.supervisor.look sixFiles ran.state
    let next := ran.supervisor.tick sixFiles ran.state
    AdmissionLimit.ofDescriptors 1024 6 = .ok { workers := 1 } ∧
      Accepts sixFiles initial clients ∧
      look.reaped.table.length = 1 ∧ ran.state.clients = 1 ∧
      ¬Accepts sixFiles ran.supervisor ran.state ∧
      look.offered.length ≤ 6 ∧ next.outcome ≠ .error (.poll (.numbered Errno.invalid)) := by
  intro initial clients ran look next
  have made : AdmissionLimit.ofDescriptors 1024 6 = .ok { workers := 1 } := by decide
  have full : look.reaped.table.length = 1 := by decide +kernel
  obtain ⟨_, _, _, first, _⟩ := admission_bounded_and_gated sixFiles smallListener
    { text := "printf" } { workers := 1 } clients 0
  obtain ⟨_, _, shut, _, sized⟩ := admission_bounded_and_gated sixFiles smallListener
    { text := "printf" } { workers := 1 } clients 1
  obtain ⟨few, polled⟩ := sized 1024 6 made
  have asked : Accepts sixFiles initial clients :=
    first.mpr ⟨by decide +kernel, [PollFlags.readable], rfl, by decide⟩
  exact ⟨made, asked, full, by decide +kernel, (shut full).2, few, polled pollsWithin_sixFiles⟩

end Supervisor

end Superserver
