import Mathlib.Algebra.Order.Group.Multiset
import Mathlib.Tactic.Abel
import Superserver.Proofs.Supervisor.Gate
import Superserver.Proofs.Supervisor.Transcript

/-!
Admissions that fail. Main statement: a pass that fails, or that ignores a failure to accept, starts
no process and leaves the workers and their slots as they were before its admission; every process
that was started is a worker that was told of and that stays until reaping removes it.
-/

namespace Superserver

def Call.started? : Call → Option Pid
  | .spawn _ (.ok pid) => some pid
  | _ => none

def Notice.created? : Notice → Option Pid
  | .worker pid (.created _) => some pid
  | _ => none

namespace Supervisor

open Kernel ProcessTable

def startedIn (calls : List Call) : List Pid := calls.filterMap Call.started?

def createdIn (notices : List Notice) : List Pid := notices.filterMap Notice.created?

/-- Whether a pass fails or says that it could not accept. -/
def Ticked.Balks (next : Ticked σ) : Prop :=
  (∃ error, next.outcome = .error error) ∨ ∃ error, .acceptIgnored error ∈ next.notices

def leavers (kernel : Kernel σ) (table : ProcessTable) (state : σ) : Multiset Worker :=
  table.workers - ((reap kernel table state).table.workers : Multiset Worker)

def departed (kernel : Kernel σ) (supervisor : Supervisor) (state : σ) : Nat → Multiset Worker
  | 0 => 0
  | count + 1 =>
      let ran := passes kernel supervisor state count
      departed kernel supervisor state count + leavers kernel ran.supervisor.table ran.state

/-! ### Who is started and who is told of -/

@[simp] theorem startedIn_nil : startedIn [] = [] := rfl

@[simp] theorem startedIn_cons (call : Call) (calls : List Call) :
    startedIn (call :: calls) = call.started?.toList ++ startedIn calls := by
  cases started : call.started? <;> simp [startedIn, started]

@[simp] theorem startedIn_append (first second : List Call) :
    startedIn (first ++ second) = startedIn first ++ startedIn second := List.filterMap_append

theorem createdIn_append (first second : List Notice) :
    createdIn (first ++ second) = createdIn first ++ createdIn second := List.filterMap_append

theorem startedIn_of_plain {calls : List Call} (plain : ∀ call ∈ calls, call.isPlain = true) :
    startedIn calls = [] := by
  apply List.filterMap_eq_nil_iff.mpr
  intro call member
  have plain := plain call member
  cases call <;> first | rfl | cases plain

theorem startedIn_of_setup {calls : List Call} (setup : calls.all Call.isSetup = true) :
    startedIn calls = [] := by
  apply List.filterMap_eq_nil_iff.mpr
  intro call member
  have setup := List.all_eq_true.mp setup call member
  cases call <;> first | rfl | cases setup

theorem createdIn_eq_nil {notices : List Notice}
    (none : ∀ pid remote, .worker pid (.created remote) ∉ notices) : createdIn notices = [] := by
  apply List.filterMap_eq_nil_iff.mpr
  intro notice member
  cases notice with
  | worker pid report =>
      cases report with
      | created remote => exact absurd member (none pid remote)
      | _ => rfl
  | _ => rfl

theorem createdIn_asides {notices : List Notice} (asides : Asides notices) :
    createdIn notices = [] := by
  apply createdIn_eq_nil
  intro pid remote member
  exact asides _ member pid _ rfl

/-- Where starting a worker fails, no process was started and the entries are as they were. -/
theorem nothing_of_refused {connection : Descriptor} {remote : String}
    {table grown : ProcessTable}
    {calls : List Call} {notices : List Notice} {error : AdmissionError}
    (beginning : Beginning connection remote table calls notices (.error error) grown) :
    startedIn calls = [] ∧ Asides notices ∧ grown.workers = table.workers ∧
      grown.slots = table.slots := by
  have same : ∀ {made}, table.reserveOne = .ok (notices, made) →
      Asides notices ∧ made.workers = table.workers ∧ made.slots = table.slots := by
    intro made reserved
    rcases reserveOne_cases reserved with ⟨rfl, rfl, _⟩ | ⟨capacity, rfl, rfl, _, _⟩
    · exact ⟨by simp [Asides], rfl, rfl⟩
    · exact ⟨by simp [Asides], rfl, rfl⟩
  cases beginning with
  | pipeless piping | roomless piping =>
      have none := startedIn_of_setup piping.setup
      exact ⟨by simp [Call.started?, none], by simp [Asides], rfl, rfl⟩
  | uncopied piping reserved | unstarted piping reserved =>
      have none := startedIn_of_setup piping.setup
      exact ⟨by simp [Call.started?, none], same reserved⟩

/-- What an admission comes to: it leaves everything as it was, or it starts one process, tells of
it and enters it last. -/
theorem admitting_cases {listener : Descriptor} {table after : ProcessTable} {calls : List Call}
    {later : List Notice} {outcome : Except TickError Bool}
    (admitting : Admitting listener table calls later outcome after) :
    (outcome ≠ .ok true ∧ startedIn calls = [] ∧ createdIn later = [] ∧
      after.workers = table.workers ∧ after.slots = table.slots) ∨
    ∃ worker, outcome = .ok true ∧ (∀ error, .acceptIgnored error ∉ later) ∧
      startedIn calls = [worker.pid] ∧ createdIn later = [worker.pid] ∧
      after.workers = table.workers ++ [worker] := by
  cases admitting with
  | ignored accepting transient =>
      exact .inl ⟨by simp, startedIn_of_setup accepting.setup, rfl, rfl, rfl⟩
  | failed accepting lasting =>
      exact .inl ⟨by simp, startedIn_of_setup accepting.setup, rfl, rfl, rfl⟩
  | refused accepting beginning =>
      obtain ⟨none, asides, workers, slots⟩ := nothing_of_refused beginning
      refine .inl ⟨by simp, ?_, createdIn_asides asides, workers, slots⟩
      simp [startedIn_of_setup accepting.setup, none]
  | admitted accepting beginning =>
      cases beginning with
      | @started _ ends _ _ _ _ pid piping reserved =>
          obtain ⟨asides, workers⟩ := asides_of_reserveOne reserved
          refine .inr ⟨{ pid, diagnostics := ends.1 }, rfl, ?_, ?_, ?_, ?_⟩
          · intro error member
            rcases List.mem_append.mp member with member | member
            · rcases reserveOne_cases reserved with ⟨rfl, _⟩ | ⟨capacity, rfl, _⟩
              · cases member
              · cases List.mem_singleton.mp member
            · cases List.mem_singleton.mp member
          · simp [Call.started?, startedIn_of_setup accepting.setup,
              startedIn_of_setup piping.setup]
          · rw [createdIn_append, createdIn_asides asides]
            rfl
          · rw [ProcessTable.push, workers]

section

variable {σ : Type} (kernel : Kernel σ)

theorem startedIn_look (supervisor : Supervisor) (before : σ × List Call) :
    startedIn ((supervisor.look kernel.transcribing before).calls kernel supervisor before) =
      [] := by
  have asked := (askingsFrom_spec kernel.transcribing supervisor.table.length 0 supervisor.table
    before (by simp [ProcessTable.length])).2.2.2
  have none : ∀ asking ∈ askingsFrom kernel.transcribing supervisor.table.length 0
      supervisor.table before, startedIn asking.calls = [] := by
    intro asking member
    obtain ⟨answer, answers, calls⟩ := Asking.writes kernel (asked asking member)
    have reads : startedIn (answers.map (.read asking.worker.diagnostics)) = [] :=
      startedIn_of_plain (by simp [Call.isPlain])
    rw [calls]
    split <;> simp [Call.started?, reads]
  simp only [Look.calls, startedIn_append, startedIn_cons, startedIn_nil]
  simp only [startedIn] at none ⊢
  rw [List.filterMap_flatMap, List.flatMap_eq_nil_iff.mpr none]
  rfl

theorem startedIn_turns {turns : List (Turn (σ × List Call))}
    (apt : ∀ turn ∈ turns, turn.Apt kernel.transcribing) :
    startedIn (turns.flatMap Turn.calls) = [] :=
  startedIn_of_plain (plain_of_turns kernel apt)

theorem createdIn_attended {listener : Int} {supervisor : Supervisor}
    (sound : Lockstep listener supervisor.table) (state : σ) :
    let look := supervisor.look kernel state
    createdIn look.reaped.notices = [] ∧
      createdIn (look.attended kernel).notices = [] := by
  intro look
  have reaped : Steps kernel supervisor.table.workers state look.reaped.notices _ _ :=
    reapFrom_steps kernel supervisor.table.length 0 supervisor.table state
  obtain ⟨apt, notices, _⟩ := turns_spec kernel supervisor state sound
  refine ⟨createdIn_eq_nil (created_not_mem_of_steps reaped), createdIn_eq_nil ?_⟩
  intro pid remote member
  have notices : (look.attended kernel).notices = _ := notices
  rw [notices] at member
  obtain ⟨turn, listed, told⟩ := List.mem_flatMap.mp member
  obtain ⟨report, heard, same⟩ := List.mem_map.mp told
  cases same
  have about := turn.worker.aboutPipe_attend kernel turn.before turn.flags
  rw [(apt turn listed).attends] at about
  cases about _ heard

theorem not_balks_of_admitted {listener : Int} {supervisor : Supervisor}
    (sound : Lockstep listener supervisor.table) (state : σ) {next : Ticked σ}
    {later : List Notice} {active : Bool}
    (notices : next.notices = (supervisor.look kernel state).reaped.notices ++
      (((supervisor.look kernel state).attended kernel).notices ++ later))
    (outcome : next.outcome = .ok (.ofActive active))
    (accepted : ∀ error, .acceptIgnored error ∉ later) : ¬next.Balks := by
  rintro (⟨error, failed⟩ | ⟨error, told⟩)
  · cases outcome.symm.trans failed
  · obtain ⟨_, _, _, answers⟩ := askingsFrom_spec kernel supervisor.table.length 0
      supervisor.table state (by simp [ProcessTable.length])
    obtain ⟨_, sent, _⟩ := turns_spec kernel supervisor state sound
    have reaped : (supervisor.look kernel state).reaped.notices = _ :=
      (askingsFrom_spec kernel supervisor.table.length 0 supervisor.table state
        (by simp [ProcessTable.length])).2.2.1
    rw [notices, reaped, sent] at told
    rcases List.mem_append.mp told with told | told
    · obtain ⟨asking, _, told⟩ := List.mem_flatMap.mp told
      obtain ⟨report, _, same⟩ := List.mem_map.mp told
      cases same
    · rcases List.mem_append.mp told with told | told
      · obtain ⟨turn, _, told⟩ := List.mem_flatMap.mp told
        obtain ⟨report, _, same⟩ := List.mem_map.mp told
        cases same
      · exact accepted error told

/-- A pass starts nobody and leaves everybody as attention left them, or it starts one process and
enters it, and then it neither fails nor ignores a failure. -/
theorem tick_starts {listener : Int} {supervisor : Supervisor}
    (sound : Lockstep listener supervisor.table) (before : σ × List Call) :
    let sent := (supervisor.look kernel.transcribing before).attended kernel.transcribing
    let next := supervisor.tick kernel.transcribing before
    ∃ calls, next.state.2 = before.2 ++ calls ∧
      ((startedIn calls = [] ∧ createdIn next.notices = [] ∧
        next.supervisor.table.workers = sent.table.workers ∧
        next.supervisor.table.slots = sent.table.slots) ∨
      ∃ worker, ¬next.Balks ∧ startedIn calls = [worker.pid] ∧
        createdIn next.notices = [worker.pid] ∧
        next.supervisor.table.workers = sent.table.workers ++ [worker]) := by
  intro sent next
  obtain ⟨last, ending, written⟩ := tick_writes kernel sound before
  obtain ⟨reaped, attended⟩ := createdIn_attended kernel.transcribing sound before
  have asked := startedIn_look kernel supervisor before
  have turned := startedIn_turns kernel (turns_spec kernel.transcribing supervisor before sound).1
  refine ⟨_, written, ?_⟩
  simp only [startedIn_append, asked, turned, List.nil_append]
  cases ending with
  | shut table notices =>
      refine .inl ⟨rfl, ?_, congrArg ProcessTable.workers table,
        congrArg ProcessTable.slots table⟩
      rw [notices, createdIn_append, reaped, attended]
      rfl
  | tried admitting notices outcome =>
      rcases admitting_cases admitting with ⟨_, none, untold, workers, slots⟩ |
        ⟨worker, admitted, accepted, one, told, workers⟩
      · refine .inl ⟨none, ?_, workers, slots⟩
        rw [notices, createdIn_append, createdIn_append, reaped, attended, untold]
        rfl
      · refine .inr ⟨worker, ?_, one, ?_, workers⟩
        · rw [admitted] at outcome
          exact not_balks_of_admitted kernel.transcribing sound before notices outcome accepted
        · rw [notices, createdIn_append, createdIn_append, reaped, attended, told]
          rfl

theorem leavers_add_reaped (table : ProcessTable) (state : σ) :
    leavers kernel table state + (reap kernel table state).table.workers = table.workers := by
  obtain ⟨everyone, kept, _, _⟩ := askingsFrom_spec kernel table.length 0 table state
    (by simp [ProcessTable.length])
  have everyone : ((askingsFrom kernel table.length 0 table state).map (·.worker)).Perm
      table.workers := everyone
  have kept : (reap kernel table state).table.workers = _ := kept
  rw [List.take_zero, List.nil_append] at kept
  apply Multiset.add_sub_cancel
  rw [kept, ← Multiset.coe_eq_coe.mpr everyone]
  exact (List.filter_sublist.map _).subperm

/-! ### Whole runs -/

/-- Everybody who was started was told of, in the same order, and is tracked or was reaped. -/
theorem started_passes (listener : Listener) (command : ShellCommand) (limit : AdmissionLimit)
    (state : σ) (count : Nat) :
    let initial : Supervisor := .new listener command limit
    let ran := passes kernel.transcribing initial (state, []) count
    startedIn ran.state.2 = createdIn ran.notices ∧
      (createdIn ran.notices : Multiset Pid) =
        (ran.supervisor.table.workers.map (·.pid) : Multiset Pid) +
          (departed kernel.transcribing initial (state, []) count).map (·.pid) := by
  intro initial
  induction count with
  | zero => exact ⟨rfl, rfl⟩
  | succ count ih =>
      intro ran
      have sound : Lockstep listener.descriptor _ :=
        lockstep_passes kernel.transcribing listener command limit (state, []) count
      obtain ⟨same, accounted⟩ := ih
      simp only [ran, passes, departed]
      generalize passes kernel.transcribing initial (state, []) count = earlier
        at same accounted sound ⊢
      have gone := leavers_add_reaped kernel.transcribing earlier.supervisor.table earlier.state
      have named := congrArg (List.map Prod.fst)
        (named_attended kernel.transcribing earlier.supervisor earlier.state sound)
      have sent : ((earlier.supervisor.look kernel.transcribing earlier.state).attended
          kernel.transcribing).table.workers.map (·.pid) =
          (reap kernel.transcribing earlier.supervisor.table earlier.state).table.workers.map
            (·.pid) := by
        rw [List.map_map, List.map_map] at named
        exact named
      -- Who was tracked before the pass was reaped in it, or is still there when it admits.
      have balance : (earlier.supervisor.table.workers.map (·.pid) : Multiset Pid) =
          (leavers kernel.transcribing earlier.supervisor.table earlier.state).map (·.pid) +
            (reap kernel.transcribing earlier.supervisor.table earlier.state).table.workers.map
              (·.pid) := by
        have mapped := congrArg (Multiset.map (·.pid)) gone
        rw [Multiset.map_add] at mapped
        exact mapped.symm
      obtain ⟨calls, written, stands | ⟨worker, _, one, told, workers⟩⟩ :=
        tick_starts kernel sound earlier.state
      · obtain ⟨none, untold, workers, _⟩ := stands
        refine ⟨?_, ?_⟩
        · rw [written, startedIn_append, createdIn_append, none, untold, same]
        · rw [createdIn_append, untold, List.append_nil, accounted, workers, sent, balance,
            Multiset.map_add]
          abel
      · refine ⟨?_, ?_⟩
        · rw [written, startedIn_append, createdIn_append, one, told, same]
        · rw [createdIn_append, told, ← Multiset.coe_add, accounted, workers, List.map_append,
            sent, balance, Multiset.map_add, ← Multiset.coe_add, List.map_singleton]
          abel

/-- A pass that fails, or that ignores a failure to accept, starts and tells of nobody, and leaves
the workers and the slots as they were when its workers had been attended to: after the reaping if
the poll failed, else after the forwarding. As many processes were started as were told of; each of
them is tracked or was reaped. -/
theorem failed_admission_is_atomic (listener : Listener) (command : ShellCommand)
    (limit : AdmissionLimit) (state : σ) (count : Nat) :
    let initial : Supervisor := .new listener command limit
    let ran := passes kernel.transcribing initial (state, []) count
    let look := ran.supervisor.look kernel.transcribing ran.state
    let sent := look.attended kernel.transcribing
    let next := ran.supervisor.tick kernel.transcribing ran.state
    (ran.seen Prod.fst = passes kernel initial state count ∧
      next.seen Prod.fst =
        (passes kernel initial state count).supervisor.tick kernel
          (passes kernel initial state count).state) ∧
    (next.Balks →
      next.supervisor.table.workers = sent.table.workers ∧
      next.supervisor.table.slots = sent.table.slots ∧
      createdIn next.notices = [] ∧ startedIn (written ran.state next.state) = []) ∧
    (∀ error, next.outcome = .error (.poll error) →
      sent.table = look.reaped.table.cleared) ∧
    startedIn ran.state.2 = createdIn ran.notices ∧
    (createdIn ran.notices : Multiset Pid) =
      (ran.supervisor.table.workers.map (·.pid) : Multiset Pid) +
        (departed kernel.transcribing initial (state, []) count).map (·.pid) := by
  intro initial ran look sent next
  have sound : Lockstep listener.descriptor ran.supervisor.table :=
    lockstep_passes kernel.transcribing listener command limit (state, []) count
  have same : ran.seen Prod.fst = passes kernel initial state count :=
    passes_shows kernel.transcribing_shows initial (state, []) count
  refine ⟨⟨same, ?_⟩, ?_, ?_, started_passes kernel listener command limit state count⟩
  · rw [← same]
    exact tick_shows kernel.transcribing_shows ran.supervisor ran.state
  · intro balks
    obtain ⟨calls, appended, ⟨none, untold, workers, slots⟩ | ⟨_, unbalked, _⟩⟩ :=
      tick_starts kernel sound ran.state
    · refine ⟨workers, slots, untold, ?_⟩
      rw [written_of_append appended]
      exact none
    · exact absurd balks unbalked
  · intro error failed
    have answer := answer_of_poll_error kernel.transcribing failed
    have answer : look.answer.1 = .error error := answer
    rcases answered : look.answer with ⟨flags, after⟩
    rw [answered] at answer
    have answer : flags = .error error := answer
    simp only [sent, Look.attended, answered, answer]

end

/-- A system that starts no second process. -/
def oneProcess : Kernel (Stage ReadScript) :=
  { Kernel.ofReader ReadScript.read with
    spawn := fun _ stage =>
      if stage.started = 0 then (.ok 70, { stage with started := 1 })
      else (.error (.numbered 11), stage) }

/-- A system without memory for a second worker. -/
def oneEntry : Kernel (Stage ReadScript) :=
  { Kernel.ofReader ReadScript.read with
    allocate := fun _ stage =>
      if stage.started = 0 then (.ok (), stage) else (.error .refused, stage) }

/-- The table had grown when the process was refused, and did not grow when the memory was. -/
theorem second_process_refused_without_trace :
    let initial : Supervisor := .new smallListener { text := "printf" } { workers := 4 }
    let clients : Stage ReadScript :=
      { source := { queue := [.error (.bare .wouldBlock)] }, running := 9, clients := 2 }
    let ran := fun kernel : Kernel (Stage ReadScript) =>
      passes kernel.transcribing initial (clients, []) 1
    let next := fun kernel : Kernel (Stage ReadScript) =>
      (ran kernel).supervisor.tick kernel.transcribing (ran kernel).state
    let traceless := fun kernel : Kernel (Stage ReadScript) =>
      (next kernel).supervisor.table.workers.map (·.pid) = [70] ∧
        createdIn (next kernel).notices = [] ∧
        startedIn (written (ran kernel).state (next kernel).state) = []
    ((next oneProcess).outcome = .error (.admission "" (.spawn (.numbered 11))) ∧
      (next oneProcess).supervisor.table.capacity = 2 ∧ traceless oneProcess) ∧
    (next oneEntry).outcome = .error (.admission "" (.table (.outOfMemory .refused))) ∧
      (next oneEntry).supervisor.table.capacity = 1 ∧ traceless oneEntry := by
  intro initial clients ran next traceless
  have atomic : ∀ kernel, (next kernel).Balks →
      createdIn (next kernel).notices = [] ∧
        startedIn (written (ran kernel).state (next kernel).state) = [] := fun kernel balks =>
    ((failed_admission_is_atomic kernel smallListener { text := "printf" } { workers := 4 } clients
      1).2.1 balks).2.2
  have unstarted : (next oneProcess).outcome =
      .error (.admission "" (.spawn (.numbered 11))) := by decide +kernel
  have roomless : (next oneEntry).outcome =
      .error (.admission "" (.table (.outOfMemory .refused))) := by decide +kernel
  have capacities : (next oneProcess).supervisor.table.capacity = 2 ∧
      (next oneEntry).supervisor.table.capacity = 1 := by decide +kernel
  have kept : (next oneProcess).supervisor.table.workers.map (·.pid) = [70] ∧
      (next oneEntry).supervisor.table.workers.map (·.pid) = [70] := by decide +kernel
  exact ⟨⟨unstarted, capacities.1, kept.1, atomic oneProcess (.inl ⟨_, unstarted⟩)⟩,
    roomless, capacities.2, kept.2, atomic oneEntry (.inl ⟨_, roomless⟩)⟩

end Supervisor

end Superserver
