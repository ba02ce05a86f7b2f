import Superserver.Proofs.Diagnostics.Reassembly
import Superserver.Proofs.Diagnostics.Solo
import Superserver.Proofs.Supervisor.Waiting

/-!
Reaping as a row of visits. Main statement: every worker of the table is asked for once, those that
run stay with their slots as they are, and what one that has exited left is told in one piece with
its exit at the end.
-/

namespace Superserver

open LineBuffer

/-! ### Workers with their slots -/

namespace ProcessTable

def entries (table : ProcessTable) : List (Worker × PollSlot) :=
  table.workers.zip (table.slots.drop 1)

def holding (table : ProcessTable) (entries : List (Worker × PollSlot)) : ProcessTable :=
  { table with
    workers := entries.map (·.1)
    slots := table.slots.take 1 ++ entries.map (·.2) }

theorem holding_entries {table : ProcessTable}
    (aligned : table.slots.length = table.workers.length + 1) :
    table.holding table.entries = table := by
  have same : table.workers.length = (table.slots.drop 1).length := by
    rw [List.length_drop]
    omega
  have workers : table.entries.map (·.1) = table.workers := List.map_fst_zip (Nat.le_of_eq same)
  have slots : table.entries.map (·.2) = table.slots.drop 1 :=
    List.map_snd_zip (Nat.le_of_eq same.symm)
  rw [holding, workers, slots, List.take_append_drop]

theorem remove_holding {table : ProcessTable} (listens : 0 < table.slots.length) {index : Nat}
    {entries : List (Worker × PollSlot)} (inside : index < entries.length) :
    ((table.holding entries).remove index).2 = table.holding (swapRemove index entries) := by
  obtain ⟨slot, slots, same⟩ := List.exists_cons_of_length_pos listens
  have found : (table.holding entries).workers[index]? = some entries[index].1 := by
    simp [holding, inside]
  have behind : index < (entries.map (·.2)).length := by
    rw [List.length_map]
    exact inside
  have slots : swapRemove (index + 1) (table.holding entries).slots =
      (table.holding (swapRemove index entries)).slots := by
    simp only [holding, same, List.take_succ_cons, List.take_zero, List.singleton_append,
      map_swapRemove, swapRemove_succ_cons slot behind]
  have removed : ((table.holding entries).remove index).2 =
      { table.holding entries with
        workers := swapRemove index (table.holding entries).workers
        slots := swapRemove (index + 1) (table.holding entries).slots } := by
    rw [remove, found]
  rw [removed, slots]
  simp only [holding, map_swapRemove]

theorem length_remove {table : ProcessTable} {index : Nat}
    (inside : index < table.workers.length) :
    (table.remove index).2.workers.length = table.workers.length - 1 := by
  simp only [remove, List.getElem?_eq_getElem inside, length_swapRemove]

theorem ahead_remove_lt {table : ProcessTable} {index : Nat}
    (inside : index < table.workers.length) :
    (table.remove index).2.workers.length - index < table.workers.length - index := by
  rw [length_remove inside]
  omega

end ProcessTable

/-! ### How much draining reads -/

theorem Answers.append {kernel : Kernel σ} {descriptor : Descriptor} {state middle after : σ}
    {first second : List (Except SystemError Bytes)}
    (answers : Answers kernel descriptor state first middle)
    (others : Answers kernel descriptor middle second after) :
    Answers kernel descriptor state (first ++ second) after := by
  induction answers with
  | none => exact others
  | read given _ ih => exact .read given (ih others)

namespace Worker

section

variable {σ : Type} (kernel : Kernel σ)

theorem forward_answers (worker : Worker) (state : σ) :
    ∃ answers, answers.length ≤ 1 ∧
      Answers kernel worker.diagnostics state answers (worker.forward kernel state).2 := by
  rw [Supervisor.state_forward]
  unfold fill
  split
  · exact ⟨[], Nat.zero_le 1, .none⟩
  · rcases read : kernel.read worker.diagnostics readChunk state with ⟨answer, after⟩
    refine ⟨[answer.map (·.val)], Nat.le_refl 1, ?_⟩
    cases answer with
    | error error => exact .read read .none
    | ok chunk => exact .read read .none

theorem drain_answers (turns : Nat) (worker : Worker) (state : σ) :
    ∃ answers, answers.length ≤ turns ∧
      Answers kernel worker.diagnostics state answers (worker.drain kernel turns state).2.2 := by
  show ∃ answers, answers.length ≤ turns ∧ Answers kernel worker.diagnostics state answers
    (drainTurns kernel turns worker state).2.2
  induction turns generalizing worker state with
  | zero => exact ⟨[], Nat.le_refl 0, .none⟩
  | succ turns ih =>
      obtain ⟨first, few, given⟩ := forward_answers kernel worker state
      have alike := alike_forward kernel worker state
      rw [drainTurns]
      generalize worker.forward kernel state = result at given alike ⊢
      obtain ⟨step, middle⟩ := result
      simp only at given alike ⊢
      split
      · obtain ⟨others, fewer, rest⟩ := ih step.worker middle
        rw [alike.diagnostics] at rest
        refine ⟨first ++ others, ?_, given.append rest⟩
        rw [List.length_append]
        omega
      · exact ⟨first, by omega, given⟩
      · obtain ⟨others, fewer, rest⟩ := ih step.worker.flush.2 middle
        rw [(alike.trans (alike_flush _)).diagnostics] at rest
        refine ⟨first ++ others, ?_, given.append rest⟩
        rw [List.length_append]
        omega
      · exact ⟨first, by omega, given⟩

end

end Worker

def Call.waited? : Call → Option (Pid × Except SystemError (Option Int))
  | .wait pid answer => some (pid, answer)
  | _ => none

namespace Supervisor

open Kernel ProcessTable

/-! ### The loop without a count -/

/-- Reaping as long as the index is inside the table, where `ask` says what waiting for a worker
says of it. -/
def reapWhile (ask : Worker → σ → Option (List Report) × σ) (kernel : Kernel σ) (index : Nat)
    (table : ProcessTable) (state : σ) : Reaped σ :=
  if inside : index < table.workers.length then
    let worker := table.workers[index]
    match ask worker state with
    | (none, state) => reapWhile ask kernel (index + 1) table state
    | (some reports, state) =>
        let rest := reapWhile ask kernel index (table.remove index).2
          (kernel.close worker.diagnostics state)
        { rest with
          notices := reports.map (.worker worker.pid) ++ rest.notices
          removed := true }
  else { table, state }
termination_by table.workers.length - index
decreasing_by
  · exact Nat.sub_succ_lt_self _ _ inside
  · exact ahead_remove_lt inside

section

variable {σ : Type} (kernel : Kernel σ)

theorem reapFrom_eq_reapWhile {unasked index : Nat} {table : ProcessTable}
    (all : table.workers.length ≤ index + unasked) (state : σ) :
    reapFrom kernel unasked index table state =
      reapWhile (lastReports kernel) kernel index table state := by
  -- A visit moves the index or takes a worker out, so the count lasts until the index is outside.
  induction unasked generalizing index table state with
  | zero =>
      have outside : ¬index < table.workers.length := by omega
      rw [reapFrom, reapWhile, dif_neg outside]
  | succ unasked ih =>
      by_cases inside : index < table.workers.length
      · have found := List.getElem?_eq_getElem inside
        have fewer : (table.remove index).2.workers.length ≤ index + unasked := by
          rw [length_remove inside]
          omega
        rw [reapFrom, reapWhile, dif_pos inside]
        simp only [found]
        rcases lastReports kernel table.workers[index] state with ⟨last, after⟩
        cases last with
        | none => exact ih (by omega) after
        | some reports => simp only [ih fewer]
      · have outside := List.getElem?_eq_none (Nat.le_of_not_lt inside)
        rw [reapFrom, reapWhile, dif_neg inside]
        simp only [outside]

end

/-! ### One visit -/

structure Visit (σ : Type) where
  worker : Worker
  slot : PollSlot
  before : σ

namespace Visit

section

variable {σ : Type} (kernel : Kernel σ) (visit : Visit σ)

def entry : Worker × PollSlot := (visit.worker, visit.slot)

def answer : Except SystemError (Option Int) := (kernel.wait visit.worker.pid visit.before).1

def waited : σ := (kernel.wait visit.worker.pid visit.before).2

def runs : Bool :=
  match visit.answer kernel with
  | .ok none => true
  | _ => false

def drained : List Report × Worker × σ :=
  visit.worker.drain kernel Worker.drainReads (visit.waited kernel)

def reports : List Report :=
  match visit.answer kernel with
  | .ok none => []
  | .ok (some status) => (visit.drained kernel).1 ++ [.exited status]
  | .error error => [.lost error]

def notices : List Notice := (visit.reports kernel).map (.worker visit.worker.pid)

/-- What the operator hears: of an exited worker what was drained and then its exit, of any other
one nothing. -/
def events : List Event :=
  match visit.answer kernel with
  | .ok (some status) =>
      heard visit.worker.pid (visit.drained kernel).1 ++ [.exited visit.worker.pid status]
  | _ => []

def after : σ :=
  match visit.answer kernel with
  | .ok none => visit.waited kernel
  | .ok (some _) => kernel.close visit.worker.diagnostics (visit.drained kernel).2.2
  | .error _ => kernel.close visit.worker.diagnostics (visit.waited kernel)

/-- Each visit starts in the state that the one before it leaves. -/
def Consecutive (kernel : Kernel σ) : List (Visit σ) → σ → σ → Prop
  | [], first, last => first = last
  | visit :: visits, first, last =>
      visit.before = first ∧ Consecutive kernel visits (visit.after kernel) last

variable {visit : Visit σ} {kernel}

theorem lastReports_of_runs (runs : visit.runs kernel = true) :
    lastReports kernel visit.worker visit.before = (none, visit.after kernel) ∧
      visit.notices kernel = [] := by
  rcases asked : kernel.wait visit.worker.pid visit.before with ⟨answer, waited⟩
  rcases answer with error | (_ | status)
  · simp [Visit.runs, Visit.answer, asked] at runs
  · simp [lastReports, after, notices, reports, Visit.answer, Visit.waited, asked]
  · simp [Visit.runs, Visit.answer, asked] at runs

theorem lastReports_of_ended (ended : visit.runs kernel = false) :
    ∃ last, lastReports kernel visit.worker visit.before = (some (visit.reports kernel), last) ∧
      kernel.close visit.worker.diagnostics last = visit.after kernel := by
  rcases asked : kernel.wait visit.worker.pid visit.before with ⟨answer, waited⟩
  rcases answer with error | (_ | status)
  · simp [lastReports, after, reports, Visit.answer, Visit.waited, asked]
  · simp [Visit.runs, Visit.answer, asked] at ended
  · simp [lastReports, after, reports, drained, Visit.answer, Visit.waited, asked]

theorem events_eq : (visit.notices kernel).filterMap (·.event?) = visit.events kernel := by
  have told : (visit.notices kernel).filterMap (·.event?) =
      heard visit.worker.pid (visit.reports kernel) := by
    rw [notices, List.filterMap_map]
    rfl
  rw [told, reports, events]
  rcases visit.answer kernel with error | (_ | status)
  · rfl
  · rfl
  · exact heard_append _ _ _

end

end Visit

/-! ### The visits of a round -/

section

variable {σ : Type} (kernel : Kernel σ)

theorem reapFrom_of_runs {unasked index : Nat} {table : ProcessTable} {visit : Visit σ}
    (found : table.workers[index]? = some visit.worker) (runs : visit.runs kernel = true) :
    reapFrom kernel (unasked + 1) index table visit.before =
      reapFrom kernel unasked (index + 1) table (visit.after kernel) := by
  simp only [reapFrom, found, (Visit.lastReports_of_runs runs).1]

theorem reapFrom_of_ended {unasked index : Nat} {table : ProcessTable} {visit : Visit σ}
    (found : table.workers[index]? = some visit.worker) (ended : visit.runs kernel = false) :
    reapFrom kernel (unasked + 1) index table visit.before =
      (let rest := reapFrom kernel unasked index (table.remove index).2 (visit.after kernel)
       { rest with notices := visit.notices kernel ++ rest.notices, removed := true }) := by
  obtain ⟨last, asked, closed⟩ := Visit.lastReports_of_ended ended
  simp only [reapFrom, found, asked, closed, Visit.notices]

/-- A round that goes on from an index visits the entries behind it. When a worker goes, the last
entry takes its place, which is visited next. -/
theorem visits_of_reapFrom {table : ProcessTable} (listens : 0 < table.slots.length)
    (unasked index : Nat) (entries : List (Worker × PollSlot)) (state : σ)
    (all : entries.length ≤ index + unasked) :
    let reaped := reapFrom kernel unasked index (table.holding entries) state
    ∃ visits : List (Visit σ),
      (visits.map (·.entry)).Perm (entries.drop index) ∧
      Visit.Consecutive kernel visits state reaped.state ∧
      reaped.table = table.holding
        (entries.take index ++ (visits.filter (·.runs kernel)).map (·.entry)) ∧
      reaped.notices = visits.flatMap (·.notices kernel) := by
  induction unasked generalizing index entries state with
  | zero =>
      have outside : entries.drop index = [] := List.drop_eq_nil_of_le (by omega)
      have whole : entries.take index = entries := List.take_of_length_le (by omega)
      refine ⟨[], ?_, rfl, ?_, rfl⟩
      · rw [outside]
        exact List.Perm.nil
      · rw [whole]
        exact congrArg table.holding (List.append_nil entries).symm
  | succ unasked ih =>
      by_cases inside : index < entries.length
      · let visit : Visit σ := ⟨entries[index].1, entries[index].2, state⟩
        have found : (table.holding entries).workers[index]? = some visit.worker := by
          simp [ProcessTable.holding, inside, visit]
        have here : entries.drop index = visit.entry :: entries.drop (index + 1) :=
          List.drop_eq_getElem_cons inside
        cases runs : visit.runs kernel with
        | true =>
            obtain ⟨visits, asked, row, kept, told⟩ :=
              ih (index + 1) entries (visit.after kernel) (by omega)
            have same : reapFrom kernel (unasked + 1) index (table.holding entries) state = _ :=
              reapFrom_of_runs kernel found runs
            rw [same]
            refine ⟨visit :: visits, ?_, ⟨rfl, row⟩, ?_, ?_⟩
            · rw [here]
              exact asked.cons visit.entry
            · have next : entries[index]? = some visit.entry := List.getElem?_eq_getElem inside
              rw [kept, List.filter_cons_of_pos runs, List.take_add_one, next]
              simp
            · have quiet : visit.notices kernel = [] := (Visit.lastReports_of_runs runs).2
              rw [told, List.flatMap_cons, quiet, List.nil_append]
        | false =>
            -- The index stays, and ahead of it there is one entry less, in another order.
            obtain ⟨front, behind⟩ := parts_swapRemove inside
            obtain ⟨visits, asked, row, kept, told⟩ := ih index (swapRemove index entries)
              (visit.after kernel) (by rw [length_swapRemove]; omega)
            have same : reapFrom kernel (unasked + 1) index (table.holding entries) state = _ :=
              reapFrom_of_ended kernel found runs
            rw [same, remove_holding listens inside]
            refine ⟨visit :: visits, ?_, ⟨rfl, row⟩, ?_, ?_⟩
            · rw [behind, here] at asked
              rw [here]
              have others : (swapRemove 0 (visit.entry :: entries.drop (index + 1))).Perm
                  (entries.drop (index + 1)) := swapRemove_perm (Nat.zero_lt_succ _)
              exact (asked.trans others).cons visit.entry
            · have gone : ¬visit.runs kernel = true := Bool.eq_false_iff.mp runs
              rw [kept, front, List.filter_cons_of_neg gone]
            · rw [List.flatMap_cons, ← told]
      · have outside : (table.holding entries).workers[index]? = none := by
          simp [ProcessTable.holding, Nat.le_of_not_lt inside]
        have none : entries.drop index = [] := List.drop_eq_nil_of_le (by omega)
        have whole : entries.take index = entries := List.take_of_length_le (by omega)
        have same : reapFrom kernel (unasked + 1) index (table.holding entries) state =
            { table := table.holding entries, state } := by
          simp only [reapFrom, outside]
        rw [same]
        refine ⟨[], ?_, rfl, ?_, rfl⟩
        · rw [none]
          exact List.Perm.nil
        · rw [whole]
          exact congrArg table.holding (List.append_nil entries).symm

/-! ### What is written of the visits -/

namespace Visit

def unwritten (visit : Visit (σ × List Call)) : Visit σ :=
  { visit with before := visit.before.1 }

variable {kernel}

theorem drained_unwritten (kernel : Kernel σ) (visit : Visit (σ × List Call)) :
    ((visit.drained kernel.transcribing).1, (visit.drained kernel.transcribing).2.1,
        (visit.drained kernel.transcribing).2.2.1) =
      visit.unwritten.drained kernel :=
  Worker.drain_shows kernel.transcribing_shows Worker.drainReads visit.worker
    (visit.waited kernel.transcribing)

theorem reports_unwritten (visit : Visit (σ × List Call)) :
    visit.reports kernel.transcribing = visit.unwritten.reports kernel := by
  have drained := congrArg (·.1) (drained_unwritten kernel visit)
  have answer : visit.answer kernel.transcribing = visit.unwritten.answer kernel := rfl
  rw [reports, reports, answer]
  rcases visit.unwritten.answer kernel with error | (_ | status)
  · rfl
  · rfl
  · simp only [← drained]

theorem after_unwritten (visit : Visit (σ × List Call)) :
    (visit.after kernel.transcribing).1 = visit.unwritten.after kernel := by
  have drained := congrArg (·.2.2) (drained_unwritten kernel visit)
  have answer : visit.answer kernel.transcribing = visit.unwritten.answer kernel := rfl
  rw [after, after, answer]
  rcases visit.unwritten.answer kernel with error | (_ | status)
  · rfl
  · rfl
  · simp only [← drained]
    rfl

theorem consecutive_unwritten {visits : List (Visit (σ × List Call))}
    {first last : σ × List Call} (row : Consecutive kernel.transcribing visits first last) :
    Consecutive kernel (visits.map unwritten) first.1 last.1 := by
  induction visits generalizing first with
  | nil => exact congrArg Prod.fst row
  | cons visit visits ih =>
      obtain ⟨rfl, row⟩ := row
      refine ⟨rfl, ?_⟩
      rw [← after_unwritten]
      exact ih row

theorem waits_after (visit : Visit (σ × List Call)) :
    (visit.after kernel.transcribing).2.filterMap Call.waited? =
      visit.before.2.filterMap Call.waited? ++
        [(visit.worker.pid, visit.unwritten.answer kernel)] := by
  have waited : (visit.waited kernel.transcribing).2 =
      visit.before.2 ++ [.wait visit.worker.pid (visit.unwritten.answer kernel)] := rfl
  have closed (written : σ × List Call) :
      (kernel.transcribing.close visit.worker.diagnostics written).2.filterMap Call.waited? =
        written.2.filterMap Call.waited? := by
    show (written.2 ++ [Call.close visit.worker.diagnostics]).filterMap Call.waited? = _
    rw [List.filterMap_append]
    exact List.append_nil _
  obtain ⟨answers, reads⟩ := visit.worker.drainTurns_writes kernel Worker.drainReads
    (visit.waited kernel.transcribing)
  have drained : (visit.drained kernel.transcribing).2.2.2.filterMap Call.waited? =
      (visit.waited kernel.transcribing).2.filterMap Call.waited? := by
    have silent : (answers.map (Call.read visit.worker.diagnostics)).filterMap Call.waited? = [] :=
      List.filterMap_eq_nil_iff.mpr (by simp [Call.waited?])
    have same : (visit.drained kernel.transcribing).2.2.2 = _ := reads
    rw [same, List.filterMap_append, silent, List.append_nil]
  have told : (visit.waited kernel.transcribing).2.filterMap Call.waited? =
      visit.before.2.filterMap Call.waited? ++
        [(visit.worker.pid, visit.unwritten.answer kernel)] := by
    rw [waited, List.filterMap_append]
    rfl
  rw [← told, after]
  split
  · rfl
  · rw [closed, drained]
  · rw [closed]

theorem waits_of_consecutive {visits : List (Visit (σ × List Call))}
    {first last : σ × List Call} (row : Consecutive kernel.transcribing visits first last) :
    last.2.filterMap Call.waited? = first.2.filterMap Call.waited? ++
      visits.map fun visit => (visit.worker.pid, visit.unwritten.answer kernel) := by
  induction visits generalizing first with
  | nil =>
      obtain rfl : first = last := row
      exact (List.append_nil _).symm
  | cons visit visits ih =>
      obtain ⟨rfl, row⟩ := row
      rw [ih row, waits_after, List.append_assoc]
      rfl

end Visit

/-- Reaping comes to an end, however much there is to drain, and asks for every worker of the table
once. Those that run are left, each with its slot and its buffer as before, and whoever does not is
removed. The reports stand in the order of the questions: of an exited worker what was drained in at
most 512 reads and then its exit; of one that cannot be waited for nothing that the operator
hears. -/
theorem each_worker_asked_once {table : ProcessTable}
    (aligned : table.slots.length = table.workers.length + 1) (state : σ) :
    let reaped := reap kernel table state
    let calls := (reap kernel.transcribing table (state, [])).state.2
    reapWhile (lastReports kernel) kernel 0 table state = reaped ∧
    ∃ visits : List (Visit σ),
      (visits.map (·.entry)).Perm table.entries ∧
      Visit.Consecutive kernel visits state reaped.state ∧
      calls.filterMap Call.waited? =
        visits.map (fun visit => (visit.worker.pid, visit.answer kernel)) ∧
      reaped.table = table.holding ((visits.filter (·.runs kernel)).map (·.entry)) ∧
      (reaped.removed = true ↔ reaped.table.length < table.length) ∧
      reaped.notices = visits.flatMap (·.notices kernel) ∧
      reaped.notices.filterMap (·.event?) = visits.flatMap (·.events kernel) ∧
      ∀ visit ∈ visits, ∃ answers, answers.length ≤ 512 ∧
        Answers kernel visit.worker.diagnostics (visit.waited kernel) answers
          (visit.drained kernel).2.2 := by
  intro reaped calls
  have listens : 0 < table.slots.length := by omega
  have all : table.entries.length ≤ 0 + table.length := by
    rw [ProcessTable.entries, List.length_zip, Nat.zero_add]
    exact Nat.min_le_left _ _
  obtain ⟨written, asked, row, kept, told⟩ :=
    visits_of_reapFrom kernel.transcribing listens table.length 0 table.entries (state, []) all
  rw [holding_entries aligned] at row kept told
  have same : (reap kernel.transcribing table (state, [])).seen Prod.fst = reaped :=
    reapFrom_shows kernel.transcribing_shows table.length 0 table (state, [])
  have removed := removed_reapFrom kernel table.length 0 table state
  have notices : reaped.notices = (written.map Visit.unwritten).flatMap (·.notices kernel) := by
    rw [← same, List.flatMap_map]
    refine told.trans (List.flatMap_congr fun visit _ => ?_)
    rw [Visit.notices, Visit.reports_unwritten]
    rfl
  refine ⟨(reapFrom_eq_reapWhile kernel (Nat.le_add_left _ _) state).symm,
    written.map Visit.unwritten, ?_, ?_, ?_, ?_, ?_, ?_, ?_, ?_⟩
  · rw [List.map_map]
    exact asked
  · rw [← same]
    exact Visit.consecutive_unwritten row
  · have waits : calls.filterMap Call.waited? = _ := Visit.waits_of_consecutive row
    rw [waits, List.map_map]
    rfl
  · have runners : (written.map Visit.unwritten).filter (·.runs kernel) =
        (written.filter (·.runs kernel.transcribing)).map Visit.unwritten := List.filter_map
    rw [runners, List.map_map, ← same]
    exact kept
  · constructor
    · exact removed.1
    · intro fewer
      by_contra none
      have whole := removed.2 (Bool.eq_false_iff.mpr none)
      exact absurd (congrArg List.length whole) (Nat.ne_of_lt fewer)
  · rw [notices]
  · rw [notices, List.filterMap_flatMap]
    exact List.flatMap_congr fun visit _ => Visit.events_eq
  · intro visit _
    obtain ⟨answers, few, reads⟩ :=
      visit.worker.drain_answers kernel Worker.drainReads (visit.waited kernel)
    exact ⟨answers, few, reads⟩

end

/-- A system where worker 71 has exited, worker 72 runs and worker 73 was collected by somebody
else. -/
def someEnded : Kernel (Stage ReadScript) :=
  { Kernel.ofReader ReadScript.read with
    wait := fun pid stage =>
      if pid = 71 then (.ok (some 0), stage)
      else if pid = 72 then (.ok none, stage)
      else (.error (.numbered Errno.noChild), stage) }

def trio : ProcessTable where
  workers :=
    [{ pid := 71, diagnostics := 5, buffer := { bytes := [97], scanned := 1 } },
      { pid := 72, diagnostics := 7, buffer := { bytes := [98], scanned := 1 }, muted := true },
      { pid := 73, diagnostics := 9 }]
  slots := [.ofDescriptor 3, .ofDescriptor 5, (PollSlot.ofDescriptor 7).ignored, .ofDescriptor 9]
  capacity := 4
  ceiling := 4

/-- The worker that takes the place of one that goes is asked for next, and may go as well. -/
theorem last_leaves_with_current :
    trio.slots.length = trio.workers.length + 1 ∧
    ∃ visits : List (Visit (Stage ReadScript)),
      visits.map (·.worker.pid) = [71, 73, 72] ∧
      (visits.map (·.entry)).Perm trio.entries ∧
      (reap someEnded trio { source := { queue := [.ok [99, 10]] } }).table =
        trio.holding ((visits.filter (·.runs someEnded)).map (·.entry)) ∧
      visits.flatMap (·.events someEnded) = [.line 71 "ac", .exited 71 0] := by
  have aligned : trio.slots.length = trio.workers.length + 1 := rfl
  obtain ⟨_, visits, asked, _, calls, kept, _, _, events, _⟩ :=
    each_worker_asked_once someEnded aligned { source := { queue := [.ok [99, 10]] } }
  refine ⟨aligned, visits, ?_, asked, kept, ?_⟩
  · have pids := congrArg (List.map Prod.fst) calls
    rw [List.map_map] at pids
    exact pids.symm.trans (by decide +kernel)
  · exact events.symm.trans (by decide +kernel)

end Supervisor

end Superserver
