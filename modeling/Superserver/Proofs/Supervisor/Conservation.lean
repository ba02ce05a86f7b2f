import Mathlib.Data.List.Perm.Basic
import Superserver.Diagnostics.Script
import Superserver.Proofs.Supervisor.Recording
import Superserver.Proofs.Supervisor.Steps

/-!
The bytes of the workers over whole runs. Main statement: what was reported of a worker and what is
in its buffer are the bytes that were read from its pipe, in their order. When its exit is reported
nothing is left in the buffer.
-/

namespace Superserver

namespace Supervisor

open Kernel Worker

/-! ### What was reported and what was read -/

def heed (pid : Pid) (told : List Report) : Notice → List Report
  | .worker other (.created _) => if other = pid then [] else told
  | .worker other report => if other = pid then told ++ [report] else told
  | _ => told

/-- What was reported of a process since it was created. -/
def tenure (pid : Pid) (notices : List Notice) : List Report := notices.foldl (heed pid) []

def gather (pid : Pid) (descriptor : Descriptor) (bytes : Bytes) : Entry → Bytes
  | .started other => if other = pid then [] else bytes
  | .read other chunk => if other = descriptor then bytes ++ chunk else bytes

/-- What was read from a descriptor since a process was started. -/
def received (pid : Pid) (descriptor : Descriptor) (record : List Entry) : Bytes :=
  record.foldl (gather pid descriptor) []

/-- What some entries say that was read from a descriptor. -/
def taken (descriptor : Descriptor) (entries : List Entry) : Bytes :=
  entries.flatMap fun entry =>
    match entry with
    | .read other chunk => if other = descriptor then chunk else []
    | .started _ => []

section

variable {pid : Pid} {descriptor : Descriptor} {notices : List Notice} {record : List Entry}

theorem tenure_append_reports {reports : List Report}
    (aboutPipe : ∀ report ∈ reports, report.aboutPipe = true) :
    tenure pid (notices ++ reports.map (.worker pid)) = tenure pid notices ++ reports := by
  unfold tenure
  rw [List.foldl_append]
  generalize notices.foldl (heed pid) [] = told
  induction reports generalizing told with
  | nil => simp
  | cons report reports ih =>
      have first : heed pid told (.worker pid report) = told ++ [report] := by
        have about := aboutPipe report (by simp)
        cases report <;> simp_all [heed, Report.aboutPipe]
      rw [List.map_cons, List.foldl_cons, first,
        ih (fun report member => aboutPipe report (List.mem_cons_of_mem _ member))]
      simp

theorem tenure_append_others {others : List Notice}
    (apart : ∀ report, .worker pid report ∉ others) :
    tenure pid (notices ++ others) = tenure pid notices := by
  unfold tenure
  rw [List.foldl_append]
  generalize notices.foldl (heed pid) [] = told
  induction others generalizing told with
  | nil => rfl
  | cons notice others ih =>
      have first : heed pid told notice = told := by
        cases notice with
        | worker other report =>
            have different : other ≠ pid := by
              rintro rfl
              exact apart report (by simp)
            cases report <;> simp [heed, different]
        | _ => rfl
      rw [List.foldl_cons, first]
      exact ih (fun report member => apart report (List.mem_cons_of_mem _ member)) told

theorem tenure_append_created (remote : String) :
    tenure pid (notices ++ [.worker pid (.created remote)]) = [] := by
  simp [tenure, heed]

theorem taken_append (first second : List Entry) :
    taken descriptor (first ++ second) = taken descriptor first ++ taken descriptor second :=
  List.flatMap_append

theorem taken_chunks (chunks : List Bytes) :
    taken descriptor (chunks.map (.read descriptor)) = chunks.flatten := by
  induction chunks with
  | nil => rfl
  | cons chunk chunks ih =>
      rw [List.map_cons, List.flatten_cons, ← ih]
      simp [taken]

theorem taken_of_apart {entries : List Entry}
    (apart : ∀ chunk, .read descriptor chunk ∉ entries) : taken descriptor entries = [] := by
  apply List.flatMap_eq_nil_iff.mpr
  intro entry member
  cases entry with
  | started pid => rfl
  | read other chunk =>
      have different : other ≠ descriptor := by
        rintro rfl
        exact apart chunk member
      simp [different]

theorem received_append {entries : List Entry} (startless : ∀ pid, .started pid ∉ entries) :
    received pid descriptor (record ++ entries) =
      received pid descriptor record ++ taken descriptor entries := by
  unfold received
  rw [List.foldl_append]
  generalize record.foldl (gather pid descriptor) [] = bytes
  induction entries generalizing bytes with
  | nil => simp [taken]
  | cons entry entries ih =>
      have rest := ih (fun pid member => startless pid (List.mem_cons_of_mem _ member))
      cases entry with
      | started pid => exact absurd (List.mem_cons_self ..) (startless pid)
      | read other chunk =>
          rw [List.foldl_cons, rest]
          by_cases same : other = descriptor <;> simp [gather, taken, same]

theorem received_started : received pid descriptor (record ++ [.started pid]) = [] := by
  simp [received, gather]

theorem received_started_other {other : Pid} (different : other ≠ pid) :
    received pid descriptor (record ++ [.started other]) = received pid descriptor record := by
  simp [received, gather, different]

end

/-! ### The account -/

/-- No process and no pipe is tracked twice: the system gives out no number that is in use. -/
structure Distinct (workers : List Worker) : Prop where
  pids : (workers.map (·.pid)).Nodup
  descriptors : (workers.map (·.diagnostics)).Nodup

structure Accounted (workers : List Worker) (notices : List Notice) (record : List Entry) :
    Prop where
  distinct : Distinct workers
  settled : ∀ worker ∈ workers, worker.buffer.Settled
  balanced : ∀ worker ∈ workers, sources (tenure worker.pid notices) ++ worker.buffer.bytes =
    received worker.pid worker.diagnostics record
  proper : ∀ pid piece, .worker pid (.line piece) ∈ notices → piece.Proper

theorem cons_eraseIdx_perm {workers : List Worker} {index : Nat} {worker : Worker}
    (found : workers[index]? = some worker) :
    (worker :: workers.eraseIdx index).Perm workers := by
  obtain ⟨inside, rfl⟩ := List.getElem?_eq_some_iff.mp found
  exact List.getElem_cons_eraseIdx_perm inside

theorem swapRemove_perm {items : List α} {index : Nat} (inside : index < items.length) :
    (swapRemove index items).Perm (items.eraseIdx index) := by
  obtain ⟨front, last, rfl⟩ : ∃ front last, items = front ++ [last] :=
    ⟨_, _, (List.dropLast_concat_getLast (List.ne_nil_of_length_pos (by omega))).symm⟩
  simp only [swapRemove, List.getLast?_concat]
  by_cases behind : index < front.length
  · rw [List.set_append_left _ _ behind, List.dropLast_concat,
      List.eraseIdx_append_of_lt_length behind]
    exact (List.set_perm_cons_eraseIdx behind last).trans (List.perm_append_singleton _ _).symm
  · have atEnd : index = front.length := by
      simp only [List.length_append, List.length_singleton] at inside
      omega
    subst atEnd
    simp [List.eraseIdx_append_of_length_le]

theorem Distinct.perm {workers others : List Worker} (distinct : Distinct workers)
    (same : workers.Perm others) : Distinct others :=
  ⟨(same.map _).nodup_iff.mp distinct.pids, (same.map _).nodup_iff.mp distinct.descriptors⟩

namespace Accounted

variable {worker : Worker} {workers others : List Worker} {notices : List Notice}
  {record : List Entry}

theorem perm (accounted : Accounted workers notices record) (same : workers.Perm others) :
    Accounted others notices record where
  distinct := accounted.distinct.perm same
  settled := fun worker member => accounted.settled worker (same.mem_iff.mpr member)
  balanced := fun worker member => accounted.balanced worker (same.mem_iff.mpr member)
  proper := accounted.proper

theorem apart (accounted : Accounted (worker :: others) notices record) {other : Worker}
    (member : other ∈ others) :
    worker.pid ≠ other.pid ∧ worker.diagnostics ≠ other.diagnostics := by
  obtain ⟨⟨pids, descriptors⟩, _, _, _⟩ := accounted
  rw [List.map_cons, List.nodup_cons] at pids descriptors
  constructor
  · intro same
    exact pids.1 (same ▸ List.mem_map_of_mem member)
  · intro same
    exact descriptors.1 (same ▸ List.mem_map_of_mem member)

/-- A worker moves bytes, by itself and from its own pipe. -/
theorem advance {σ : Type} {kernel : Kernel σ} {recorded last : σ × List Entry} {after : Worker}
    {reports : List Report} (accounted : Accounted (worker :: others) notices recorded.2)
    (moves : Moves kernel.recording worker recorded after reports last) :
    Accounted (after :: others) (notices ++ reports.map (.worker worker.pid)) last.2 := by
  obtain ⟨bytes, reads, flow⟩ := moves
  obtain ⟨chunks, grown, whole⟩ := record_of_reads reads
  have startless : ∀ pid, Entry.started pid ∉ chunks.map (.read worker.diagnostics) := by simp
  constructor
  · constructor
    · simpa [flow.alike.pid] using accounted.distinct.pids
    · simpa [flow.alike.diagnostics] using accounted.distinct.descriptors
  · intro other member
    rcases List.mem_cons.mp member with rfl | member
    · exact flow.settled
    · exact accounted.settled other (List.mem_cons_of_mem _ member)
  · intro other member
    rw [grown, received_append startless]
    rcases List.mem_cons.mp member with rfl | member
    · have before := accounted.balanced worker (by simp)
      rw [flow.alike.pid, flow.alike.diagnostics, tenure_append_reports flow.aboutPipe,
        sources_append, List.append_assoc, flow.balance, ← List.append_assoc, before,
        taken_chunks, whole]
    · have different := accounted.apart member
      rw [tenure_append_others (by simp [different.1]),
        taken_of_apart (by simp [different.2]), List.append_nil]
      exact accounted.balanced other (List.mem_cons_of_mem _ member)
  · intro pid piece member
    rcases List.mem_append.mp member with member | member
    · exact accounted.proper pid piece member
    · obtain ⟨report, told, same⟩ := List.mem_map.mp member
      cases same
      exact flow.proper piece told

theorem leave (accounted : Accounted (worker :: others) notices record) {report : Report}
    (silent : ∀ piece, report ≠ .line piece) :
    Accounted others (notices ++ [.worker worker.pid report]) record where
  distinct := ⟨(List.nodup_cons.mp accounted.distinct.pids).2,
    (List.nodup_cons.mp accounted.distinct.descriptors).2⟩
  settled := fun other member => accounted.settled other (List.mem_cons_of_mem _ member)
  balanced := by
    intro other member
    have different := accounted.apart member
    rw [tenure_append_others (by simp [Ne.symm different.1])]
    exact accounted.balanced other (List.mem_cons_of_mem _ member)
  proper := by
    intro pid piece member
    rcases List.mem_append.mp member with member | member
    · exact accounted.proper pid piece member
    · cases List.mem_singleton.mp member
      exact absurd rfl (silent piece)

theorem mute (accounted : Accounted (worker :: others) notices record) :
    Accounted (worker.mute :: others) notices record where
  distinct := ⟨accounted.distinct.pids, accounted.distinct.descriptors⟩
  settled := by
    intro other member
    rcases List.mem_cons.mp member with rfl | member
    · exact accounted.settled worker (by simp)
    · exact accounted.settled other (List.mem_cons_of_mem _ member)
  balanced := by
    intro other member
    rcases List.mem_cons.mp member with rfl | member
    · exact accounted.balanced worker (by simp)
    · exact accounted.balanced other (List.mem_cons_of_mem _ member)
  proper := accounted.proper

theorem aside {asides : List Notice} (accounted : Accounted workers notices record)
    (apart : Asides asides) : Accounted workers (notices ++ asides) record where
  distinct := accounted.distinct
  settled := accounted.settled
  balanced := by
    intro worker member
    rw [tenure_append_others (fun report told => apart _ told worker.pid report rfl)]
    exact accounted.balanced worker member
  proper := by
    intro pid piece member
    rcases List.mem_append.mp member with member | member
    · exact accounted.proper pid piece member
    · exact absurd rfl (apart _ member pid (.line piece))

theorem welcome {pid : Pid} {diagnostics : Descriptor}
    (accounted : Accounted workers notices record)
    (distinct : Distinct (workers ++ [{ pid := pid, diagnostics := diagnostics }]))
    (remote : String) :
    Accounted (workers ++ [{ pid := pid, diagnostics := diagnostics }])
      (notices ++ [.worker pid (.created remote)]) (record ++ [.started pid]) where
  distinct := distinct
  settled := by
    intro worker member
    rcases List.mem_append.mp member with member | member
    · exact accounted.settled worker member
    · cases List.mem_singleton.mp member
      exact LineBuffer.settled_empty
  balanced := by
    intro worker member
    rcases List.mem_append.mp member with member | member
    · have different : pid ≠ worker.pid := by
        intro same
        have pids := distinct.pids
        rw [List.map_append, List.nodup_append] at pids
        exact pids.2.2 _ (List.mem_map_of_mem member) pid (by simp) same.symm
      rw [tenure_append_others (by simp [Ne.symm different]), received_started_other different]
      exact accounted.balanced worker member
    · cases List.mem_singleton.mp member
      rw [tenure_append_created, received_started]
      rfl
  proper := by
    intro pid piece member
    rcases List.mem_append.mp member with member | member
    · exact accounted.proper pid piece member
    · cases List.mem_singleton.mp member

section

variable {σ : Type} {kernel : Kernel σ} {recorded after : σ × List Entry} {last : List Worker}
  {told : List Notice}

theorem step (accounted : Accounted workers notices recorded.2)
    (step : Step kernel.recording workers recorded told last after) :
    Accounted last (notices ++ told) after.2 := by
  cases step with
  | quiet quiet =>
      rw [record_of_quiet quiet, List.append_nil]
      exact accounted
  | @attended _ index worker flags attended changed found attends change =>
      have front := accounted.perm (cons_eraseIdx_perm found).symm
      have moves := attend_moves kernel.recording flags (front.settled worker (by simp)) recorded
      rw [attends] at moves
      have inside : index < workers.length := (List.getElem?_eq_some_iff.mp found).1
      have back := (List.set_perm_cons_eraseIdx inside changed).symm
      rcases change with rfl | rfl
      · exact (front.advance moves).perm back
      · exact (front.advance moves).mute.perm back
  | @exited _ index worker emptied reports status found drains =>
      have front := accounted.perm (cons_eraseIdx_perm found).symm
      have moves := drain_moves kernel.recording drainReads (front.settled worker (by simp))
        recorded
      rw [drains] at moves
      have inside : index < workers.length := (List.getElem?_eq_some_iff.mp found).1
      have drained := front.advance moves
      have word : ∀ piece, Report.exited status ≠ .line piece := by simp
      have gone := (drained.leave word).perm (swapRemove_perm inside).symm
      obtain ⟨_, _, flow⟩ := moves
      rwa [flow.alike.pid, List.append_assoc] at gone
  | @lost index worker error found =>
      have front := accounted.perm (cons_eraseIdx_perm found).symm
      have inside : index < workers.length := (List.getElem?_eq_some_iff.mp found).1
      exact (front.leave (by simp)).perm (swapRemove_perm inside).symm

theorem steps (accounted : Accounted workers notices recorded.2)
    (steps : Steps kernel.recording workers recorded told last after) :
    Accounted last (notices ++ told) after.2 := by
  induction steps with
  | refl => simpa using accounted
  | step _ step ih =>
      rw [← List.append_assoc]
      exact ih.step step

theorem admission (accounted : Accounted workers notices recorded.2)
    (admission : Admission kernel.recording workers recorded told last after)
    (distinct : Distinct last) : Accounted last (notices ++ told) after.2 := by
  cases admission with
  | none asides quiet =>
      rw [record_of_quiet quiet]
      exact accounted.aside asides
  | one asides before spawn closed =>
      rw [record_of_quiet closed, record_of_spawn spawn, record_of_quiet before,
        ← List.append_assoc]
      exact (accounted.aside asides).welcome distinct _

theorem tick {supervisor : Supervisor}
    (accounted : Accounted supervisor.table.workers notices recorded.2)
    (distinct : Distinct (supervisor.tick kernel.recording recorded).supervisor.table.workers) :
    Accounted (supervisor.tick kernel.recording recorded).supervisor.table.workers
      (notices ++ (supervisor.tick kernel.recording recorded).notices)
      (supervisor.tick kernel.recording recorded).state.2 := by
  obtain ⟨earlier, middle, between, later, steps, admission, told⟩ :=
    tick_steps kernel.recording supervisor recorded
  rw [told, ← List.append_assoc]
  exact (accounted.steps steps).admission admission distinct

end

theorem passes {σ : Type} {kernel : Kernel σ} {supervisor : Supervisor} {state : σ} {count : Nat}
    (fresh : supervisor.table.workers = [])
    (distinct : ∀ passed ≤ count,
      Distinct (passes kernel supervisor state passed).supervisor.table.workers) :
    Accounted (Supervisor.passes kernel supervisor state count).supervisor.table.workers
      (Supervisor.passes kernel supervisor state count).notices
      (Supervisor.passes kernel.recording supervisor (state, []) count).state.2 := by
  have same : ∀ passed, Supervisor.passes kernel supervisor state passed =
      (Supervisor.passes kernel.recording supervisor (state, []) passed).seen Prod.fst :=
    fun passed => (passes_shows kernel.recording_shows supervisor (state, []) passed).symm
  simp only [same] at distinct ⊢
  induction count with
  | zero =>
      simp only [Supervisor.passes, Ran.seen, fresh]
      exact ⟨⟨by simp, by simp⟩, by simp, by simp, by simp⟩
  | succ count ih =>
      exact (ih fun passed early => distinct passed (by omega)).tick (distinct _ (Nat.le_refl _))

end Accounted

/-! ### The exit of a worker -/

structure Within {σ : Type} (workers : List Worker) (recorded : σ × List Entry)
    (last : List Worker) (after : σ × List Entry) (entries : List Entry) : Prop where
  record : after.2 = recorded.2 ++ entries
  startless : ∀ pid, .started pid ∉ entries
  own : ∀ descriptor chunk, .read descriptor chunk ∈ entries →
    ∃ worker ∈ workers, worker.diagnostics = descriptor
  kept : ∀ other ∈ last, ∃ worker ∈ workers,
    worker.pid = other.pid ∧ worker.diagnostics = other.diagnostics

section

variable {σ : Type} {kernel : Kernel σ} {recorded between after : σ × List Entry}
  {workers middle last : List Worker} {told : List Notice} {first second : List Entry}

theorem Within.refl (workers : List Worker) (recorded : σ × List Entry) :
    Within workers recorded workers recorded [] where
  record := by simp
  startless := by simp
  own := by simp
  kept := fun other member => ⟨other, member, rfl, rfl⟩

theorem Within.trans (within : Within workers recorded middle between first)
    (next : Within middle between last after second) :
    Within workers recorded last after (first ++ second) where
  record := by rw [next.record, within.record, List.append_assoc]
  startless := by
    intro pid member
    rcases List.mem_append.mp member with member | member
    · exact within.startless pid member
    · exact next.startless pid member
  own := by
    intro descriptor chunk member
    rcases List.mem_append.mp member with member | member
    · exact within.own descriptor chunk member
    · obtain ⟨other, found, rfl⟩ := next.own descriptor chunk member
      obtain ⟨worker, tracked, _, same⟩ := within.kept other found
      exact ⟨worker, tracked, same⟩
  kept := by
    intro other member
    obtain ⟨between, found, pid, diagnostics⟩ := next.kept other member
    obtain ⟨worker, tracked, samePid, same⟩ := within.kept between found
    exact ⟨worker, tracked, samePid.trans pid, same.trans diagnostics⟩

theorem within_of_moves {worker changed : Worker} {reports : List Report}
    (tracked : worker ∈ workers) (moves : Moves kernel.recording worker recorded changed reports after)
    (kept : ∀ other ∈ last, other ∈ workers ∨ other = changed ∨ other = changed.mute) :
    ∃ entries, Within workers recorded last after entries := by
  obtain ⟨bytes, reads, flow⟩ := moves
  obtain ⟨chunks, record, _⟩ := record_of_reads reads
  refine ⟨_, record, by simp, ?_, ?_⟩
  · intro descriptor chunk member
    obtain ⟨_, _, same⟩ := List.mem_map.mp member
    cases same
    exact ⟨worker, tracked, rfl⟩
  · intro other member
    rcases kept other member with old | rfl | rfl
    · exact ⟨other, old, rfl, rfl⟩
    · exact ⟨worker, tracked, flow.alike.pid.symm, flow.alike.diagnostics.symm⟩
    · exact ⟨worker, tracked, flow.alike.pid.symm, flow.alike.diagnostics.symm⟩

theorem mem_of_mem_swapRemove {index : Nat} {worker other : Worker}
    (found : workers[index]? = some worker) (member : other ∈ swapRemove index workers) :
    other ∈ workers.eraseIdx index :=
  (swapRemove_perm (List.getElem?_eq_some_iff.mp found).1).mem_iff.mp member

theorem within_step {notices : List Notice} {told : List Notice}
    (accounted : Accounted workers notices recorded.2)
    (step : Step kernel.recording workers recorded told last after) :
    ∃ entries, Within workers recorded last after entries := by
  cases step with
  | quiet quiet =>
      refine ⟨[], by simp [record_of_quiet quiet], by simp, by simp, ?_⟩
      exact fun other member => ⟨other, member, rfl, rfl⟩
  | @attended _ index worker flags attended changed found attends change =>
      have tracked := List.mem_of_getElem? found
      have moves := attend_moves kernel.recording flags (accounted.settled worker tracked) recorded
      rw [attends] at moves
      refine within_of_moves tracked moves fun other member => ?_
      rcases List.mem_or_eq_of_mem_set member with old | rfl
      · exact Or.inl old
      · exact Or.inr change
  | @exited _ index worker emptied reports status found drains =>
      have tracked := List.mem_of_getElem? found
      have moves := drain_moves kernel.recording drainReads (accounted.settled worker tracked)
        recorded
      rw [drains] at moves
      exact within_of_moves tracked moves fun other member =>
        Or.inl (List.mem_of_mem_eraseIdx (mem_of_mem_swapRemove found member))
  | @lost index worker error found =>
      refine ⟨[], by simp, by simp, by simp, fun other member => ⟨other, ?_, rfl, rfl⟩⟩
      exact List.mem_of_mem_eraseIdx (mem_of_mem_swapRemove found member)

/-- The last notices before an exit are those of the drain that emptied the worker's buffer. -/
def Emptied (kernel : Kernel σ) (pid : Pid) (before : List Notice) : Prop :=
  ∃ (worker : Worker) (start : σ) (reports : List Report) (emptied : Worker) (finish : σ),
    worker.pid = pid ∧ worker.drain kernel drainReads start = (reports, emptied, finish) ∧
      emptied.buffer.bytes = [] ∧ reports.map (.worker pid) <:+ before

variable {notices before rest : List Notice} {pid : Pid} {status : Int}

theorem eq_of_append_singleton {α : Type} {front before rest : List α} {last found : α}
    (same : front ++ [last] = before ++ found :: rest) (absent : found ∉ front) :
    before = front ∧ last = found := by
  rcases List.eq_nil_or_concat rest with rfl | ⟨init, final, rfl⟩
  · have parts := List.append_inj' same rfl
    simp only [List.cons.injEq, and_true] at parts
    exact ⟨parts.1.symm, parts.2⟩
  · rw [List.concat_eq_append, ← List.cons_append, ← List.append_assoc] at same
    have parts := (List.append_inj' same rfl).1
    exact absurd (by simp [parts]) absent

theorem split_of_append {α : Type} {front back before rest : List α} {found : α}
    (same : front ++ back = before ++ found :: rest) :
    (∃ lately, before = front ++ lately ∧ back = lately ++ found :: rest) ∨
      ∃ others, front = before ++ found :: others := by
  rcases List.append_eq_append_iff.mp same with ⟨lately, first, second⟩ | ⟨others, first, second⟩
  · exact Or.inl ⟨lately, first, second⟩
  · cases others with
    | nil => exact Or.inl ⟨[], by simpa using first.symm, second.symm⟩
    | cons item others =>
        cases second
        exact Or.inr ⟨others, first⟩

theorem exit_of_step (accounted : Accounted workers notices recorded.2)
    (step : Step kernel.recording workers recorded told last after)
    (exit : told = before ++ .worker pid (.exited status) :: rest) :
    ∃ worker ∈ workers, worker.pid = pid ∧
      (∀ other ∈ last, other.diagnostics ≠ worker.diagnostics) ∧
      sources (tenure pid (notices ++ before)) = received pid worker.diagnostics after.2 ∧
      Emptied kernel.recording pid before := by
  have heard : .worker pid (.exited status) ∈ told := by simp [exit]
  cases step with
  | quiet quiet => cases heard
  | @attended _ index worker flags attended changed found attends change =>
      have moves := attend_moves kernel.recording flags
        (accounted.settled worker (List.mem_of_getElem? found)) recorded
      rw [attends] at moves
      obtain ⟨_, _, flow⟩ := moves
      obtain ⟨report, member, same⟩ := List.mem_map.mp heard
      cases same
      cases flow.aboutPipe _ member
  | @exited _ index worker emptied reports ended found drains =>
      have front := accounted.perm (cons_eraseIdx_perm found).symm
      have moves := drain_moves kernel.recording drainReads (front.settled worker (by simp))
        recorded
      have empty := buffer_drain kernel.recording drainReads worker recorded
      rw [drains] at moves empty
      have drained := front.advance moves
      obtain ⟨_, _, flow⟩ := moves
      have silent : Notice.worker pid (.exited status) ∉ reports.map (.worker worker.pid) := by
        intro member
        obtain ⟨report, listed, same⟩ := List.mem_map.mp member
        cases same
        cases flow.aboutPipe _ listed
      obtain ⟨rfl, same⟩ := eq_of_append_singleton exit silent
      cases same
      have balance := drained.balanced emptied (by simp)
      rw [empty, List.append_nil, flow.alike.pid, flow.alike.diagnostics] at balance
      refine ⟨worker, List.mem_of_getElem? found, rfl, ?_, balance, ?_⟩
      · intro other member
        exact Ne.symm (front.apart (mem_of_mem_swapRemove found member)).2
      · exact ⟨worker, recorded, reports, emptied, after, rfl, drains, empty, List.suffix_refl _⟩
  | lost found =>
      cases List.mem_singleton.mp heard

theorem within_steps (accounted : Accounted workers notices recorded.2)
    (steps : Steps kernel.recording workers recorded told last after) :
    ∃ entries, Within workers recorded last after entries := by
  induction steps with
  | refl => exact ⟨[], Within.refl workers recorded⟩
  | step steps step ih =>
      obtain ⟨first, within⟩ := ih
      obtain ⟨second, next⟩ := within_step (accounted.steps steps) step
      exact ⟨first ++ second, within.trans next⟩

/-- An exit in the course of some steps: by then all that they read from the pipe was reported. -/
theorem exit_of_steps (accounted : Accounted workers notices recorded.2)
    (steps : Steps kernel.recording workers recorded told last after)
    (exit : told = before ++ .worker pid (.exited status) :: rest) :
    ∃ worker ∈ workers, worker.pid = pid ∧
      (∀ other ∈ last, other.diagnostics ≠ worker.diagnostics) ∧
      ∃ entries, Within workers recorded last after entries ∧
        sources (tenure pid (notices ++ before)) =
          received pid worker.diagnostics recorded.2 ++ taken worker.diagnostics entries ∧
        Emptied kernel.recording pid before := by
  induction steps generalizing rest with
  | refl => simp at exit
  | @step earlier later middle last between after steps step ih =>
      have settled := accounted.steps steps
      obtain ⟨first, within⟩ := within_steps accounted steps
      obtain ⟨second, next⟩ := within_step settled step
      have whole := within.trans next
      rcases split_of_append exit with ⟨lately, rfl, told⟩ | ⟨others, told⟩
      · obtain ⟨worker, member, rfl, gone, reported, emptied⟩ := exit_of_step settled step told
        obtain ⟨original, tracked, samePid, same⟩ := within.kept worker member
        refine ⟨original, tracked, samePid, same ▸ gone, _, whole, ?_, ?_⟩
        · rw [← List.append_assoc, reported, whole.record, received_append whole.startless, same]
        · obtain ⟨held, start, reports, drained, finish, pid, drains, empty, suffix⟩ := emptied
          exact ⟨held, start, reports, drained, finish, pid, drains, empty,
            suffix.trans (List.suffix_append _ _)⟩
      · obtain ⟨worker, tracked, samePid, gone, entries, within, reported, emptied⟩ := ih told
        have unread : ∀ chunk, .read worker.diagnostics chunk ∉ second := by
          intro chunk member
          obtain ⟨other, found, same⟩ := next.own _ chunk member
          exact gone other found same
        refine ⟨worker, tracked, samePid, ?_, _, within.trans next, ?_, emptied⟩
        · intro other member
          obtain ⟨original, found, _, same⟩ := next.kept other member
          exact same ▸ gone original found
        · rw [taken_append, taken_of_apart unread, List.append_nil]
          exact reported

theorem record_of_admission
    (admission : Admission kernel.recording workers recorded told last after) :
    ∃ entries, after.2 = recorded.2 ++ entries ∧
      ∀ descriptor chunk, .read descriptor chunk ∉ entries := by
  cases admission with
  | none asides quiet => exact ⟨[], by simp [record_of_quiet quiet], by simp⟩
  | @one _ _ _ _ request pid _ _ asides quiet spawn closed =>
      refine ⟨[.started pid], ?_, by simp⟩
      rw [record_of_quiet closed, record_of_spawn spawn, record_of_quiet quiet]

theorem exit_not_of_admission
    (admission : Admission kernel.recording workers recorded told last after) (pid : Pid)
    (status : Int) : .worker pid (.exited status) ∉ told := by
  intro member
  cases admission with
  | none asides quiet => exact asides _ member pid _ rfl
  | one asides quiet spawn closed =>
      rcases List.mem_append.mp member with member | member
      · exact asides _ member pid _ rfl
      · cases List.mem_singleton.mp member

end

/-! ### Whole runs -/

/-- The bytes that the system gave are the bytes reported and those still in a buffer, which holds
no newline after any step, be it one of a pass or one of emptying the pipe of an exited worker. It
is assumed, as `LineBuffer.fill` does, that the buffer gets the memory for every chunk. -/
theorem diagnostic_bytes_conserved {σ : Type} (kernel : Kernel σ) (listener : Listener)
    (command : ShellCommand) (limit : AdmissionLimit) (state : σ) (count : Nat)
    (distinct : ∀ passed ≤ count, Distinct
      (passes kernel (.new listener command limit) state passed).supervisor.table.workers) :
    let ran := passes kernel (.new listener command limit) state count
    let recorded := passes kernel.recording (.new listener command limit) (state, []) count
    let next := recorded.supervisor.tick kernel.recording recorded.state
    recorded.seen Prod.fst = ran ∧
    (∀ worker ∈ ran.supervisor.table.workers,
      sources (tenure worker.pid ran.notices) ++ worker.buffer.bytes =
        received worker.pid worker.diagnostics recorded.state.2 ∧
      Piece.newline ∉ worker.buffer.bytes ∧
      ∀ between, Piece.newline ∉ (worker.forward kernel between).1.worker.buffer.bytes ∧
        ∀ turns, Piece.newline ∉ (worker.drainTurns kernel turns between).2.1.buffer.bytes) ∧
    (∀ pid text, .line pid text ∈ ran.notices.filterMap (·.event?) →
      ∃ piece, .worker pid (.line piece) ∈ ran.notices ∧
        text = Utf8.decodeLossy piece.bytes ∧ piece.Proper) ∧
    ∀ before rest pid status,
      next.notices = before ++ .worker pid (.exited status) :: rest →
      ∃ worker ∈ ran.supervisor.table.workers, worker.pid = pid ∧
        ∃ entries, next.state.2 = recorded.state.2 ++ entries ∧
          sources (tenure pid (ran.notices ++ before)) =
            received pid worker.diagnostics recorded.state.2 ++
              taken worker.diagnostics entries ∧
          Emptied kernel.recording pid before := by
  intro ran recorded next
  have same : recorded.seen Prod.fst = ran :=
    passes_shows kernel.recording_shows (.new listener command limit) (state, []) count
  have account : Accounted ran.supervisor.table.workers ran.notices recorded.state.2 :=
    Accounted.passes rfl distinct
  refine ⟨same, ?_, ?_, ?_⟩
  · intro worker tracked
    have settled := account.settled worker tracked
    refine ⟨account.balanced worker tracked, settled.unended, fun between => ⟨?_, fun turns => ?_⟩⟩
    · exact (forward_moves kernel settled between).settled.unended
    · exact (drainTurns_moves kernel turns settled between).settled.unended
  · intro pid text heard
    obtain ⟨notice, member, event⟩ := List.mem_filterMap.mp heard
    cases notice with
    | worker other report =>
        cases report with
        | line piece =>
            cases event
            exact ⟨piece, member, rfl, account.proper pid piece member⟩
        | _ => cases event
    | _ => cases event
  · intro before rest pid status exit
    rw [← same] at account ⊢
    obtain ⟨earlier, middle, between, later, steps, admission, told⟩ :=
      tick_steps kernel.recording recorded.supervisor recorded.state
    obtain ⟨admitted, record, unread⟩ := record_of_admission admission
    rcases split_of_append (told.symm.trans exit) with ⟨lately, _, late⟩ | ⟨others, early⟩
    · exact absurd (by simp [late]) (exit_not_of_admission admission pid status)
    · obtain ⟨worker, tracked, samePid, _, entries, within, reported, emptied⟩ :=
        exit_of_steps account steps early
      refine ⟨worker, tracked, samePid, entries ++ admitted, ?_, ?_, emptied⟩
      · rw [record, within.record, List.append_assoc]
      · rw [taken_append, taken_of_apart (unread _), List.append_nil]
        exact reported

def oneClient : Stage ReadScript where
  source := { queue := [.ok [104, 105, 10, 116, 104], .error (.bare .wouldBlock)] }
  running := 1
  clients := 1

theorem distinct_of_oneClient (passed : Nat) (early : passed ≤ 2) :
    Distinct (passes (.ofReader ReadScript.read)
      (.new smallListener { text := "printf" } { workers := 4 }) oneClient
      passed).supervisor.table.workers := by
  obtain rfl | rfl | rfl : passed = 0 ∨ passed = 1 ∨ passed = 2 := by omega
  · exact ⟨by decide +kernel, by decide +kernel⟩
  · exact ⟨by decide +kernel, by decide +kernel⟩
  · exact ⟨by decide +kernel, by decide +kernel⟩

theorem bytes_of_one_client_conserved :
    let kernel := Kernel.ofReader ReadScript.read
    let initial := Supervisor.new smallListener { text := "printf" } { workers := 4 }
    let ran := passes kernel initial oneClient 2
    let recorded := passes kernel.recording initial (oneClient, []) 2
    ran.supervisor.table.workers.map (·.buffer.bytes) = [[116, 104]] ∧
      ∀ worker ∈ ran.supervisor.table.workers,
        sources (tenure worker.pid ran.notices) ++ worker.buffer.bytes =
          received worker.pid worker.diagnostics recorded.state.2 := by
  have conserved := diagnostic_bytes_conserved (.ofReader ReadScript.read) smallListener
    { text := "printf" } { workers := 4 } oneClient 2 distinct_of_oneClient
  refine ⟨?_, fun worker tracked => (conserved.2.1 worker tracked).1⟩
  decide +kernel

end Supervisor

end Superserver
