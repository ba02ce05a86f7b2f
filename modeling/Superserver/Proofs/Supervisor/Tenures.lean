import Superserver.Proofs.Supervisor.Conservation
import Superserver.Proofs.Supervisor.Turns

/-!
The events of a worker from its creation to its exit. Main statement: told apart by process, the
events are those of one tenure in the table after another, and none comes from outside a tenure.
-/

namespace Superserver

def Event.isDiagnostic : Event → Bool
  | .line .. | .pipeError _ | .forwardFailed .. => true
  | .created .. | .exited .. => false

namespace Supervisor

open ProcessTable

def eventsOf (pid : Pid) (notices : List Notice) : List Event :=
  (notices.filterMap (·.event?)).filter (·.pid = pid)

section

variable {pid other : Pid} {notices : List Notice} {reports : List Report}

theorem pid_of_event? {report : Report} {event : Event} (told : report.event? pid = some event) :
    event.pid = pid := by
  cases report <;> cases told <;> rfl

theorem eventsOf_append (first second : List Notice) :
    eventsOf pid (first ++ second) = eventsOf pid first ++ eventsOf pid second := by
  simp [eventsOf]

theorem eventsOf_nil_of_apart (apart : ∀ report, .worker pid report ∉ notices) :
    eventsOf pid notices = [] := by
  apply List.filter_eq_nil_iff.mpr
  intro event member
  obtain ⟨notice, told, same⟩ := List.mem_filterMap.mp member
  cases notice with
  | worker other report =>
      rw [decide_eq_true_eq, pid_of_event? same]
      rintro rfl
      exact apart report told
  | _ => cases same

theorem eventsOf_other (different : pid ≠ other) (reports : List Report) :
    eventsOf pid (reports.map (.worker other)) = [] :=
  eventsOf_nil_of_apart (by simp [Ne.symm different])

theorem eventsOf_singleton (report : Report) :
    eventsOf pid [.worker pid report] = (report.event? pid).toList := by
  rcases told : report.event? pid with _ | event
  · simp [eventsOf, Notice.event?, told]
  · simp [eventsOf, Notice.event?, told, pid_of_event? told]

theorem isDiagnostic_of_reports (aboutPipe : ∀ report ∈ reports, report.aboutPipe = true) :
    ∀ event ∈ eventsOf pid (reports.map (.worker other)), event.isDiagnostic = true := by
  intro event member
  obtain ⟨notice, told, same⟩ := List.mem_filterMap.mp (List.mem_filter.mp member).1
  obtain ⟨report, listed, rfl⟩ := List.mem_map.mp told
  have about := aboutPipe report listed
  cases report <;> cases same <;> first | rfl | cases about

end

/-! ### Tenures -/

/-- The events of a worker that is in the table. -/
def Ongoing (pid : Pid) (events : List Event) : Prop :=
  ∃ remote body, events = .created pid remote :: body ∧
    ∀ event ∈ body, event.isDiagnostic = true

/-- The events of a worker that has left: its exit is the last of them, if it was observed. -/
def Over (pid : Pid) (events : List Event) : Prop :=
  Ongoing pid events ∨
    ∃ earlier status, Ongoing pid earlier ∧ events = earlier ++ [.exited pid status]

/-- The events of a process: its past tenures, and the present one if it is in the table. -/
def Tenures (pid : Pid) (tracked : Prop) (events : List Event) : Prop :=
  ∃ (past : List (List Event)) (present : List Event), events = past.flatten ++ present ∧
    (∀ tenure ∈ past, Over pid tenure) ∧
    (tracked → Ongoing pid present) ∧ (¬tracked → present = [])

namespace Tenures

variable {pid : Pid} {tracked : Prop} {events more : List Event}

theorem extend (tenures : Tenures pid tracked events) (present : tracked)
    (diagnostic : ∀ event ∈ more, event.isDiagnostic = true) :
    Tenures pid tracked (events ++ more) := by
  obtain ⟨past, latest, rfl, closed, ongoing, _⟩ := tenures
  obtain ⟨remote, body, rfl, talk⟩ := ongoing present
  refine ⟨past, .created pid remote :: body ++ more, by simp, closed, fun _ => ?_,
    fun absent => absurd present absent⟩
  refine ⟨remote, body ++ more, rfl, ?_⟩
  intro event member
  rcases List.mem_append.mp member with member | member
  · exact talk event member
  · exact diagnostic event member

theorem leave {outside : Prop} (tenures : Tenures pid tracked events) (present : tracked)
    (gone : ¬outside) (last : more = [] ∨ ∃ status, more = [.exited pid status]) :
    Tenures pid outside (events ++ more) := by
  obtain ⟨past, latest, rfl, closed, ongoing, _⟩ := tenures
  refine ⟨past ++ [latest ++ more], [], by simp, ?_, fun inside => absurd inside gone,
    fun _ => rfl⟩
  intro tenure member
  rcases List.mem_append.mp member with member | member
  · exact closed tenure member
  · obtain rfl := List.mem_singleton.mp member
    rcases last with rfl | ⟨status, rfl⟩
    · rw [List.append_nil]
      exact Or.inl (ongoing present)
    · exact Or.inr ⟨latest, status, ongoing present, rfl⟩

theorem enter {inside : Prop} (tenures : Tenures pid tracked events) (absent : ¬tracked)
    (present : inside) (remote : String) :
    Tenures pid inside (events ++ [.created pid remote]) := by
  obtain ⟨past, latest, rfl, closed, _, ended⟩ := tenures
  obtain rfl := ended absent
  exact ⟨past, [.created pid remote], by simp, closed, fun _ => ⟨remote, [], rfl, by simp⟩,
    fun outside => absurd present outside⟩

theorem congr {same : Prop} (tenures : Tenures pid tracked events) (iff : tracked ↔ same) :
    Tenures pid same events := by
  rwa [propext iff] at tenures

end Tenures

section

variable {pid : Pid} {tracked : Prop} {past : List (List Event)} {present before rest : List Event}
  {status : Int}

theorem exited_not_mem_of_ongoing (ongoing : Ongoing pid present) :
    .exited pid status ∉ present := by
  obtain ⟨remote, body, rfl, talk⟩ := ongoing
  intro member
  rcases List.mem_cons.mp member with same | member
  · cases same
  · cases talk _ member

theorem nil_or_created (closed : ∀ tenure ∈ past, Over pid tenure)
    (latest : present = [] ∨ Ongoing pid present) :
    past.flatten ++ present = [] ∨
      ∃ remote others, past.flatten ++ present = .created pid remote :: others := by
  cases past with
  | nil =>
      rcases latest with rfl | ⟨remote, body, rfl, _⟩
      · exact Or.inl rfl
      · exact Or.inr ⟨remote, body, rfl⟩
  | cons tenure past =>
      rcases closed tenure (by simp) with
        ⟨remote, body, rfl, _⟩ | ⟨_, _, ⟨remote, body, rfl, _⟩, rfl⟩
      · exact Or.inr ⟨remote, _, rfl⟩
      · exact Or.inr ⟨remote, _, rfl⟩

theorem created_after_exited (closed : ∀ tenure ∈ past, Over pid tenure)
    (latest : present = [] ∨ Ongoing pid present)
    (exit : past.flatten ++ present = before ++ .exited pid status :: rest) :
    rest = [] ∨ ∃ remote others, rest = .created pid remote :: others := by
  induction past generalizing before with
  | nil =>
      have heard : .exited pid status ∈ present := by
        rw [List.flatten_nil, List.nil_append] at exit
        simp [exit]
      rcases latest with rfl | ongoing
      · cases heard
      · exact absurd heard (exited_not_mem_of_ongoing ongoing)
  | cons tenure past ih =>
      have others : ∀ tenure ∈ past, Over pid tenure :=
        fun tenure member => closed tenure (List.mem_cons_of_mem _ member)
      rw [List.flatten_cons, List.append_assoc] at exit
      rcases split_of_append exit with ⟨lately, _, late⟩ | ⟨left, early⟩
      · exact ih others late
      · rcases closed tenure (by simp) with ongoing | ⟨earlier, last, ongoing, rfl⟩
        · have heard : .exited pid status ∈ tenure := by simp [early]
          exact absurd heard (exited_not_mem_of_ongoing ongoing)
        · -- The exit is the last event of the tenure, so what follows it is the next tenure.
          obtain ⟨rfl, same⟩ := eq_of_append_singleton early (exited_not_mem_of_ongoing ongoing)
          rw [same, List.append_assoc, List.append_cancel_left_eq] at exit
          cases exit
          exact nil_or_created others latest

end

/-! ### What a step does to tenures -/

structure Regular (workers : List Worker) (notices : List Notice) : Prop where
  distinct : (workers.map (·.pid)).Nodup
  tenures : ∀ pid, Tenures pid (pid ∈ workers.map (·.pid)) (eventsOf pid notices)

section

variable {σ : Type} {kernel : Kernel σ} {workers last : List Worker} {state after : σ}
  {notices told : List Notice}

theorem pids_swapRemove {index : Nat} {worker : Worker}
    (distinct : (workers.map (·.pid)).Nodup) (found : workers[index]? = some worker) :
    ((swapRemove index workers).map (·.pid)).Nodup ∧
      ∀ pid, pid ∈ (swapRemove index workers).map (·.pid) ↔
        pid ∈ workers.map (·.pid) ∧ pid ≠ worker.pid := by
  have inside : index < workers.length := (List.getElem?_eq_some_iff.mp found).1
  have same : ((worker :: swapRemove index workers).map (·.pid)).Perm (workers.map (·.pid)) :=
    (((swapRemove_perm inside).cons worker).trans (cons_eraseIdx_perm found)).map _
  have apart := same.nodup_iff.mpr distinct
  rw [List.map_cons, List.nodup_cons] at apart
  refine ⟨apart.2, fun pid => ?_⟩
  rw [← same.mem_iff, List.map_cons, List.mem_cons]
  constructor
  · intro member
    refine ⟨Or.inr member, ?_⟩
    rintro rfl
    exact apart.1 member
  · rintro ⟨rfl | member, different⟩
    · exact absurd rfl different
    · exact member

theorem Regular.leave {index : Nat} {worker : Worker} {reports : List Report} {final : Report}
    (regular : Regular workers notices) (found : workers[index]? = some worker)
    (aboutPipe : ∀ report ∈ reports, report.aboutPipe = true)
    (ending : final.event? worker.pid = none ∨
      ∃ status, final.event? worker.pid = some (.exited worker.pid status)) :
    Regular (swapRemove index workers)
      (notices ++ (reports ++ [final]).map (.worker worker.pid)) := by
  obtain ⟨distinct, left⟩ := pids_swapRemove regular.distinct found
  refine ⟨distinct, fun pid => ?_⟩
  have tenures := regular.tenures pid
  have tracked : worker.pid ∈ workers.map (·.pid) :=
    List.mem_map_of_mem (List.mem_of_getElem? found)
  by_cases same : pid = worker.pid
  · subst same
    rw [List.map_append, eventsOf_append, eventsOf_append, ← List.append_assoc]
    refine (tenures.extend tracked (isDiagnostic_of_reports aboutPipe)).leave tracked
      (by simp [left]) ?_
    rw [List.map_singleton, eventsOf_singleton]
    rcases ending with silent | ⟨status, exit⟩
    · exact Or.inl (by rw [silent]; rfl)
    · exact Or.inr ⟨status, by rw [exit]; rfl⟩
  · rw [eventsOf_append, eventsOf_other same, List.append_nil]
    exact tenures.congr (by simp [left, same])

theorem Regular.step (regular : Regular workers notices)
    (step : Step kernel workers state told last after) : Regular last (notices ++ told) := by
  cases step with
  | quiet quiet => simpa using regular
  | @attended _ index worker flags attended changed found attends change =>
      have alike := worker.alike_attend kernel flags state
      have about := worker.aboutPipe_attend kernel state flags
      rw [attends] at alike about
      have same : changed.pid = worker.pid := by
        rcases change with rfl | rfl
        · exact alike.pid
        · exact alike.pid
      have pids : (workers.set index changed).map (·.pid) = workers.map (·.pid) := by
        obtain ⟨inside, rfl⟩ := List.getElem?_eq_some_iff.mp found
        have bound : index < (workers.map (·.pid)).length := by simpa using inside
        have own : workers[index].pid = (workers.map (·.pid))[index] := by simp
        rw [List.map_set, same, own, List.set_getElem_self]
      constructor
      · rw [pids]
        exact regular.distinct
      · intro pid
        have tenures := regular.tenures pid
        rw [pids, eventsOf_append]
        by_cases own : pid = worker.pid
        · subst own
          exact tenures.extend (List.mem_map_of_mem (List.mem_of_getElem? found))
            (isDiagnostic_of_reports about)
        · rwa [eventsOf_other own, List.append_nil]
  | @exited _ index worker emptied reports status found drains =>
      have about := worker.aboutPipe_drain kernel state Worker.drainReads
      rw [drains] at about
      have exit : (Report.exited status).event? worker.pid = some (.exited worker.pid status) := rfl
      have gone := regular.leave found about (Or.inr ⟨status, exit⟩)
      rwa [List.map_append] at gone
  | @lost index worker error found =>
      have silent : ∀ report ∈ ([] : List Report), report.aboutPipe = true := by simp
      exact regular.leave found silent (Or.inl rfl)

theorem Regular.admission (regular : Regular workers notices)
    (admission : Admission kernel workers state told last after)
    (fresh : ∀ pid remote, .worker pid (.created remote) ∈ told →
      pid ∉ workers.map (·.pid)) : Regular last (notices ++ told) := by
  have unheard : ∀ {asides : List Notice} {pid}, Asides asides → eventsOf pid asides = [] :=
    fun apart => eventsOf_nil_of_apart fun report member => apart _ member _ _ rfl
  cases admission with
  | none asides quiet =>
      refine ⟨regular.distinct, fun pid => ?_⟩
      rw [eventsOf_append, unheard asides, List.append_nil]
      exact regular.tenures pid
  | @one asides before spawned after request pid diagnostics remote apart quiet spawn closed =>
      have absent : pid ∉ workers.map (·.pid) := fresh pid remote (by simp)
      constructor
      · rw [List.map_append]
        exact (List.perm_append_singleton pid _).nodup_iff.mpr
          (List.nodup_cons.mpr ⟨absent, regular.distinct⟩)
      · intro other
        have tenures := regular.tenures other
        rw [eventsOf_append, eventsOf_append, unheard apart, List.nil_append]
        by_cases own : other = pid
        · subst own
          rw [eventsOf_singleton]
          exact tenures.enter absent (by simp) remote
        · have unheardOf : eventsOf other [.worker pid (.created remote)] = [] :=
            eventsOf_other own [.created remote]
          rw [unheardOf, List.append_nil]
          exact tenures.congr (by simp [own])

theorem Regular.steps (regular : Regular workers notices)
    (steps : Steps kernel workers state told last after) : Regular last (notices ++ told) := by
  induction steps with
  | refl => simpa using regular
  | step _ step ih =>
      rw [← List.append_assoc]
      exact ih.step step

end

/-! ### The course of a run -/

/-- One thing that happened to the workers and what was told of it. -/
structure Moment where
  before : List Worker
  told : List Notice
  after : List Worker

namespace Moment

def Named (moment : Moment) : Prop :=
  ∀ event ∈ moment.told.filterMap (·.event?),
    ∃ worker ∈ moment.before ++ moment.after, worker.pid = event.pid

def Fresh (moment : Moment) : Prop :=
  ∀ pid remote, .worker pid (.created remote) ∈ moment.told →
    pid ∉ moment.before.map (·.pid)

def standing (moments : List Moment) : List Worker := moments.getLast?.elim [] (·.after)

end Moment

/-- The moments of a run: each is a step or an admission and begins where the last one ended. -/
inductive Course (kernel : Kernel σ) (workers : List Worker) (state : σ) :
    List Moment → List Worker → σ → Prop where
  | start : Course kernel workers state [] workers state
  | next {moments : List Moment} {middle last : List Worker} {between after : σ}
      {told : List Notice} :
      Course kernel workers state moments middle between →
        Step kernel middle between told last after ∨
          Admission kernel middle between told last after →
        Course kernel workers state (moments ++ [{ before := middle, told, after := last }]) last
          after

section

variable {σ : Type} {kernel : Kernel σ} {workers middle last : List Worker}
  {state between after : σ} {moments : List Moment} {told : List Notice}

theorem named_of_worker {pid : Pid} {reports : List Report} {worker : Worker}
    (listed : worker ∈ workers) (same : worker.pid = pid) :
    ({ before := workers, told := reports.map (.worker pid), after := last } : Moment).Named := by
  intro event member
  obtain ⟨notice, heard, told⟩ := List.mem_filterMap.mp member
  obtain ⟨report, _, rfl⟩ := List.mem_map.mp heard
  exact ⟨worker, List.mem_append_left _ listed, same.trans (pid_of_event? told).symm⟩

theorem named_of_step (step : Step kernel workers state told last after) :
    ({ before := workers, told, after := last } : Moment).Named := by
  cases step with
  | quiet quiet => simp [Moment.Named]
  | attended found attends change => exact named_of_worker (List.mem_of_getElem? found) rfl
  | @exited _ index worker emptied reports status found drains =>
      rw [← List.map_singleton, ← List.map_append]
      exact named_of_worker (List.mem_of_getElem? found) rfl
  | @lost index worker error found =>
      rw [← List.map_singleton]
      exact named_of_worker (List.mem_of_getElem? found) rfl

theorem named_of_admission (admission : Admission kernel workers state told last after) :
    ({ before := workers, told, after := last } : Moment).Named := by
  intro event member
  obtain ⟨notice, heard, same⟩ := List.mem_filterMap.mp member
  cases notice with
  | worker other report =>
      have same : report.event? other = some event := same
      cases admission with
      | none asides quiet => exact absurd rfl (asides _ heard other report)
      | @one asides _ _ _ _ pid diagnostics _ apart quiet spawn closed =>
          rcases List.mem_append.mp heard with heard | heard
          · exact absurd rfl (apart _ heard other report)
          · cases List.mem_singleton.mp heard
            exact ⟨_, List.mem_append_right _ (List.mem_append_right _ (List.mem_singleton_self _)),
              (pid_of_event? same).symm⟩
  | _ => cases same

theorem Course.named (course : Course kernel workers state moments last after) :
    ∀ moment ∈ moments, moment.Named := by
  induction course with
  | start => simp
  | next _ happened ih =>
      intro moment member
      rcases List.mem_append.mp member with member | member
      · exact ih moment member
      · obtain rfl := List.mem_singleton.mp member
        exact happened.elim named_of_step named_of_admission

theorem Course.standing (course : Course kernel [] state moments last after) :
    Moment.standing moments = last := by
  cases course with
  | start => rfl
  | next _ happened => simp [Moment.standing]

/-- What is so at the beginning and after each moment is so all along. -/
theorem Course.regular (course : Course kernel [] state moments last after)
    (fresh : ∀ moment ∈ moments, moment.Fresh) :
    ∀ earlier, earlier <+: moments →
      Regular (Moment.standing earlier) (earlier.flatMap (·.told)) := by
  induction course with
  | start =>
      intro earlier early
      obtain rfl := List.prefix_nil.mp early
      refine ⟨List.nodup_nil, fun pid => ⟨[], [], rfl, by simp, ?_, fun _ => rfl⟩⟩
      intro tracked
      cases tracked
  | @next moments middle last between after told course happened ih =>
      intro earlier early
      have past := ih fun moment member => fresh moment (List.mem_append_left _ member)
      rcases List.prefix_concat_iff.mp early with rfl | early
      · have before := past moments (List.prefix_refl _)
        rw [course.standing] at before
        rw [(course.next happened).standing, List.flatMap_append, List.flatMap_singleton]
        rcases happened with step | admission
        · exact before.step step
        · exact before.admission admission
            (fresh { before := middle, told, after := last } (by simp))
      · exact past earlier early

theorem Course.steps (course : Course kernel workers state moments middle between)
    (steps : Steps kernel middle between told last after) :
    ∃ more, Course kernel workers state (moments ++ more) last after ∧
      told = more.flatMap (·.told) ∧ ∀ moment ∈ more, moment.Fresh := by
  induction steps with
  | refl => exact ⟨[], by simpa using course, rfl, by simp⟩
  | step _ step ih =>
      obtain ⟨more, course, same, fresh⟩ := ih
      refine ⟨_, (List.append_assoc _ _ _) ▸ course.next (Or.inl step), ?_, ?_⟩
      · rw [List.flatMap_append, List.flatMap_singleton, ← same]
      · intro moment member
        rcases List.mem_append.mp member with member | member
        · exact fresh moment member
        · obtain rfl := List.mem_singleton.mp member
          exact fun pid remote told => absurd told (created_not_mem_of_step step pid remote)

end

/-! ### Whole runs -/

section

variable {σ : Type} (kernel : Kernel σ)

theorem tick_course {listener : Int} {supervisor : Supervisor} {state : σ}
    (sound : Lockstep listener supervisor.table) {workers : List Worker} {initial : σ}
    {moments : List Moment}
    (course : Course kernel workers initial moments supervisor.table.workers state)
    (fresh : ∀ pid remote,
      .worker pid (.created remote) ∈ (supervisor.tick kernel state).notices →
        pid ∉ (supervisor.look kernel state).reaped.table.workers.map (·.pid)) :
    ∃ more,
      Course kernel workers initial (moments ++ more)
        (supervisor.tick kernel state).supervisor.table.workers
        (supervisor.tick kernel state).state ∧
      (supervisor.tick kernel state).notices = more.flatMap (·.told) ∧
      ∀ moment ∈ more, moment.Fresh := by
  have gone : Steps kernel supervisor.table.workers state _ _ _ :=
    reapFrom_steps kernel supervisor.table.length 0 supervisor.table state
  obtain ⟨sent, middle, between, later, steps, pids, _, admission, notices, _⟩ :=
    tick_stages kernel sound state
  obtain ⟨more, course, told, apart⟩ := course.steps (gone.trans steps)
  let last := (supervisor.tick kernel state).supervisor.table.workers
  refine ⟨more ++ [{ before := middle, told := later, after := last }], ?_, ?_, ?_⟩
  · rw [← List.append_assoc]
    exact course.next (Or.inr admission)
  · rw [notices, List.flatMap_append, List.flatMap_singleton, ← told, List.append_assoc]
    rfl
  · intro moment member
    rcases List.mem_append.mp member with member | member
    · exact apart moment member
    · obtain rfl := List.mem_singleton.mp member
      intro pid remote created
      rw [pids]
      refine fresh pid remote ?_
      rw [notices]
      exact List.mem_append_right _ (List.mem_append_right _ created)

/-- In none of a number of passes a process is started under the number of a worker that is still
in the table. -/
def NumbersFresh (supervisor : Supervisor) (state : σ) (count : Nat) : Prop :=
  ∀ passed < count,
    let ran := passes kernel supervisor state passed
    ∀ pid remote, .worker pid (.created remote) ∈ (ran.supervisor.tick kernel ran.state).notices →
      pid ∉ (ran.supervisor.look kernel ran.state).reaped.table.workers.map (·.pid)

theorem passes_course (listener : Listener) (command : ShellCommand) (limit : AdmissionLimit)
    (state : σ) (count : Nat)
    (fresh : NumbersFresh kernel (.new listener command limit) state count) :
    let ran := passes kernel (.new listener command limit) state count
    ∃ moments, Course kernel [] state moments ran.supervisor.table.workers ran.state ∧
      ran.notices = moments.flatMap (·.told) ∧ ∀ moment ∈ moments, moment.Fresh := by
  induction count with
  | zero => exact ⟨[], .start, rfl, by simp⟩
  | succ count ih =>
      obtain ⟨moments, course, told, apart⟩ := ih fun passed early => fresh passed (by omega)
      have sound := lockstep_passes kernel listener command limit state count
      obtain ⟨more, course, toldNext, apartNext⟩ :=
        tick_course kernel sound course (fresh count (Nat.lt_add_one count))
      refine ⟨moments ++ more, course, ?_, ?_⟩
      · rw [List.flatMap_append, ← told, ← toldNext]
        rfl
      · intro moment member
        exact (List.mem_append.mp member).elim (apart moment) (apartNext moment)

theorem regular_passes (listener : Listener) (command : ShellCommand) (limit : AdmissionLimit)
    (state : σ) (count : Nat)
    (fresh : NumbersFresh kernel (.new listener command limit) state count) :
    let ran := passes kernel (.new listener command limit) state count
    Regular ran.supervisor.table.workers ran.notices := by
  intro ran
  obtain ⟨moments, course, told, apart⟩ :=
    passes_course kernel listener command limit state count fresh
  have regular := course.regular apart moments (List.prefix_refl _)
  rwa [course.standing, ← told] at regular

/-- A run is a course of moments, each of which tells of nobody but workers that are in the table
before or after it. At every point of it, the events of each process are those of its tenures so
far: a creation, what came through the pipe, and at most one exit at the end. -/
theorem events_follow_tenures (listener : Listener) (command : ShellCommand)
    (limit : AdmissionLimit) (state : σ) (count : Nat)
    (fresh : NumbersFresh kernel (.new listener command limit) state count) :
    let ran := passes kernel (.new listener command limit) state count
    (∃ moments, Course kernel [] state moments ran.supervisor.table.workers ran.state ∧
      ran.notices = moments.flatMap (·.told) ∧
      (∀ moment ∈ moments, moment.Named) ∧
      ∀ earlier, earlier <+: moments → ∀ pid,
        Tenures pid (pid ∈ (Moment.standing earlier).map (·.pid))
          (eventsOf pid (earlier.flatMap (·.told)))) ∧
    (∀ pid, Tenures pid (pid ∈ ran.supervisor.table.workers.map (·.pid))
      (eventsOf pid ran.notices)) ∧
    ∀ pid before status rest,
      eventsOf pid ran.notices = before ++ .exited pid status :: rest →
        rest = [] ∨ ∃ remote others, rest = .created pid remote :: others := by
  intro ran
  obtain ⟨moments, course, told, apart⟩ :=
    passes_course kernel listener command limit state count fresh
  have regular : Regular ran.supervisor.table.workers ran.notices :=
    regular_passes kernel listener command limit state count fresh
  refine ⟨⟨moments, course, told, course.named, ?_⟩, regular.tenures, ?_⟩
  · exact fun earlier early => (course.regular apart earlier early).tenures
  · intro pid before status rest exit
    obtain ⟨past, present, parts, closed, ongoing, ended⟩ := regular.tenures pid
    refine created_after_exited closed ?_ (parts.symm.trans exit)
    by_cases tracked : pid ∈ ran.supervisor.table.workers.map (·.pid)
    · exact Or.inr (ongoing tracked)
    · exact Or.inl (ended tracked)

end

def samePid : Kernel (Stage ReadScript) :=
  { Kernel.ofReader ReadScript.read with
    spawn := fun _ stage => (.ok 70, { stage with started := stage.started + 1 }) }

def twoInTurn : Stage ReadScript where
  source := { queue := [.ok [104, 105]] }
  clients := 2

theorem used_number_begins_new_tenure :
    NumbersFresh samePid (.new smallListener { text := "printf" } { workers := 4 }) twoInTurn 2 ∧
      eventsOf 70 (passes samePid (.new smallListener { text := "printf" } { workers := 4 })
        twoInTurn 2).notices =
          [.created 70 "", .line 70 "hi", .exited 70 0, .created 70 ""] ∧
      Tenures 70
        (70 ∈ (passes samePid (.new smallListener { text := "printf" } { workers := 4 })
          twoInTurn 2).supervisor.table.workers.map (·.pid))
        (eventsOf 70 (passes samePid (.new smallListener { text := "printf" } { workers := 4 })
          twoInTurn 2).notices) := by
  have fresh : NumbersFresh samePid (.new smallListener { text := "printf" } { workers := 4 })
      twoInTurn 2 := by
    intro passed early ran pid remote created tracked
    have empty : (ran.supervisor.look samePid ran.state).reaped.table.workers = [] := by
      obtain rfl | rfl : passed = 0 ∨ passed = 1 := by omega
      · rfl
      · decide +kernel
    rw [empty] at tracked
    cases tracked
  obtain ⟨_, tenures, _⟩ := events_follow_tenures samePid smallListener { text := "printf" }
    { workers := 4 } twoInTurn 2 fresh
  exact ⟨fresh, by decide +kernel, tenures 70⟩

end Supervisor

end Superserver
