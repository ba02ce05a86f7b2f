import Superserver.Proofs.Supervisor.Lives

/-!
Workers do not disturb one another. Main statement: in every run the events of a process are those
that the machine of one worker gives for what the system says about that process, whatever else goes
on; so they are the same in two runs in which the system says the same about it.
-/

namespace Superserver

def Call.isBackdrop (pid : Pid) : Call → Bool
  | .wait .. | .read .. | .poll .. => false
  | .spawn _ (.ok other) => decide (other ≠ pid)
  | _ => true

open Solo (ofWorker run)

namespace Supervisor

open Kernel ProcessTable

/-- No process and no pipe is tracked twice, and no pipe has the number of the listener. -/
structure Apart (listener : Descriptor) (workers : List Worker) : Prop where
  distinct : Distinct workers
  unlistened : listener ∉ workers.map (·.diagnostics)

/-! ### Admission -/

section

variable {pid : Pid} {sight : Sight} {workers : List Worker} {events : List Event}
  {calls : List Call}

theorem Standing.calm {now : Option Presence} (standing : Standing pid workers now)
    (presence : Presence) (present : now = some presence) : presence.leaving = false := by
  cases standing with
  | absent => cases present
  | present =>
      cases present
      rfl

theorem after_of_backdrop {call : Call}
    (calm : ∀ presence, sight.now = some presence → presence.leaving = false)
    (backdrop : call.isBackdrop pid = true) :
    ∃ made, sight.after pid call = { sight with made } := by
  obtain ⟨made, past, now⟩ := sight
  cases call with
  | wait | read | poll => cases backdrop
  | accept | nonblocking | changeNonblocking | duplicate | allocate =>
      refine ⟨made, ?_⟩
      cases now <;> rfl
  | pipe answer =>
      cases answer with
      | error error =>
          refine ⟨made, ?_⟩
          cases now <;> rfl
      | ok ends => exact ⟨ends.1, rfl⟩
  | spawn request answer =>
      refine ⟨made, ?_⟩
      cases answer with
      | error error => cases now <;> rfl
      | ok other => exact if_neg (of_decide_eq_true backdrop)
  | close descriptor =>
      refine ⟨made, if_neg ?_⟩
      cases now with
      | none => simp
      | some presence => simp [calm presence rfl]

theorem afterAll_of_backdrop
    (calm : ∀ presence, sight.now = some presence → presence.leaving = false)
    (backdrop : calls.all (Call.isBackdrop pid) = true) :
    ∃ made, sight.afterAll pid calls = { sight with made } := by
  induction calls generalizing sight with
  | nil => exact ⟨sight.made, rfl⟩
  | cons call calls ih =>
      rw [List.all_cons, Bool.and_eq_true] at backdrop
      obtain ⟨made, first⟩ := after_of_backdrop calm backdrop.1
      have quiet : ∀ presence, ({ sight with made } : Sight).now = some presence →
          presence.leaving = false := calm
      obtain ⟨last, rest⟩ := ih quiet backdrop.2
      exact ⟨last, by rw [Sight.afterAll_cons, first, rest]⟩

theorem backdrop_of_setup (pid : Pid) {calls : List Call}
    (setup : calls.all Call.isSetup = true) :
    calls.all (Call.isBackdrop pid) = true := by
  apply List.all_eq_true.mpr
  intro call member
  have setup := List.all_eq_true.mp setup call member
  cases call <;> first | rfl | cases setup

/-- Starting a worker says nothing about any process but the one that is started. -/
theorem backdrop_of_beginning (pid : Pid) {connection : Descriptor} {remote : String}
    {table grown : ProcessTable} {notices : List Notice}
    {outcome : Except AdmissionError Worker}
    (beginning : Beginning connection remote table calls notices outcome grown)
    (other : ∀ worker, outcome = .ok worker → worker.pid ≠ pid) :
    calls.all (Call.isBackdrop pid) = true ∧ Asides notices ∧
      grown.workers = table.workers := by
  cases beginning with
  | pipeless piping | roomless piping =>
      have quiet := backdrop_of_setup pid piping.setup
      exact ⟨by simp [Call.isBackdrop, quiet], by simp [Asides], rfl⟩
  | uncopied piping made | unstarted piping made =>
      have quiet := backdrop_of_setup pid piping.setup
      exact ⟨by simp [Call.isBackdrop, quiet], asides_of_reserveOne made⟩
  | started piping made =>
      have quiet := backdrop_of_setup pid piping.setup
      have different := other _ rfl
      exact ⟨by simp [Call.isBackdrop, quiet, different], asides_of_reserveOne made⟩

/-- The process that is started begins a life, and has the read end of its pipe. -/
theorem afterAll_of_started {connection : Descriptor} {remote : String}
    {table grown : ProcessTable} {notices : List Notice} {worker : Worker}
    (beginning : Beginning connection remote table calls notices (.ok worker) grown)
    (nobody : sight.now = none) :
    ∃ made, sight.afterAll worker.pid calls =
        { made, past := sight.past
          now := some { pipe := worker.diagnostics, life := { remote } } } ∧
      worker = { pid := worker.pid, diagnostics := worker.diagnostics } ∧
      Asides notices ∧ grown.workers = table.workers := by
  obtain ⟨made, past, now⟩ := sight
  cases beginning with
  | @started _ ends _ _ input request pid piping reserved named =>
      refine ⟨ends.1, ?_, rfl, asides_of_reserveOne reserved⟩
      cases piping with
      | opened modes =>
          have still : ∀ sight : Sight, sight.afterAll pid _ = sight := fun sight =>
            Sight.afterAll_of_still fun call member =>
              Sight.after_of_inert (modes call member) pid sight
          obtain rfl : now = none := nobody
          simp [Sight.after, still, Sight.lives, named]

theorem Followed.backdrop {later : List Notice}
    (followed : Followed pid workers sight events)
    (backdrop : calls.all (Call.isBackdrop pid) = true)
    (untold : eventsOf pid later = []) :
    Followed pid workers (sight.afterAll pid calls) (events ++ eventsOf pid later) := by
  obtain ⟨made, same⟩ := afterAll_of_backdrop followed.standing.calm backdrop
  rw [same, untold, List.append_nil]
  exact ⟨followed.standing, followed.told⟩

theorem eventsOf_asides {notices : List Notice} (asides : Asides notices) :
    eventsOf pid notices = [] :=
  eventsOf_nil_of_apart fun report member => asides _ member pid report rfl

theorem Followed.beside {worker : Worker} (followed : Followed pid workers sight events)
    (other : worker.pid ≠ pid) : Followed pid (workers ++ [worker]) sight events := by
  obtain ⟨standing, told⟩ := followed
  obtain ⟨made, past, now⟩ := sight
  cases standing with
  | absent outside =>
      refine ⟨.absent ?_, told⟩
      simp [outside, Ne.symm other]
  | present tracked own settled stands =>
      exact ⟨.present (List.mem_append_left _ tracked) own settled stands, told⟩

theorem Followed.nobody (followed : Followed pid workers sight events)
    (outside : pid ∉ workers.map (·.pid)) : sight.now = none := by
  obtain ⟨standing, told⟩ := followed
  obtain ⟨made, past, now⟩ := sight
  cases standing with
  | absent => rfl
  | present tracked own =>
      rw [← own] at outside
      exact absurd (List.mem_map_of_mem tracked) outside

theorem Followed.entered {connection : Descriptor} {remote : String}
    {table grown : ProcessTable} {notices : List Notice} {worker : Worker}
    (beginning : Beginning connection remote table calls notices (.ok worker) grown)
    (distinct : Distinct (grown.workers ++ [worker]))
    (followed : Followed worker.pid table.workers sight events) :
    Followed worker.pid (grown.workers ++ [worker]) (sight.afterAll worker.pid calls)
      (events ++ eventsOf worker.pid (notices ++ [.worker worker.pid (.created remote)])) := by
  have outside : worker.pid ∉ grown.workers.map (·.pid) := by
    have pids := distinct.pids
    rw [List.map_append, List.map_singleton, List.nodup_append] at pids
    intro inside
    exact pids.2.2 _ inside worker.pid (List.mem_singleton_self _) rfl
  have same : grown.workers = table.workers := by
    cases beginning with
    | started _ reserved => exact (asides_of_reserveOne reserved).2
  have nobody := followed.nobody (same ▸ outside)
  obtain ⟨made, after, plain, asides, _⟩ := afterAll_of_started beginning nobody
  rw [after, followed.told, eventsOf_append, eventsOf_asides asides, eventsOf_singleton]
  constructor
  · refine .present (List.mem_append_right _ (List.mem_singleton_self worker)) rfl ?_ ?_
    · rw [plain]
      exact LineBuffer.settled_empty
    · rw [plain]
      rfl
  · simp [Sight.lives, nobody, Life.events, run, Solo.resume, Report.event?]

/-- An admission begins the life of the process that it starts and does nothing to another. -/
theorem Followed.admitted {listener : Descriptor} {table after : ProcessTable}
    {later : List Notice} {outcome : Except TickError Bool}
    (admitting : Admitting listener table calls later outcome after)
    (distinct : Distinct after.workers) (followed : Followed pid table.workers sight events) :
    Followed pid after.workers (sight.afterAll pid calls) (events ++ eventsOf pid later) := by
  cases admitting with
  | ignored accepting =>
      exact followed.backdrop (backdrop_of_setup pid accepting.setup)
        (eventsOf_asides (by simp [Asides]))
  | failed accepting =>
      exact followed.backdrop (backdrop_of_setup pid accepting.setup) rfl
  | refused accepting beginning =>
      obtain ⟨quiet, asides, workers⟩ := backdrop_of_beginning pid beginning (by simp)
      rw [workers]
      refine followed.backdrop ?_ (eventsOf_asides asides)
      rw [List.all_append, backdrop_of_setup pid accepting.setup, quiet]
      rfl
  | @admitted taken more connection peer notices worker grown accepting beginning =>
      by_cases own : worker.pid = pid
      · subst own
        -- Accepting the connection comes before the process has begun.
        have first := followed.backdrop (backdrop_of_setup worker.pid accepting.setup)
          (eventsOf_asides (List.forall_mem_nil _ : Asides []))
        rw [show eventsOf worker.pid [] = [] from rfl, List.append_nil] at first
        rw [Sight.afterAll_append]
        exact first.entered beginning distinct
      · obtain ⟨quiet, asides, workers⟩ := backdrop_of_beginning pid beginning (by
          intro started same
          cases same
          exact own)
        have untold : eventsOf pid (notices ++ [.worker worker.pid (.created peer.label)]) =
            [] := by
          rw [eventsOf_append, eventsOf_asides asides]
          exact eventsOf_other (Ne.symm own) [.created peer.label]
        rw [ProcessTable.push, workers]
        refine (followed.backdrop ?_ untold).beside own
        rw [List.all_append, backdrop_of_setup pid accepting.setup, quiet]
        rfl

end

/-! ### The poll -/

theorem watched_eq_iff (worker : Worker) (descriptor : Descriptor) :
    worker.watched = (descriptor : Int) ↔
      worker.muted = false ∧ worker.diagnostics = descriptor := by
  have negative := worker.watched_neg_iff
  cases muted : worker.muted with
  | true =>
      have below : worker.watched < 0 := negative.mpr muted
      simp only [Bool.true_eq_false, false_and, iff_false]
      omega
  | false => simp [Worker.watched, muted]

theorem nodup_watched {workers : List Worker}
    (distinct : (workers.map (·.diagnostics)).Nodup) : (workers.map Worker.watched).Nodup := by
  have named : (workers.map Worker.watched).map
      (fun number => (PollSlot.ofDescriptor number).subject) =
      (workers.map (·.diagnostics)).map Int.ofNat := by
    rw [List.map_map, List.map_map]
    exact List.map_congr_left fun worker _ => PollSlot.subject_of_watched rfl
  apply List.Nodup.of_map (fun number => (PollSlot.ofDescriptor number).subject)
  rw [named]
  exact distinct.map fun first second same => Int.ofNat_inj.mp same

/-- What a poll of the offered slots says of a worker's pipe is what its turn goes by; of a muted
worker's pipe it says nothing. -/
theorem foundAt_offered {σ : Type} (kernel : Kernel σ) {listener : Descriptor}
    {supervisor : Supervisor} (sound : Lockstep listener supervisor.table) (state : σ)
    (apart : Apart listener (supervisor.look kernel state).reaped.table.workers)
    (flags : List PollFlags) {index : Nat} {worker : Worker}
    (found : (supervisor.look kernel state).reaped.table.workers[index]? = some worker) :
    foundAt worker.diagnostics (supervisor.look kernel state).offered flags =
      if worker.muted then none
      else some (answered (supervisor.look kernel state).accepting flags index worker) := by
  have shown := descriptors_offered kernel sound state
  have tracked := List.mem_of_getElem? found
  generalize (supervisor.look kernel state).reaped.table.workers = workers
    at shown apart found tracked
  generalize (supervisor.look kernel state).accepting = accepting at shown ⊢
  have ahead : (worker.diagnostics : Int) ∉
      (if accepting then [(listener : Int)] else []) := by
    intro member
    split at member
    · have same := Int.ofNat_inj.mp (List.mem_singleton.mp member)
      exact apart.unlistened (same ▸ List.mem_map_of_mem tracked)
    · cases member
  simp only [foundAt, shown]
  cases muted : worker.muted with
  | true =>
      -- The slot of a muted worker holds a negative number, and no other slot holds its pipe.
      rw [if_pos rfl, if_neg]
      intro member
      rcases List.mem_append.mp member with member | member
      · exact ahead member
      · obtain ⟨other, listed, same⟩ := List.mem_map.mp member
        obtain ⟨unmuted, named⟩ := (watched_eq_iff other worker.diagnostics).mp same
        obtain rfl : other = worker :=
          List.inj_on_of_nodup_map apart.distinct.descriptors listed tracked named
        cases muted.symm.trans unmuted
  | false =>
      have shows : worker.watched = (worker.diagnostics : Int) :=
        (watched_eq_iff worker worker.diagnostics).mpr ⟨muted, rfl⟩
      obtain ⟨inside, same⟩ := List.getElem?_eq_some_iff.mp found
      have place : (workers.map Worker.watched).idxOf (worker.diagnostics : Int) = index := by
        have indexed := (nodup_watched apart.distinct.descriptors).idxOf_getElem index
          (by simpa using inside)
        rwa [List.getElem_map, same, shows] at indexed
      have listed : (worker.diagnostics : Int) ∈ workers.map Worker.watched :=
        shows ▸ List.mem_map_of_mem tracked
      rw [if_neg Bool.false_ne_true, if_pos (List.mem_append_right _ listed),
        List.idxOf_append_of_notMem ahead, place, answered, muted, if_neg Bool.false_ne_true]
      cases accepting with
      | true => rw [Nat.add_comm]; rfl
      | false => rw [Nat.add_comm]; rfl

/-- If no slot shows anything, then nothing was found for a worker. -/
theorem answered_of_nothing {σ : Type} {kernel : Kernel σ} {listener : Int}
    {supervisor : Supervisor} {state : σ} (sound : Lockstep listener supervisor.table)
    {flags : List PollFlags}
    (nothing : (supervisor.look kernel state).foundNothing flags = true) {index : Nat}
    {worker : Worker}
    (found : (supervisor.look kernel state).reaped.table.workers[index]? = some worker) :
    answered (supervisor.look kernel state).accepting flags index worker = PollFlags.none := by
  have cleared := (lockstep_look kernel sound state).cleared
  have shown : ((supervisor.look kernel state).table flags).returned index = _ :=
    returned_polled cleared (supervisor.look kernel state).accepting flags found
  rw [← shown, returned]
  split
  · rfl
  · rename_i slot place
    exact of_decide_eq_true (List.all_eq_true.mp nothing slot (List.mem_of_getElem? place))

/-! ### One pass -/

theorem Apart.of_sublist {listener : Descriptor} {workers others : List Worker}
    (apart : Apart listener workers) (part : others.Sublist workers) : Apart listener others where
  distinct := ⟨apart.distinct.pids.sublist (part.map _),
    apart.distinct.descriptors.sublist (part.map _)⟩
  unlistened := fun member => apart.unlistened ((part.map _).subset member)

theorem Apart.perm {listener : Descriptor} {workers others : List Worker}
    (apart : Apart listener workers) (same : workers.Perm others) : Apart listener others where
  distinct := apart.distinct.perm same
  unlistened := fun member => apart.unlistened ((same.map _).mem_iff.mpr member)

theorem Followed.perm {pid : Pid} {workers others : List Worker} {sight : Sight}
    {events : List Event} (followed : Followed pid workers sight events)
    (same : workers.Perm others) : Followed pid others sight events := by
  obtain ⟨standing, told⟩ := followed
  obtain ⟨made, past, now⟩ := sight
  cases standing with
  | absent outside =>
      refine ⟨.absent ?_, told⟩
      rwa [← (same.map _).mem_iff]
  | present tracked own settled stands =>
      exact ⟨.present (same.mem_iff.mp tracked) own settled stands, told⟩

section

variable {σ : Type} (kernel : Kernel σ) {listener : Descriptor} {supervisor : Supervisor}
  {before : σ × List Call} {pid : Pid} {sight : Sight} {events : List Event}

theorem Followed.polled (sound : Lockstep listener supervisor.table)
    (apart : Apart listener supervisor.table.workers)
    (followed : Followed pid supervisor.table.workers sight events) :
    let look := supervisor.look kernel.transcribing before
    Apart listener look.reaped.table.workers ∧
      Followed pid (look.attended kernel.transcribing).table.workers
        (sight.afterAll pid (look.calls kernel supervisor before ++
          (look.turns kernel.transcribing).flatMap Turn.calls))
        (events ++ eventsOf pid
          (look.reaped.notices ++ (look.attended kernel.transcribing).notices)) := by
  intro look
  obtain ⟨everyone, kept, told, asked⟩ := askingsFrom_spec kernel.transcribing
    supervisor.table.length 0 supervisor.table before (by simp [ProcessTable.length])
  have looked : look.calls kernel supervisor before =
      (askingsFrom kernel.transcribing supervisor.table.length 0 supervisor.table
        before).flatMap Asking.calls ++ [.poll look.offered look.timeout look.answer.1] := rfl
  generalize askingsFrom kernel.transcribing supervisor.table.length 0 supervisor.table before =
    askings at everyone kept told asked looked
  have kept : look.reaped.table.workers = (askings.filter (·.stays)).map (·.worker) := kept
  have told : look.reaped.notices = askings.flatMap (·.notices) := told
  have asking := apart.perm everyone.symm
  have reaped := (followed.perm everyone.symm).reaped kernel asking.distinct asked
  rw [← kept, ← told] at reaped
  have left : Apart listener look.reaped.table.workers := by
    rw [kept]
    exact asking.of_sublist (List.filter_sublist.map _)
  refine ⟨left, ?_⟩
  rw [looked, List.append_assoc, Sight.afterAll_append, List.singleton_append,
    Sight.afterAll_cons, eventsOf_append, ← List.append_assoc]
  rcases attended_cases kernel.transcribing supervisor before sound with
    ⟨nobody, same, silent, _, nothing⟩ | ⟨flags, answer, _, turns, _, made⟩
  · -- A poll without a finding is still told to the process, with empty flags.
    have nobody : look.turns kernel.transcribing = [] := nobody
    have same : (look.attended kernel.transcribing).table.workers = _ := same
    have silent : (look.attended kernel.transcribing).notices = [] := silent
    have nothingFound : ∀ flags, look.answer.1 = .ok flags →
        ∀ worker ∈ look.reaped.table.workers, ∀ found,
          foundAt worker.diagnostics look.offered flags = some found →
            found = PollFlags.none := by
      intro flags answer worker tracked found heard
      obtain ⟨index, place⟩ := List.mem_iff_getElem?.mp tracked
      have offered := foundAt_offered kernel.transcribing sound before left flags place
      rw [answered_of_nothing sound (nothing flags answer) place] at offered
      cases muted : worker.muted <;> rw [muted, heard] at offered <;> cases offered
      rfl
    rw [nobody, same, silent]
    exact (List.append_nil _).symm ▸ reaped.unheeded nothingFound
  · have cleared : Lockstep listener look.reaped.table.cleared :=
      (lockstep_look kernel.transcribing sound before).cleared
    have answer : look.answer.1 = .ok flags := answer
    obtain ⟨workers, placed, apt⟩ := turnsFrom_spec kernel.transcribing (look.table flags) 0
      look.reaped.table.workers look.answer.2
    have turns : look.turns kernel.transcribing = _ := turns
    rw [← turns] at workers placed apt
    have sent : (look.attended kernel.transcribing).table.workers =
        (look.turns kernel.transcribing).map Turn.left := made.workers
    have told : (look.attended kernel.transcribing).notices =
        (look.turns kernel.transcribing).flatMap Turn.notices := made.notices
    have shown : ∀ turn ∈ look.turns kernel.transcribing,
        ∃ index, look.reaped.table.workers[index]? = some turn.worker ∧
          turn.flags = answered look.accepting flags index turn.worker := by
      intro turn member
      obtain ⟨index, place⟩ := List.mem_iff_getElem?.mp member
      have found : look.reaped.table.workers[index]? = some turn.worker := by
        rw [← workers, List.getElem?_map, place]
        rfl
      refine ⟨index, found, ?_⟩
      rw [placed index turn place, Nat.zero_add]
      exact returned_polled cleared look.accepting flags found
    have heard : ∀ turn ∈ look.turns kernel.transcribing,
        foundAt turn.worker.diagnostics look.offered flags =
          if turn.worker.muted then none else some turn.flags := by
      intro turn member
      obtain ⟨index, found, same⟩ := shown turn member
      rw [same]
      exact foundAt_offered kernel.transcribing sound before left flags found
    have passed : ∀ turn ∈ look.turns kernel.transcribing,
        turn.worker.muted = true → turn.flags = PollFlags.none := by
      intro turn member muted
      obtain ⟨index, _, same⟩ := shown turn member
      rw [same, answered, if_pos muted]
    rw [answer, sent, told]
    rw [← workers] at reaped left
    exact reaped.heeded kernel left.distinct apt heard passed

/-- A pass does to a process what the calls about it do. -/
theorem Followed.tick (sound : Lockstep listener supervisor.table)
    (apart : Apart listener supervisor.table.workers)
    (distinct : Distinct (supervisor.tick kernel.transcribing before).supervisor.table.workers)
    (followed : Followed pid supervisor.table.workers sight events) :
    ∃ calls, (supervisor.tick kernel.transcribing before).state.2 = before.2 ++ calls ∧
      Followed pid (supervisor.tick kernel.transcribing before).supervisor.table.workers
        (sight.afterAll pid calls)
        (events ++ eventsOf pid (supervisor.tick kernel.transcribing before).notices) := by
  obtain ⟨last, ending, wrote⟩ := tick_writes kernel sound before
  obtain ⟨_, polled⟩ := followed.polled kernel sound apart
  refine ⟨_, wrote, ?_⟩
  rw [← List.append_assoc, Sight.afterAll_append]
  cases ending with
  | shut table notices =>
      rw [table, notices]
      exact polled
  | tried admitting notices =>
      rw [notices, ← List.append_assoc, eventsOf_append, ← List.append_assoc]
      exact polled.admitted admitting distinct

/-! ### Whole runs -/

theorem Followed.stands {workers : List Worker} {worker : Worker} (distinct : Distinct workers)
    (followed : Followed pid workers sight events) (tracked : worker ∈ workers)
    (own : worker.pid = pid) :
    ∃ life, sight.lives.getLast? = some life ∧ (run life.impulses).2 = ofWorker worker := by
  obtain ⟨standing, told⟩ := followed
  obtain ⟨made, past, now⟩ := sight
  cases standing with
  | absent outside => exact absurd (own ▸ List.mem_map_of_mem tracked) outside
  | @present other life member same settled stands =>
      obtain rfl : other = worker :=
        List.inj_on_of_nodup_map distinct.pids member tracked (same.trans own.symm)
      exact ⟨life, by simp [Sight.lives], stands⟩

theorem followed_passes (listener : Listener) (command : ShellCommand) (limit : AdmissionLimit)
    (state : σ) (count : Nat)
    (apart : ∀ passed ≤ count, Apart listener.descriptor
      (passes kernel (.new listener command limit) state passed).supervisor.table.workers)
    (pid : Pid) :
    let ran := passes kernel.transcribing (.new listener command limit) (state, []) count
    Followed pid ran.supervisor.table.workers (Sight.afterAll pid {} ran.state.2)
      (eventsOf pid ran.notices) := by
  have shows : ∀ passed, passes kernel (.new listener command limit) state passed =
      (passes kernel.transcribing (.new listener command limit) (state, []) passed).seen
        Prod.fst :=
    fun passed => (passes_shows kernel.transcribing_shows _ (state, []) passed).symm
  simp only [shows] at apart
  induction count with
  | zero => exact ⟨.absent List.not_mem_nil, rfl⟩
  | succ count ih =>
      intro ran
      have sound : Lockstep listener.descriptor _ :=
        lockstep_passes kernel.transcribing listener command limit (state, []) count
      have followed := ih fun passed early => apart passed (by omega)
      obtain ⟨calls, wrote, after⟩ := followed.tick kernel sound
        (apart count (Nat.le_succ count)) (apart (count + 1) (Nat.le_refl _)).distinct
      have last : ran.state.2 = _ := wrote
      have told : ran.notices = _ ++ _ := rfl
      rw [last, Sight.afterAll_append, told, eventsOf_append]
      exact after

end

/-- The event without the client's label. -/
def unlabelled : Event → Event
  | .created pid _ => .created pid ""
  | event => event

theorem unlabelled_events (pid : Pid) {lives others : List Life}
    (same : lives.map (·.impulses) = others.map (·.impulses)) :
    (lives.flatMap (Life.events pid)).map unlabelled =
      (others.flatMap (Life.events pid)).map unlabelled := by
  have alone : ∀ lives : List Life, (lives.flatMap (Life.events pid)).map unlabelled =
      (lives.map (·.impulses)).flatMap fun impulses =>
        .created pid "" ::
          ((run impulses).1.filterMap (·.event? pid)).map unlabelled := by
    intro lives
    rw [List.map_flatMap, List.flatMap_map]
    rfl
  rw [alone, alone, same]

/-- In every run the events of a process are those that the machine of one worker gives, life by
life, for what the calls about that process came to; a tracked worker is as the machine is left. So
in any two runs in which these came to the same, whatever else happened in them, the events of the
process are the same. Every chunk that is read gets the memory it takes. -/
theorem workers_isolated {σ : Type} (kernel : Kernel σ) (listener : Listener)
    (command : ShellCommand) (limit : AdmissionLimit) (state : σ) (count : Nat)
    (apart : ∀ passed ≤ count, Apart listener.descriptor
      (passes kernel (.new listener command limit) state passed).supervisor.table.workers)
    (pid : Pid) :
    let ran := passes kernel (.new listener command limit) state count
    let written := passes kernel.transcribing (.new listener command limit) (state, []) count
    let lives := livesOf pid written.state.2
    written.seen Prod.fst = ran ∧
    eventsOf pid ran.notices = lives.flatMap (Life.events pid) ∧
    (∀ worker ∈ ran.supervisor.table.workers, worker.pid = pid →
      ∃ life, lives.getLast? = some life ∧ (run life.impulses).2 = ofWorker worker) ∧
    ∀ (τ : Type) (kernel : Kernel τ) (listener : Listener) (command : ShellCommand)
      (limit : AdmissionLimit) (state : τ) (count : Nat),
      (∀ passed ≤ count, Apart listener.descriptor
        (passes kernel (.new listener command limit) state passed).supervisor.table.workers) →
      let other := passes kernel (.new listener command limit) state count
      let others := livesOf pid
        (passes kernel.transcribing (.new listener command limit) (state, []) count).state.2
      (lives.map (·.impulses) = others.map (·.impulses) →
        (eventsOf pid ran.notices).map unlabelled =
          (eventsOf pid other.notices).map unlabelled) ∧
      (lives = others → eventsOf pid ran.notices = eventsOf pid other.notices) := by
  intro ran written lives
  have alone : ∀ {τ : Type} (kernel : Kernel τ) (listener : Listener) (command : ShellCommand)
      (limit : AdmissionLimit) (state : τ) (count : Nat),
      (∀ passed ≤ count, Apart listener.descriptor
        (passes kernel (.new listener command limit) state passed).supervisor.table.workers) →
      eventsOf pid (passes kernel (.new listener command limit) state count).notices =
        (livesOf pid (passes kernel.transcribing (.new listener command limit) (state, [])
          count).state.2).flatMap (Life.events pid) := by
    intro τ kernel listener command limit state count apart
    rw [← passes_shows kernel.transcribing_shows (.new listener command limit) (state, []) count]
    exact (followed_passes kernel listener command limit state count apart pid).told
  have same : written.seen Prod.fst = ran :=
    passes_shows kernel.transcribing_shows (.new listener command limit) (state, []) count
  have told : eventsOf pid ran.notices = lives.flatMap (Life.events pid) :=
    alone kernel listener command limit state count apart
  refine ⟨same, told, ?_, ?_⟩
  · intro worker tracked own
    have distinct := (apart count (Nat.le_refl count)).distinct
    have ran_eq : passes kernel (.new listener command limit) state count = _ := same.symm
    rw [ran_eq] at distinct
    rw [← same] at tracked
    exact (followed_passes kernel listener command limit state count apart pid).stands distinct
      tracked own
  · intro τ kernel listener command limit state count apart other others
    have toldOther : eventsOf pid other.notices = others.flatMap (Life.events pid) :=
      alone kernel listener command limit state count apart
    rw [told, toldOther]
    refine ⟨unlabelled_events pid, ?_⟩
    intro alike
    rw [alike]

/-- The same system, but a process with another number comes first, writes an empty line and ends
when the next one was started. -/
def besideNoise : Kernel (Stage ReadScript) :=
  { Kernel.ofReader ReadScript.read with
    wait := fun pid stage => (.ok (if pid = 90 && stage.started = 2 then some 0 else none), stage)
    read := fun descriptor count stage =>
      if descriptor = 5 then
        (.ok ⟨(if stage.started = 1 then [Piece.newline] else []).take count, by simp⟩, stage)
      else (Kernel.ofReader ReadScript.read).read descriptor count stage
    spawn := fun _ stage =>
      (.ok (if stage.started = 0 then 90 else 70), { stage with started := stage.started + 1 }) }

def noisyClients : Stage ReadScript := { oneClient with clients := 2 }

theorem worker_undisturbed_by_noise :
    let initial := Supervisor.new smallListener { text := "printf" } { workers := 4 }
    let alone := passes (.ofReader ReadScript.read) initial oneClient 2
    let beside := passes besideNoise initial noisyClients 3
    (passes besideNoise initial noisyClients 2).supervisor.table.workers.map (·.pid) = [90, 70] ∧
      beside.supervisor.table.workers.map (·.pid) = [70] ∧
      eventsOf 90 beside.notices = [.created 90 "", .line 90 "", .exited 90 0] ∧
      eventsOf 70 alone.notices = [.created 70 "", .line 70 "hi"] ∧
      eventsOf 70 alone.notices = eventsOf 70 beside.notices := by
  intro initial alone beside
  have apartAlone : ∀ passed ≤ 2, Apart smallListener.descriptor
      (passes (.ofReader ReadScript.read) initial oneClient passed).supervisor.table.workers := by
    intro passed early
    obtain rfl | rfl | rfl : passed = 0 ∨ passed = 1 ∨ passed = 2 := by omega
    · exact ⟨⟨by decide +kernel, by decide +kernel⟩, by decide +kernel⟩
    · exact ⟨⟨by decide +kernel, by decide +kernel⟩, by decide +kernel⟩
    · exact ⟨⟨by decide +kernel, by decide +kernel⟩, by decide +kernel⟩
  have apartBeside : ∀ passed ≤ 3, Apart smallListener.descriptor
      (passes besideNoise initial noisyClients passed).supervisor.table.workers := by
    intro passed early
    obtain rfl | rfl | rfl | rfl :
        passed = 0 ∨ passed = 1 ∨ passed = 2 ∨ passed = 3 := by omega
    · exact ⟨⟨by decide +kernel, by decide +kernel⟩, by decide +kernel⟩
    · exact ⟨⟨by decide +kernel, by decide +kernel⟩, by decide +kernel⟩
    · exact ⟨⟨by decide +kernel, by decide +kernel⟩, by decide +kernel⟩
    · exact ⟨⟨by decide +kernel, by decide +kernel⟩, by decide +kernel⟩
  have isolated := (workers_isolated (.ofReader ReadScript.read) smallListener
    { text := "printf" } { workers := 4 } oneClient 2 apartAlone 70).2.2.2 (Stage ReadScript)
    besideNoise smallListener { text := "printf" } { workers := 4 } noisyClients 3 apartBeside
  exact ⟨by decide +kernel, by decide +kernel, by decide +kernel, by decide +kernel,
    isolated.2 (by decide +kernel)⟩

end Supervisor

end Superserver
