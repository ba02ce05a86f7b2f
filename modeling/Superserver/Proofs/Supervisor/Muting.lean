import Superserver.Proofs.Supervisor.Departures
import Superserver.Proofs.Supervisor.Stages

/-!
Muted workers. Main statement: what a worker is muted with is said once in its tenure, and nothing
is said of the worker after it until it leaves. A pass leaves a muted worker as it was unless its
wait finds that it has ended or fails.
-/

namespace Superserver

namespace Report

def mutes : Report → Bool
  | .pipeError | .pipeClosed | .forwardFailed (.read _) => true
  | _ => false

def isTalk (report : Report) : Bool := report.aboutPipe && !report.mutes

end Report

inductive Spoken : Bool → List Report → Prop where
  | talk {reports : List Report} :
      (∀ report ∈ reports, report.isTalk = true) → Spoken false reports
  | last {reports : List Report} {final : Report} :
      (∀ report ∈ reports, report.isTalk = true) → final.mutes = true →
        Spoken true (reports ++ [final])

namespace Spoken

variable {muted : Bool} {first second reports : List Report}

theorem append (spoken : Spoken false first) (more : Spoken muted second) :
    Spoken muted (first ++ second) := by
  cases spoken with
  | talk before =>
      cases more with
      | talk after => exact .talk (List.forall_mem_append.mpr ⟨before, after⟩)
      | @last reports final after mutes =>
          rw [← List.append_assoc]
          exact .last (List.forall_mem_append.mpr ⟨before, after⟩) mutes

theorem alone {final : Report} (mutes : final.mutes = true) : Spoken true [final] :=
  @last [] final (by simp) mutes

theorem countP_eq_zero (talk : ∀ report ∈ reports, report.isTalk = true) :
    reports.countP (·.mutes) = 0 := by
  apply List.countP_eq_zero.mpr
  intro report member mutes
  have talks := talk report member
  simp [Report.isTalk, mutes] at talks

theorem countP_mutes (spoken : Spoken muted reports) :
    reports.countP (·.mutes) = muted.toNat := by
  cases spoken with
  | talk talk => exact countP_eq_zero talk
  | last talk mutes => simp [countP_eq_zero talk, mutes]

end Spoken

namespace Worker

section

variable {σ : Type} (kernel : Kernel σ) (worker : Worker) (state : σ)

theorem isTalk_forward :
    ∀ report ∈ (worker.forward kernel state).1.reports, report.isTalk = true := by
  intro report member
  unfold forward at member
  split at member
  · cases member
  · cases member
  · obtain ⟨bytes, _, rfl⟩ := List.mem_map.mp member
    rfl

theorem isTalk_flush : ∀ report ∈ worker.flush.1, report.isTalk = true := by
  intro report member
  obtain ⟨bytes, _, rfl⟩ := List.mem_map.mp member
  rfl

/-- A pipe ends or fails in the turn of its worker just if the turn says so last. -/
theorem spoken_attend (flags : PollFlags) :
    Spoken (worker.attend kernel flags state).1.ended
      (worker.attend kernel flags state).1.reports := by
  have talk := isTalk_forward kernel worker state
  unfold attend
  generalize worker.forward kernel state = result at talk ⊢
  obtain ⟨step, after⟩ := result
  simp only at talk ⊢
  split
  · exact .alone rfl
  · split
    · split
      · exact .talk talk
      · exact .last talk rfl
      · exact .talk (by simp)
      · exact .alone rfl
      · rename_i error unread _
        refine .talk (List.forall_mem_cons.mpr ⟨?_, isTalk_flush _⟩)
        cases error with
        | read error => exact absurd rfl (unread error)
        | lineTooLong limit => rfl
        | outOfMemory => rfl
    · exact .talk (by simp)

theorem isTalk_drainTurns (turns : Nat) :
    ∀ report ∈ (drainTurns kernel turns worker state).1, report.isTalk = true := by
  induction turns generalizing worker state with
  | zero =>
      intro report member
      cases member
  | succ turns ih =>
      have talk := isTalk_forward kernel worker state
      intro report member
      rw [drainTurns] at member
      generalize worker.forward kernel state = result at talk member
      obtain ⟨step, between⟩ := result
      simp only at talk member
      split at member
      · rcases List.mem_append.mp member with member | member
        · exact talk report member
        · exact ih _ between report member
      · exact talk report member
      · rcases List.mem_cons.mp member with rfl | member
        · rfl
        · rcases List.mem_append.mp member with member | member
          · exact isTalk_flush _ report member
          · exact ih _ between report member
      · obtain rfl := List.mem_singleton.mp member
        rfl

theorem isTalk_drain (turns : Nat) :
    ∀ report ∈ (worker.drain kernel turns state).1, report.isTalk = true :=
  List.forall_mem_append.mpr
    ⟨isTalk_drainTurns kernel worker state turns, isTalk_flush _⟩

/-- An over-long line does not end the pipe. -/
theorem not_ended_of_lineTooLong {flags : PollFlags} {limit : Nat}
    (told : .forwardFailed (.lineTooLong limit) ∈ (worker.attend kernel flags state).1.reports) :
    (worker.attend kernel flags state).1.ended = false := by
  have silent : .forwardFailed (.lineTooLong limit) ∉ (worker.forward kernel state).1.reports := by
    unfold forward
    split <;> simp
  unfold attend at told ⊢
  generalize worker.forward kernel state = result at silent told ⊢
  obtain ⟨step, after⟩ := result
  simp only at silent told ⊢
  by_cases failed : flags.meets (PollFlags.failed ||| PollFlags.invalid) = true
  · rw [if_pos failed] at told
    cases List.mem_singleton.mp told
  rw [if_neg failed] at told ⊢
  by_cases ready : flags.meets (PollFlags.readable ||| PollFlags.hangUp) = true
  · rw [if_pos ready] at told ⊢
    split
    · rfl
    · rename_i outcome
      rw [outcome] at told
      rcases List.mem_append.mp told with told | told
      · exact absurd told silent
      · cases List.mem_singleton.mp told
    · rfl
    · rename_i outcome
      rw [outcome] at told
      cases List.mem_singleton.mp told
    · rfl
  · rw [if_neg ready]

end

end Worker

namespace Supervisor

open ProcessTable

/-! ### Tenures in reports -/

def reportsOf (pid : Pid) (notices : List Notice) : List Report :=
  notices.filterMap fun notice =>
    match notice with
    | .worker other report => if other = pid then some report else none
    | _ => none

section

variable {pid other : Pid} {notices : List Notice}

theorem reportsOf_append (first second : List Notice) :
    reportsOf pid (first ++ second) = reportsOf pid first ++ reportsOf pid second :=
  List.filterMap_append

theorem reportsOf_own (reports : List Report) :
    reportsOf pid (reports.map (.worker pid)) = reports := by
  rw [reportsOf, List.filterMap_map]
  simp

theorem reportsOf_of_apart (apart : ∀ report, .worker pid report ∉ notices) :
    reportsOf pid notices = [] := by
  apply List.filterMap_eq_nil_iff.mpr
  intro notice member
  cases notice with
  | worker other report =>
      apply if_neg
      rintro rfl
      exact apart report member
  | _ => rfl

theorem reportsOf_other (different : other ≠ pid) (reports : List Report) :
    reportsOf pid (reports.map (.worker other)) = [] :=
  reportsOf_of_apart (by simp [different])

theorem reportsOf_asides (asides : Asides notices) : reportsOf pid notices = [] :=
  reportsOf_of_apart fun report member => asides _ member pid report rfl

variable {α : Type} {items : List α} {name : α → Pid} {told : α → List Report}

theorem reportsOf_others (apart : pid ∉ items.map name) :
    reportsOf pid (items.flatMap fun item => (told item).map (.worker (name item))) = [] := by
  apply reportsOf_of_apart
  intro report member
  obtain ⟨item, listed, member⟩ := List.mem_flatMap.mp member
  obtain ⟨_, _, same⟩ := List.mem_map.mp member
  cases same
  exact apart (List.mem_map_of_mem listed)

/-- Where everybody has a number of his own, what is told under it is what he told. -/
theorem reportsOf_among (distinct : (items.map name).Nodup) {own : α} (member : own ∈ items) :
    reportsOf (name own) (items.flatMap fun item => (told item).map (.worker (name item))) =
      told own := by
  induction items with
  | nil => cases member
  | cons item items ih =>
      rw [List.map_cons, List.nodup_cons] at distinct
      rw [List.flatMap_cons, reportsOf_append]
      rcases List.mem_cons.mp member with rfl | member
      · rw [reportsOf_own, reportsOf_others distinct.1, List.append_nil]
      · have different : name item ≠ name own := by
          intro same
          apply distinct.1
          rw [same]
          exact List.mem_map_of_mem member
        rw [reportsOf_other different, List.nil_append]
        exact ih distinct.2 member

end

/-- The reports of a worker that is in the table. -/
def Serving (muted : Bool) (reports : List Report) : Prop :=
  ∃ remote spoken, reports = .created remote :: spoken ∧ Spoken muted spoken

/-- The reports of a worker that has left: those of its service and then those of its departure. -/
def Served (reports : List Report) : Prop :=
  ∃ muted service drained final, reports = service ++ (drained ++ [final]) ∧
    Serving muted service ∧ (∀ report ∈ drained, report.isTalk = true) ∧ final.isLast = true

/-- The reports of a process: its past tenures, and the present one if it has a worker. -/
def History (reports : List Report) (now : Option Bool) : Prop :=
  ∃ (past : List (List Report)) (present : List Report), reports = past.flatten ++ present ∧
    (∀ tenure ∈ past, Served tenure) ∧ now.elim (present = []) (Serving · present)

theorem Serving.countP_mutes {muted : Bool} {reports : List Report}
    (serving : Serving muted reports) : reports.countP (·.mutes) = muted.toNat := by
  obtain ⟨remote, spoken, rfl, said⟩ := serving
  rw [List.countP_cons_of_neg (by simp [Report.mutes])]
  exact said.countP_mutes

/-- A worker is muted once at the most. -/
theorem Served.countP_mutes {reports : List Report} (served : Served reports) :
    reports.countP (·.mutes) ≤ 1 := by
  obtain ⟨muted, service, drained, final, rfl, serving, talk, last⟩ := served
  have silent : final.mutes = false := by
    cases final <;> first | rfl | cases last
  rw [List.countP_append, List.countP_append, serving.countP_mutes, Spoken.countP_eq_zero talk]
  simp only [List.countP_singleton, silent, Bool.false_eq_true, if_false, Nat.add_zero]
  exact muted.toNat_le

namespace History

variable {reports more : List Report} {muted : Bool}

theorem enter (history : History reports none) (remote : String) :
    History (reports ++ [.created remote]) (some false) := by
  obtain ⟨past, present, rfl, served, nothing⟩ := history
  have nothing : present = [] := nothing
  subst nothing
  exact ⟨past, [.created remote], by simp, served, remote, [], rfl, .talk (by simp)⟩

theorem speak (history : History reports (some false)) (spoken : Spoken muted more) :
    History (reports ++ more) (some muted) := by
  obtain ⟨past, present, rfl, served, remote, before, rfl, said⟩ := history
  exact ⟨past, .created remote :: (before ++ more), by simp, served, remote, _, rfl,
    said.append spoken⟩

theorem leave (history : History reports (some muted)) {drained : List Report} {final : Report}
    (talk : ∀ report ∈ drained, report.isTalk = true) (last : final.isLast = true) :
    History (reports ++ (drained ++ [final])) none := by
  obtain ⟨past, present, rfl, served, serving⟩ := history
  refine ⟨past ++ [present ++ (drained ++ [final])], [], by simp, ?_, rfl⟩
  apply List.forall_mem_append.mpr ⟨served, ?_⟩
  intro tenure member
  obtain rfl := List.mem_singleton.mp member
  exact ⟨muted, present, drained, final, rfl, serving, talk, last⟩

end History

/-! ### What a pass does to histories -/

structure Heard (workers : List Worker) (notices : List Notice) : Prop where
  distinct : (workers.map (·.pid)).Nodup
  present : ∀ worker ∈ workers, History (reportsOf worker.pid notices) (some worker.muted)
  absent : ∀ pid, pid ∉ workers.map (·.pid) → History (reportsOf pid notices) none

namespace Heard

variable {workers others after : List Worker} {worker : Worker} {notices told : List Notice}

theorem perm (heard : Heard workers notices) (same : workers.Perm others) :
    Heard others notices where
  distinct := (same.map _).nodup_iff.mp heard.distinct
  present worker member := heard.present worker (same.mem_iff.mpr member)
  absent pid outside :=
    heard.absent pid fun member => outside ((same.map _).mem_iff.mp member)

theorem others_apart (heard : Heard (worker :: others) notices) {other : Worker}
    (member : other ∈ others) : other.pid ≠ worker.pid := by
  have distinct := heard.distinct
  rw [List.map_cons, List.nodup_cons] at distinct
  intro same
  apply distinct.1
  rw [← same]
  exact List.mem_map_of_mem member

theorem leave (heard : Heard (worker :: others) notices) {drained : List Report} {final : Report}
    (talk : ∀ report ∈ drained, report.isTalk = true) (last : final.isLast = true) :
    Heard others (notices ++ (drained ++ [final]).map (.worker worker.pid)) where
  distinct := by
    have distinct := heard.distinct
    rw [List.map_cons, List.nodup_cons] at distinct
    exact distinct.2
  present other member := by
    rw [reportsOf_append, reportsOf_other (heard.others_apart member).symm, List.append_nil]
    exact heard.present other (List.mem_cons_of_mem _ member)
  absent pid outside := by
    rw [reportsOf_append]
    by_cases own : worker.pid = pid
    · subst own
      rw [reportsOf_own]
      exact (heard.present worker (List.mem_cons_self ..)).leave talk last
    · rw [reportsOf_other own, List.append_nil]
      exact heard.absent pid (by simpa [Ne.symm own] using outside)

theorem change (heard : Heard (worker :: others) notices) {changed : Worker}
    {reports : List Report} (same : changed.pid = worker.pid)
    (history : History (reportsOf worker.pid notices ++ reports) (some changed.muted)) :
    Heard (changed :: others) (notices ++ reports.map (.worker worker.pid)) where
  distinct := by
    have distinct := heard.distinct
    rwa [List.map_cons, ← same] at distinct
  present other member := by
    rw [reportsOf_append]
    rcases List.mem_cons.mp member with rfl | member
    · rw [same, reportsOf_own]
      exact history
    · rw [reportsOf_other (heard.others_apart member).symm, List.append_nil]
      exact heard.present other (List.mem_cons_of_mem _ member)
  absent pid outside := by
    rw [List.map_cons, same] at outside
    have own : worker.pid ≠ pid := by
      rintro rfl
      exact outside (List.mem_cons_self ..)
    rw [reportsOf_append, reportsOf_other own, List.append_nil]
    exact heard.absent pid outside

variable {σ : Type} {kernel : Kernel σ} {state between : σ}

theorem admission (heard : Heard workers notices)
    (admission : Admission kernel workers state told after between)
    (fresh : ∀ pid remote, .worker pid (.created remote) ∈ told → pid ∉ workers.map (·.pid)) :
    Heard after (notices ++ told) := by
  cases admission with
  | none asides quiet =>
      have still : ∀ pid, reportsOf pid (notices ++ told) = reportsOf pid notices := by
        intro pid
        rw [reportsOf_append, reportsOf_asides asides, List.append_nil]
      exact ⟨heard.distinct, fun worker member => still worker.pid ▸ heard.present worker member,
        fun pid outside => still pid ▸ heard.absent pid outside⟩
  | @one asides _ _ _ _ pid diagnostics remote apart quiet spawn closed =>
      have absent : pid ∉ workers.map (·.pid) := fresh pid remote (by simp)
      have told : ∀ other, reportsOf other (notices ++ (asides ++ [.worker pid (.created remote)]))
          = reportsOf other notices ++ if pid = other then [.created remote] else [] := by
        intro other
        rw [reportsOf_append, reportsOf_append, reportsOf_asides apart, List.nil_append]
        by_cases own : pid = other <;> simp [reportsOf, own]
      constructor
      · rw [List.map_append]
        exact (List.perm_append_singleton pid _).nodup_iff.mpr
          (List.nodup_cons.mpr ⟨absent, heard.distinct⟩)
      · intro worker member
        rw [told]
        rcases List.mem_append.mp member with listed | new
        · have other : pid ≠ worker.pid := by
            rintro rfl
            exact absent (List.mem_map_of_mem listed)
          rw [if_neg other, List.append_nil]
          exact heard.present worker listed
        · obtain rfl := List.mem_singleton.mp new
          rw [if_pos rfl]
          exact (heard.absent pid absent).enter remote
      · intro other outside
        rw [List.map_append, List.mem_append, not_or] at outside
        have different : pid ≠ other := by
          rintro rfl
          exact outside.2 (by simp)
        rw [told, if_neg different, List.append_nil]
        exact heard.absent other outside.1

end Heard

section

variable {σ : Type} {kernel : Kernel σ} {notices : List Notice}

theorem departure_of_asked {worker : Worker} {before after : σ} {reports : List Report}
    (asked : lastReports kernel worker before = (some reports, after)) :
    ∃ drained final, reports = drained ++ [final] ∧
      (∀ report ∈ drained, report.isTalk = true) ∧ final.isLast = true := by
  rcases lastReports_cases kernel worker before with ⟨_, _, answer⟩ |
    ⟨status, between, drained, _, _, _, drains, answer⟩ | ⟨error, _, _, answer⟩
  · cases asked.symm.trans answer
  · cases asked.symm.trans answer
    have talk := worker.isTalk_drain kernel between Worker.drainReads
    rw [drains] at talk
    exact ⟨drained, .exited status, rfl, talk, rfl⟩
  · cases asked.symm.trans answer
    exact ⟨[], .lost error, rfl, by simp, rfl⟩

theorem Heard.reaped {askings : List (Asking σ)} {kept : List Worker}
    (heard : Heard (kept ++ askings.map (·.worker)) notices)
    (answers : ∀ asking ∈ askings,
      lastReports kernel asking.worker asking.before = (asking.last, asking.after)) :
    Heard (kept ++ (askings.filter (·.stays)).map (·.worker))
      (notices ++ askings.flatMap (·.notices)) := by
  -- Those who stay go over to `kept`, so that each is asked at the head of the rest.
  induction askings generalizing kept notices with
  | nil => simpa using heard
  | cons asking askings ih =>
      have rest := fun other member => answers other (List.mem_cons_of_mem _ member)
      have answer := answers asking (List.mem_cons_self ..)
      rcases last : asking.last with _ | reports
      · have stays : asking.stays = true := by simp [Asking.stays, last]
        have silent : asking.notices = [] := by simp [Asking.notices, last]
        rw [List.map_cons, List.append_cons] at heard
        rw [List.filter_cons_of_pos stays, List.map_cons, List.append_cons, List.flatMap_cons,
          silent, List.nil_append]
        exact ih heard rest
      · have leaves : ¬asking.stays = true := by simp [Asking.stays, last]
        have told : asking.notices = reports.map (.worker asking.worker.pid) := by
          simp [Asking.notices, last]
        rw [last] at answer
        obtain ⟨drained, final, rfl, talk, ending⟩ := departure_of_asked answer
        have first := heard.perm List.perm_middle
        rw [List.filter_cons_of_neg leaves, List.flatMap_cons, told, ← List.append_assoc]
        exact ih (first.leave talk ending) rest

theorem none_meets (wanted : PollFlags) : PollFlags.none.meets wanted = false := by
  simp [PollFlags.meets, PollFlags.none]

theorem Turn.Apt.still {turn : Turn σ} (apt : turn.Apt kernel)
    (nothing : turn.flags = PollFlags.none) :
    turn.left = turn.worker ∧ turn.attended.reports = [] := by
  have sound : turn.failed = false := by rw [Turn.failed, nothing, none_meets]
  have quiet : turn.ready = false := by rw [Turn.ready, nothing, none_meets]
  obtain ⟨silent, same, _⟩ := apt.passedOver sound quiet
  exact ⟨same, silent⟩

theorem Turn.Apt.history {turn : Turn σ} (apt : turn.Apt kernel)
    (passedOver : turn.worker.muted = true → turn.flags = PollFlags.none)
    {reports : List Report} (history : History reports (some turn.worker.muted)) :
    History (reports ++ turn.attended.reports) (some turn.left.muted) := by
  cases muted : turn.worker.muted with
  | true =>
      obtain ⟨same, silent⟩ := apt.still (passedOver muted)
      rwa [same, silent, List.append_nil]
  | false =>
      have spoken := turn.worker.spoken_attend kernel turn.before turn.flags
      have alike := turn.worker.alike_attend kernel turn.flags turn.before
      rw [apt.attends] at spoken alike
      have left : turn.left.muted = turn.attended.ended := by
        have still : turn.attended.worker.muted = false := alike.muted.trans muted
        cases ended : turn.attended.ended <;> simp [Turn.left, ended, Worker.mute, still]
      rw [muted] at history
      rw [left]
      exact history.speak spoken

theorem Heard.attended {turns : List (Turn σ)} {done : List Worker}
    (heard : Heard (done ++ turns.map (·.worker)) notices)
    (apt : ∀ turn ∈ turns, turn.Apt kernel)
    (passedOver : ∀ turn ∈ turns, turn.worker.muted = true → turn.flags = PollFlags.none) :
    Heard (done ++ turns.map Turn.left) (notices ++ turns.flatMap Turn.notices) := by
  -- The workers whose turn is over stand in front, in their new condition.
  induction turns generalizing done notices with
  | nil => simpa using heard
  | cons turn turns ih =>
      have own := apt turn (List.mem_cons_self ..)
      have first := heard.perm List.perm_middle
      have history := own.history (passedOver turn (List.mem_cons_self ..))
        (first.present turn.worker (List.mem_cons_self ..))
      have next := (first.change own.pid_left history).perm List.perm_middle.symm
      rw [List.append_cons] at next
      rw [List.map_cons, List.append_cons, List.flatMap_cons, ← List.append_assoc]
      exact ih next (fun other member => apt other (List.mem_cons_of_mem _ member))
        fun other member => passedOver other (List.mem_cons_of_mem _ member)

end

/-! ### Whole runs -/

section

variable {σ : Type} (kernel : Kernel σ) (supervisor : Supervisor) (state : σ)

def idleTurn (worker : Worker) : Turn σ where
  worker := worker
  flags := PollFlags.none
  before := state
  attended := { worker }
  after := state

theorem turns_of_pass {listener : Int} (sound : Lockstep listener supervisor.table) :
    let look := supervisor.look kernel state
    let sent := look.attended kernel
    ∃ turns : List (Turn σ), turns.map (·.worker) = look.reaped.table.workers ∧
      (∀ turn ∈ turns, turn.Apt kernel) ∧
      (∀ turn ∈ turns, turn.worker.muted = true → turn.flags = PollFlags.none) ∧
      sent.table.workers = turns.map Turn.left ∧ sent.notices = turns.flatMap Turn.notices := by
  intro look sent
  rcases attended_cases kernel supervisor state sound with ⟨_, kept, silent, _, _⟩ |
    ⟨flags, _, _, turns, _, made⟩
  · refine ⟨look.reaped.table.workers.map (idleTurn state), ?_, ?_, ?_, ?_, ?_⟩
    · simp [idleTurn, Function.comp_def]
    · intro turn member
      obtain ⟨worker, _, rfl⟩ := List.mem_map.mp member
      exact apt_of_attends (attend_of_neither (none_meets _) (none_meets _))
    · intro turn member _
      obtain ⟨worker, _, rfl⟩ := List.mem_map.mp member
      rfl
    · have kept : sent.table.workers = look.reaped.table.workers := kept
      rw [kept, List.map_map]
      exact (List.map_id' _).symm
    · have silent : sent.notices = [] := silent
      rw [silent, List.flatMap_map]
      exact (List.flatMap_eq_nil_iff.mpr fun worker _ => rfl).symm
  · have cleared : Lockstep listener look.reaped.table.cleared :=
      (lockstep_look kernel sound state).cleared
    obtain ⟨workers, heard, apt⟩ := turnsFrom_spec kernel (look.table flags) 0
      look.reaped.table.workers look.answer.2
    have turns : look.turns kernel = _ := turns
    rw [← turns] at workers heard apt
    refine ⟨look.turns kernel, workers, apt, ?_, made.workers, made.notices⟩
    intro turn member muted
    obtain ⟨index, found⟩ := List.mem_iff_getElem?.mp member
    have worker : look.reaped.table.workers[index]? = some turn.worker := by
      rw [← workers, List.getElem?_map, found]
      rfl
    rw [heard index turn found, Nat.zero_add]
    exact (returned_polled cleared look.accepting flags worker).trans (if_pos muted)

theorem admission_of_tick :
    let look := supervisor.look kernel state
    let sent := look.attended kernel
    let next := supervisor.tick kernel state
    ∃ later, Admission kernel sent.table.workers sent.state later next.supervisor.table.workers
        next.state ∧ next.notices = look.reaped.notices ++ sent.notices ++ later := by
  intro look sent next
  cases tries : look.tries kernel with
  | false =>
      have ticked : next = _ := tick_of_shut kernel supervisor state tries
      rw [ticked]
      exact ⟨[], .none (by simp [Asides]) .refl, (List.append_nil _).symm⟩
  | true =>
      have ticked : next = _ := tick_of_tried kernel supervisor state tries
      rw [ticked]
      exact ⟨_, admitNext_admission kernel _ _ _ _, rfl⟩

theorem pids_attended {listener : Int} (sound : Lockstep listener supervisor.table) :
    let look := supervisor.look kernel state
    (look.attended kernel).table.workers.map (·.pid) = look.reaped.table.workers.map (·.pid) := by
  have named := congrArg (List.map Prod.fst) (named_attended kernel supervisor state sound)
  simpa [Function.comp_def] using named

variable {supervisor : Supervisor} {state : σ} {notices : List Notice}

theorem Heard.tick {listener : Int} (sound : Lockstep listener supervisor.table)
    (heard : Heard supervisor.table.workers notices)
    (fresh : ∀ pid remote,
      .worker pid (.created remote) ∈ (supervisor.tick kernel state).notices →
        pid ∉ (supervisor.look kernel state).reaped.table.workers.map (·.pid)) :
    Heard (supervisor.tick kernel state).supervisor.table.workers
      (notices ++ (supervisor.tick kernel state).notices) := by
  let look := supervisor.look kernel state
  let askings := askingsFrom kernel supervisor.table.length 0 supervisor.table state
  obtain ⟨asked, kept, told, answers⟩ := askingsFrom_spec kernel supervisor.table.length 0
    supervisor.table state (by simp [ProcessTable.length])
  have standing : Heard ([] ++ askings.map (·.worker)) notices := heard.perm asked.symm
  have kept : look.reaped.table.workers = [] ++ (askings.filter (·.stays)).map (·.worker) := kept
  have told : look.reaped.notices = askings.flatMap (·.notices) := told
  have reaped := standing.reaped answers
  rw [← kept, ← told] at reaped
  obtain ⟨turns, workers, apt, passedOver, left, sent⟩ :=
    turns_of_pass kernel supervisor state sound
  have heeded : Heard ([] ++ turns.map (·.worker)) (notices ++ look.reaped.notices) := by
    rw [workers]
    exact reaped
  have attended := heeded.attended apt passedOver
  rw [List.nil_append, ← left, ← sent] at attended
  obtain ⟨later, admission, whole⟩ := admission_of_tick kernel supervisor state
  rw [whole] at fresh ⊢
  rw [← List.append_assoc, ← List.append_assoc]
  refine attended.admission admission ?_
  intro pid remote created
  rw [pids_attended kernel supervisor state sound]
  exact fresh pid remote (List.mem_append_right _ created)

theorem heard_passes (listener : Listener) (command : ShellCommand) (limit : AdmissionLimit)
    (state : σ) (count : Nat)
    (fresh : NumbersFresh kernel (.new listener command limit) state count) :
    let ran := passes kernel (.new listener command limit) state count
    Heard ran.supervisor.table.workers ran.notices := by
  induction count with
  | zero =>
      refine ⟨List.nodup_nil, fun worker member => ?_, fun pid _ => ⟨[], [], rfl, by simp, rfl⟩⟩
      cases member
  | succ count ih =>
      have past := ih fun passed early => fresh passed (by omega)
      exact past.tick kernel (lockstep_passes kernel listener command limit state count)
        (fresh count (Nat.lt_add_one count))

/-! ### The passes of a muted worker -/

theorem reportsOf_admission {workers last : List Worker} {before after : σ} {told : List Notice}
    (admission : Admission kernel workers before told last after) :
    (∀ worker ∈ workers, worker ∈ last) ∧
      ∀ pid, (reportsOf pid told = [] ∧
          (pid ∈ last.map (·.pid) → pid ∈ workers.map (·.pid))) ∨
        ∃ remote, reportsOf pid told = [.created remote] ∧ .worker pid (.created remote) ∈ told := by
  cases admission with
  | none asides quiet =>
      exact ⟨fun _ member => member, fun pid => .inl ⟨reportsOf_asides asides, id⟩⟩
  | @one asides _ _ _ _ started diagnostics remote apart quiet spawn closed =>
      refine ⟨fun _ member => List.mem_append_left _ member, fun pid => ?_⟩
      rw [reportsOf_append, reportsOf_asides apart, List.nil_append]
      by_cases own : started = pid
      · subst own
        exact .inr ⟨remote, by simp [reportsOf], by simp⟩
      · refine .inl ⟨by simp [reportsOf, own], fun member => ?_⟩
        simpa [Ne.symm own] using member

/-- A worker has left with some reports. Another process may have come by its number since. -/
def Departs (pid : Pid) (reports : List Report) (next : Ticked σ) : Prop :=
  (reportsOf pid next.notices = reports ∧ pid ∉ next.supervisor.table.workers.map (·.pid)) ∨
    ∃ remote, reportsOf pid next.notices = reports ++ [.created remote]

/-- What becomes of a muted worker that is asked for: nothing while it runs. Its last pass tells
what was left in its pipe and its exit, or only that it could not be waited for. -/
def LeftAlone (worker : Worker) (before : σ) (next : Ticked σ) : Prop :=
  match kernel.wait worker.pid before with
  | (.ok none, _) =>
      worker ∈ next.supervisor.table.workers ∧ reportsOf worker.pid next.notices = []
  | (.ok (some status), between) =>
      Departs worker.pid
        ((worker.drain kernel Worker.drainReads between).1 ++ [.exited status]) next
  | (.error error, _) => Departs worker.pid [.lost error] next

theorem left_alone_of_last {worker : Worker} {before after : σ} {last : Option (List Report)}
    {next : Ticked σ} (answer : lastReports kernel worker before = (last, after))
    (stayed : last = none →
      worker ∈ next.supervisor.table.workers ∧ reportsOf worker.pid next.notices = [])
    (left : ∀ reports, last = some reports → Departs worker.pid reports next) :
    LeftAlone kernel worker before next := by
  unfold LeftAlone
  rcases lastReports_cases kernel worker before with ⟨_, waited, told⟩ |
    ⟨status, between, reports, _, _, waited, drained, told⟩ | ⟨error, _, waited, told⟩
  all_goals
    have same := congrArg Prod.fst (answer.symm.trans told)
    rw [waited]
  · exact stayed same
  · simp only [drained]
    exact left _ same
  · exact left _ same

theorem still_of_muted {turns : List (Turn σ)} (names : (turns.map (·.worker.pid)).Nodup)
    (apt : ∀ turn ∈ turns, turn.Apt kernel)
    (passedOver : ∀ turn ∈ turns, turn.worker.muted = true → turn.flags = PollFlags.none)
    {worker : Worker} (member : worker ∈ turns.map (·.worker)) (muted : worker.muted = true) :
    worker ∈ turns.map Turn.left ∧ reportsOf worker.pid (turns.flatMap Turn.notices) = [] := by
  obtain ⟨turn, turned, rfl⟩ := List.mem_map.mp member
  obtain ⟨unchanged, silent⟩ := (apt turn turned).still (passedOver turn turned muted)
  constructor
  · rw [← unchanged]
    exact List.mem_map_of_mem turned
  · rw [← silent]
    exact reportsOf_among names turned

theorem not_mem_of_not_stays {askings : List (Asking σ)}
    (names : (askings.map (·.worker.pid)).Nodup) {asking : Asking σ} (listed : asking ∈ askings)
    (leaves : asking.stays = false) :
    asking.worker.pid ∉ ((askings.filter (·.stays)).map (·.worker)).map (·.pid) := by
  rw [List.map_map]
  intro tracked
  obtain ⟨other, among, same⟩ := List.mem_map.mp tracked
  obtain ⟨otherListed, stays⟩ := List.mem_filter.mp among
  obtain rfl : other = asking := List.inj_on_of_nodup_map names otherListed listed same
  rw [leaves] at stays
  cases stays

theorem tick_of_muted {listener : Int} (sound : Lockstep listener supervisor.table)
    (distinct : (supervisor.table.workers.map (·.pid)).Nodup)
    (fresh : ∀ pid remote,
      .worker pid (.created remote) ∈ (supervisor.tick kernel state).notices →
        pid ∉ (supervisor.look kernel state).reaped.table.workers.map (·.pid))
    {worker : Worker} (member : worker ∈ supervisor.table.workers) (muted : worker.muted = true) :
    ∃ asking ∈ askingsFrom kernel supervisor.table.length 0 supervisor.table state,
      asking.worker = worker ∧
        LeftAlone kernel worker asking.before (supervisor.tick kernel state) := by
  let look := supervisor.look kernel state
  let sent := look.attended kernel
  let askings := askingsFrom kernel supervisor.table.length 0 supervisor.table state
  obtain ⟨asked, kept, told, answers⟩ := askingsFrom_spec kernel supervisor.table.length 0
    supervisor.table state (by simp [ProcessTable.length])
  have kept : look.reaped.table.workers = (askings.filter (·.stays)).map (·.worker) := kept
  have told : look.reaped.notices = askings.flatMap (·.notices) := told
  obtain ⟨turns, workers, apt, passedOver, left, talk⟩ :=
    turns_of_pass kernel supervisor state sound
  have talk : sent.notices = turns.flatMap Turn.notices := talk
  have samePids : sent.table.workers.map (·.pid) = look.reaped.table.workers.map (·.pid) :=
    pids_attended kernel supervisor state sound
  obtain ⟨later, admission, whole⟩ := admission_of_tick kernel supervisor state
  obtain ⟨stay, admitted⟩ := reportsOf_admission kernel admission
  obtain ⟨asking, listed, rfl⟩ := List.mem_map.mp (asked.mem_iff.mpr member)
  have names : (askings.map (·.worker.pid)).Nodup := by
    have same := (asked.map (·.pid)).nodup_iff.mpr distinct
    rwa [List.map_map] at same
  have turnNames : (turns.map (·.worker.pid)).Nodup := by
    have same := congrArg (List.map (·.pid)) (workers.trans kept)
    rw [List.map_map, List.map_map] at same
    have standing : (turns.map (·.worker.pid)) = _ := same
    rw [standing]
    exact names.sublist (List.filter_sublist.map _)
  have own : reportsOf asking.worker.pid look.reaped.notices = asking.last.getD [] := by
    rw [told]
    exact reportsOf_among names listed
  refine ⟨asking, listed, rfl, left_alone_of_last kernel (answers asking listed) ?_ ?_⟩
  · intro last
    have stands : asking.worker ∈ turns.map (·.worker) := by
      rw [workers, kept]
      exact List.mem_map_of_mem (List.mem_filter.mpr ⟨listed, by simp [Asking.stays, last]⟩)
    obtain ⟨standing, quiet⟩ := still_of_muted kernel turnNames apt passedOver stands muted
    rw [← talk] at quiet
    have tracked : asking.worker.pid ∈ look.reaped.table.workers.map (·.pid) := by
      rw [← workers]
      exact List.mem_map_of_mem stands
    constructor
    · apply stay
      rw [left]
      exact standing
    · rcases admitted asking.worker.pid with ⟨nobody, _⟩ | ⟨remote, _, created⟩
      · rw [whole, reportsOf_append, reportsOf_append, own, last, quiet, nobody]
        rfl
      · refine absurd tracked (fresh asking.worker.pid remote ?_)
        rw [whole]
        exact List.mem_append_right _ created
  · intro reports last
    have gone : asking.worker.pid ∉ look.reaped.table.workers.map (·.pid) := by
      rw [kept]
      exact not_mem_of_not_stays names listed (by simp [Asking.stays, last])
    have quiet : reportsOf asking.worker.pid sent.notices = [] := by
      rw [talk]
      apply reportsOf_others
      rw [← workers, List.map_map] at gone
      exact gone
    have heard : reportsOf asking.worker.pid (supervisor.tick kernel state).notices =
        reports ++ reportsOf asking.worker.pid later := by
      rw [whole, reportsOf_append, reportsOf_append, own, last, quiet, List.append_nil]
      rfl
    rcases admitted asking.worker.pid with ⟨nobody, tracked⟩ | ⟨remote, created, _⟩
    · refine .inl ⟨by rw [heard, nobody, List.append_nil], fun stands => gone ?_⟩
      rw [← samePids]
      exact tracked stands
    · exact .inr ⟨remote, by rw [heard, created]⟩

end

/-! ### Whole runs -/

theorem mute_of_muted {table : ProcessTable} {listener : Int} (sound : Lockstep listener table)
    {index : Nat} {worker : Worker} (found : table.workers[index]? = some worker)
    (muted : worker.muted = true) : table.mute index = table := by
  obtain ⟨inside, same⟩ := List.getElem?_eq_some_iff.mp found
  obtain ⟨slot, shown, shows⟩ := sound.slot_of_worker found
  obtain ⟨insideSlots, sameSlot⟩ := List.getElem?_eq_some_iff.mp shown
  have negative : slot.descriptor < 0 := by rw [shows, worker.watched_neg_iff, muted]
  have still : slot.ignored = slot := if_pos negative
  have mute : worker.mute = worker := by rw [Worker.mute, ← muted]
  rw [ProcessTable.mute, found]
  simp only [mute, modify_eq_set PollSlot.ignored shown, still]
  rw [← same, ← sameSlot, List.set_getElem_self, List.set_getElem_self]

/-- A muted worker's slot shows the complement of its descriptor, and muting it again changes
nothing. In each tenure one report at most mutes the worker, and with it nothing is said of the
worker until it leaves. A pass leaves a muted worker as it was while it runs; then comes what is
left in its pipe and its exit, or a warning in their place if it cannot be waited for. An over-long
line mutes nobody. -/
theorem muting_is_final {σ : Type} (kernel : Kernel σ) (listener : Listener)
    (command : ShellCommand) (limit : AdmissionLimit) (state : σ) (count : Nat)
    (fresh : NumbersFresh kernel (.new listener command limit) state count) :
    let ran := passes kernel (.new listener command limit) state count
    let table := ran.supervisor.table
    (∀ index worker, table.workers[index]? = some worker →
      (∃ slot, table.slots[index + 1]? = some slot ∧ slot.descriptor =
        if worker.muted then ~~~(worker.diagnostics : Int) else worker.diagnostics) ∧
      (worker.muted = true → table.mute index = table)) ∧
    (∀ pid, ∃ (past : List (List Report)) (present : List Report),
      reportsOf pid ran.notices = past.flatten ++ present ∧
      (∀ tenure ∈ past, Served tenure ∧ tenure.countP (·.mutes) ≤ 1) ∧
      (∀ worker ∈ table.workers, worker.pid = pid →
        Serving worker.muted present ∧ present.countP (·.mutes) = worker.muted.toNat) ∧
      (pid ∉ table.workers.map (·.pid) → present = [])) ∧
    (∀ passed < count,
      let before := passes kernel (.new listener command limit) state passed
      let table := before.supervisor.table
      ∀ worker ∈ table.workers, worker.muted = true →
        ∃ asking ∈ askingsFrom kernel table.length 0 table before.state,
          asking.worker = worker ∧
            LeftAlone kernel worker asking.before (before.supervisor.tick kernel before.state)) ∧
    ∀ (worker : Worker) (flags : PollFlags) (between : σ) (limit : Nat),
      .forwardFailed (.lineTooLong limit) ∈ (worker.attend kernel flags between).1.reports →
        (worker.attend kernel flags between).1.ended = false ∧
          (worker.attend kernel flags between).1.worker.muted = worker.muted := by
  intro ran table
  have sound : Lockstep listener.descriptor table :=
    lockstep_passes kernel listener command limit state count
  have heard : Heard table.workers ran.notices :=
    heard_passes kernel listener command limit state count fresh
  refine ⟨?_, ?_, ?_, fun worker flags between limit told =>
    ⟨worker.not_ended_of_lineTooLong kernel between told,
      (worker.alike_attend kernel flags between).muted⟩⟩
  · intro index worker found
    exact ⟨sound.slot_of_worker found, mute_of_muted sound found⟩
  · intro pid
    by_cases tracked : pid ∈ table.workers.map (·.pid)
    · obtain ⟨own, member, rfl⟩ := List.mem_map.mp tracked
      obtain ⟨past, present, parts, served, serving⟩ := heard.present own member
      refine ⟨past, present, parts, fun tenure old => ?_, ?_, fun outside => absurd tracked outside⟩
      · exact ⟨served tenure old, (served tenure old).countP_mutes⟩
      · intro worker listed same
        obtain rfl : worker = own := List.inj_on_of_nodup_map heard.distinct listed member same
        exact ⟨serving, Serving.countP_mutes serving⟩
    · obtain ⟨past, present, parts, served, nothing⟩ := heard.absent pid tracked
      refine ⟨past, present, parts, fun tenure old => ?_, ?_, fun _ => nothing⟩
      · exact ⟨served tenure old, (served tenure old).countP_mutes⟩
      · rintro worker listed rfl
        exact absurd (List.mem_map_of_mem listed) tracked
  · intro passed early before table worker member muted
    have earlier := heard_passes kernel listener command limit state passed
      fun past sooner => fresh past (by omega)
    exact tick_of_muted kernel (lockstep_passes kernel listener command limit state passed)
      earlier.distinct (fresh passed early) member muted

def failingPipe : Stage ReadScript where
  source := { queue := [.error (.numbered Errno.isDirectory), .ok [116, 104]] }
  running := 2
  clients := 1

def failingRun (count : Nat) : Ran (Stage ReadScript) :=
  passes (Kernel.ofReader ReadScript.read)
    (.new smallListener { text := "printf" } { workers := 4 }) failingPipe count

theorem distinct_of_failingRun (passed : Nat) (early : passed ≤ 4) :
    Distinct (failingRun passed).supervisor.table.workers := by
  obtain rfl | rfl | rfl | rfl | rfl :
      passed = 0 ∨ passed = 1 ∨ passed = 2 ∨ passed = 3 ∨ passed = 4 := by omega
  all_goals exact ⟨by decide +kernel, by decide +kernel⟩

theorem muted_worker_tells_its_rest_at_exit :
    (failingRun 2).supervisor.table.workers.map (fun worker => (worker.pid, worker.muted)) =
      [(70, true)] ∧
    reportsOf 70 (failingRun 3).notices = reportsOf 70 (failingRun 2).notices ∧
    reportsOf 70 (failingRun 4).notices =
      [.created "", .forwardFailed (.read (.numbered Errno.isDirectory)),
        .line { bytes := [116, 104], terminated := false }, .exited 0] ∧
    ∃ asking ∈ askingsFrom (Kernel.ofReader ReadScript.read)
        (failingRun 3).supervisor.table.length 0 (failingRun 3).supervisor.table
        (failingRun 3).state,
      LeftAlone (Kernel.ofReader ReadScript.read) asking.worker asking.before
        ((failingRun 3).supervisor.tick (Kernel.ofReader ReadScript.read) (failingRun 3).state) := by
  have fresh := numbersFresh_of_distinct (Kernel.ofReader ReadScript.read) smallListener
    { text := "printf" } { workers := 4 } failingPipe 4 distinct_of_failingRun
  obtain ⟨_, _, alone, _⟩ := muting_is_final (Kernel.ofReader ReadScript.read) smallListener
    { text := "printf" } { workers := 4 } failingPipe 4 fresh
  refine ⟨by decide +kernel, by decide +kernel, by decide +kernel, ?_⟩
  have muted : (failingRun 3).supervisor.table.workers.map (·.muted) = [true] := by decide +kernel
  obtain ⟨worker, same, muted⟩ := List.map_eq_singleton_iff.mp muted
  have member : worker ∈ (failingRun 3).supervisor.table.workers := by simp [same]
  obtain ⟨asking, listed, rfl, left⟩ := alone 3 (by decide) worker member muted
  exact ⟨asking, listed, left⟩

/-- Without a wait that finds its exit a muted worker leaves without it, and what is in its pipe is
not read. -/
theorem unwaited_muted_worker_leaves_unheard :
    (passes stolen (.new smallListener { text := "printf" } { workers := 4 })
        { failingPipe with running := 1 } 2).supervisor.table.workers.map
          (fun worker => (worker.pid, worker.muted)) = [(70, true)] ∧
    (passes stolen (.new smallListener { text := "printf" } { workers := 4 })
        { failingPipe with running := 1 } 3).supervisor.table.workers = [] ∧
    (passes stolen (.new smallListener { text := "printf" } { workers := 4 })
        { failingPipe with running := 1 } 3).notices.filterMap (·.event?) =
      [.created 70 "", .forwardFailed 70 "Is a directory (os error 21)"] := by
  refine ⟨by decide +kernel, by decide +kernel, by decide +kernel⟩

end Supervisor

end Superserver
