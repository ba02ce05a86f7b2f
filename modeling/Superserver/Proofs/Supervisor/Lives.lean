import Superserver.Proofs.Diagnostics.Solo
import Superserver.Proofs.Supervisor.Atomicity

/-!
What the calls of a run say about one process. Main statement: nothing but the calls about a worker
itself changes what is said about it, and from those alone the machine of one worker reports what
supervision reports.
-/

namespace Superserver

def foundAt (descriptor : Descriptor) (slots : List PollSlot) (flags : List PollFlags) :
    Option PollFlags :=
  let watched := slots.map (·.descriptor)
  if (descriptor : Int) ∈ watched then
    some (flags.getD (watched.idxOf (descriptor : Int)) PollFlags.none)
  else none

/-- A process from its start on: the label of its client and what was said about it. -/
structure Life where
  remote : String
  impulses : List Impulse := []
deriving DecidableEq

namespace Life

def told (life : Life) (impulses : List Impulse) : Life :=
  { life with impulses := life.impulses ++ impulses }

def events (pid : Pid) (life : Life) : List Event :=
  .created pid life.remote :: (Solo.run life.impulses).1.filterMap (·.event? pid)

end Life

structure Presence where
  pipe : Descriptor
  life : Life
  /-- Whether waiting for it is over, so that closing its pipe ends its life. -/
  leaving : Bool := false

def stillRuns : Except SystemError (Option Int) → Bool
  | .ok none => true
  | _ => false

namespace Presence

def told (presence : Presence) (impulses : List Impulse) : Presence :=
  { presence with life := presence.life.told impulses }

def after (pid : Pid) (presence : Presence) : Call → Presence
  | .wait other answer =>
      if other = pid then
        { presence.told [.waited answer] with leaving := !stillRuns answer }
      else presence
  | .read descriptor answer =>
      if descriptor = presence.pipe then presence.told [.read answer] else presence
  | .poll slots _ (.ok flags) =>
      presence.told ((foundAt presence.pipe slots flags).map .found).toList
  | _ => presence

end Presence

structure Sight where
  made : Descriptor := 0
  past : List Life := []
  now : Option Presence := none

namespace Sight

def lives (sight : Sight) : List Life := sight.past ++ (sight.now.map (·.life)).toList

def after (pid : Pid) (sight : Sight) : Call → Sight
  | .pipe (.ok ends) => { sight with made := ends.1 }
  | .spawn request (.ok other) =>
      if other = pid then
        { sight with
          past := sight.lives
          now := some { pipe := sight.made, life := { remote := request.remote } } }
      else sight
  -- The pipe is kept until the process was waited for: closing it any earlier says nothing.
  | .close descriptor =>
      if sight.now.any fun presence => presence.leaving && presence.pipe == descriptor then
        { sight with past := sight.lives, now := none }
      else sight
  | call => { sight with now := sight.now.map (·.after pid call) }

def afterAll (pid : Pid) (sight : Sight) (calls : List Call) : Sight :=
  calls.foldl (after pid) sight

end Sight

/-- The lives of the processes with one number, one after the other. -/
def livesOf (pid : Pid) (calls : List Call) : List Life := (Sight.afterAll pid {} calls).lives

open Solo (ofWorker resume run)

namespace Sight

variable {pid : Pid} {sight : Sight} {calls : List Call}

@[simp] theorem afterAll_nil (pid : Pid) (sight : Sight) : sight.afterAll pid [] = sight := rfl

@[simp] theorem afterAll_cons (pid : Pid) (sight : Sight) (call : Call) (calls : List Call) :
    sight.afterAll pid (call :: calls) = (sight.after pid call).afterAll pid calls := rfl

@[simp] theorem afterAll_append (pid : Pid) (sight : Sight) (first second : List Call) :
    sight.afterAll pid (first ++ second) = (sight.afterAll pid first).afterAll pid second :=
  List.foldl_append

theorem afterAll_of_still (still : ∀ call ∈ calls, sight.after pid call = sight) :
    sight.afterAll pid calls = sight := by
  induction calls with
  | nil => rfl
  | cons call calls ih =>
      rw [afterAll_cons, still call List.mem_cons_self]
      exact ih fun other member => still other (List.mem_cons_of_mem _ member)

theorem after_of_inert {call : Call} (mode : call.isInert = true) (pid : Pid) (sight : Sight) :
    sight.after pid call = sight := by
  obtain ⟨made, past, now⟩ := sight
  cases call <;> first | (cases now <;> rfl) | cases mode

theorem afterAll_reads (pid : Pid) (made : Descriptor) (past : List Life) (presence : Presence)
    (answers : List (Except SystemError Bytes)) :
    Sight.afterAll pid { made, past, now := some presence }
        (answers.map (.read presence.pipe)) =
      { made, past, now := some (presence.told (answers.map .read)) } := by
  induction answers generalizing presence with
  | nil => simp [Presence.told, Life.told]
  | cons answer answers ih =>
      have first : Sight.after pid { made, past, now := some presence }
          (.read presence.pipe answer) =
          { made, past, now := some (presence.told [.read answer]) } := by
        simp [after, Presence.after]
      rw [List.map_cons, afterAll_cons, first]
      have rest := ih (presence.told [.read answer])
      simpa [Presence.told, Life.told] using rest

end Sight

theorem writes_of_answers {σ : Type} {kernel : Kernel σ} {descriptor : Descriptor}
    {before after : σ × List Call} {answers : List (Except SystemError Bytes)}
    (given : Answers kernel.transcribing descriptor before answers after) :
    after.2 = before.2 ++ answers.map (.read descriptor) := by
  induction given with
  | none => simp
  | @read state middle after answers answer read _ ih =>
      have first : middle.2 = state.2 ++ [.read descriptor (answer.map (·.val))] := by
        cases read
        rfl
      rw [ih, first]
      simp

namespace Life

variable {life : Life} {worker : Worker} {impulses : List Impulse} {reports : List Report}
  {last : Solo}

theorem events_told (pid : Pid) (stands : (run life.impulses).2 = ofWorker worker)
    (resumes : ∀ earlier, resume (earlier, ofWorker worker) impulses =
      (earlier ++ reports, last)) :
    (life.told impulses).events pid = life.events pid ++ reports.filterMap (·.event? pid) ∧
      (run (life.told impulses).impulses).2 = last := by
  have whole : run (life.told impulses).impulses = ((run life.impulses).1 ++ reports, last) := by
    rw [told, Solo.run_append, ← resumes, ← stands]
  constructor
  · simp only [events, whole, List.filterMap_append]
    rfl
  · rw [whole]

end Life

namespace Supervisor

open Kernel ProcessTable

theorem eventsOf_own (pid : Pid) (reports : List Report) :
    eventsOf pid (reports.map (.worker pid)) = reports.filterMap (·.event? pid) := by
  induction reports with
  | nil => rfl
  | cons report reports ih =>
      rw [List.map_cons, ← List.singleton_append, eventsOf_append, eventsOf_singleton, ih]
      cases told : report.event? pid <;> simp [told]

/-! ### One process among the workers -/

inductive Standing (pid : Pid) (workers : List Worker) : Option Presence → Prop where
  | absent : pid ∉ workers.map (·.pid) → Standing pid workers none
  | present {worker : Worker} {life : Life} : worker ∈ workers → worker.pid = pid →
      worker.buffer.Settled → (run life.impulses).2 = ofWorker worker →
      Standing pid workers (some { pipe := worker.diagnostics, life })

/-- The events of a process are those of its lives alone. -/
structure Followed (pid : Pid) (workers : List Worker) (sight : Sight) (events : List Event) :
    Prop where
  standing : Standing pid workers sight.now
  told : events = sight.lives.flatMap (Life.events pid)

def Foreign (pid : Pid) (sight : Sight) (worker : Worker) : Prop :=
  worker.pid ≠ pid ∧ ∀ presence, sight.now = some presence → presence.pipe ≠ worker.diagnostics

section

variable {σ : Type} (kernel : Kernel σ) {pid : Pid} {sight : Sight}

theorem afterAll_of_foreign {worker : Worker} (foreign : Foreign pid sight worker)
    {calls : List Call}
    (about : ∀ call ∈ calls, (∃ answer, call = .wait worker.pid answer) ∨
      (∃ answer, call = .read worker.diagnostics answer) ∨ call = .close worker.diagnostics) :
    sight.afterAll pid calls = sight := by
  obtain ⟨different, apart⟩ := foreign
  obtain ⟨made, past, now⟩ := sight
  apply Sight.afterAll_of_still
  intro call member
  cases now with
  | none =>
      rcases about call member with ⟨answer, rfl⟩ | ⟨answer, rfl⟩ | rfl <;> rfl
  | some presence =>
      have apart := apart presence rfl
      rcases about call member with ⟨answer, rfl⟩ | ⟨answer, rfl⟩ | rfl
      · simp [Sight.after, Presence.after, different]
      · simp [Sight.after, Presence.after, Ne.symm apart]
      · simp [Sight.after, apart]

theorem all_still {α : Type} {items : List α} {calls : α → List Call}
    {notices : α → List Notice}
    (still : ∀ item ∈ items, sight.afterAll pid (calls item) = sight ∧
      eventsOf pid (notices item) = []) :
    sight.afterAll pid (items.flatMap calls) = sight ∧
      eventsOf pid (items.flatMap notices) = [] := by
  induction items with
  | nil => exact ⟨rfl, rfl⟩
  | cons item items ih =>
      obtain ⟨same, silent⟩ := still item List.mem_cons_self
      obtain ⟨rest, quiet⟩ := ih fun other member => still other (List.mem_cons_of_mem _ member)
      constructor
      · rw [List.flatMap_cons, Sight.afterAll_append, same, rest]
      · rw [List.flatMap_cons, eventsOf_append, silent, quiet]
        rfl

/-- Where only one item is about a process, the whole says what that item says. -/
theorem own_among {α : Type} {front back : List α} {own : α} {calls : α → List Call}
    {notices : α → List Notice} {left : Sight} (after : sight.afterAll pid (calls own) = left)
    (early : ∀ item ∈ front, sight.afterAll pid (calls item) = sight ∧
      eventsOf pid (notices item) = [])
    (late : ∀ item ∈ back, left.afterAll pid (calls item) = left ∧
      eventsOf pid (notices item) = []) :
    sight.afterAll pid ((front ++ own :: back).flatMap calls) = left ∧
      eventsOf pid ((front ++ own :: back).flatMap notices) = eventsOf pid (notices own) := by
  obtain ⟨stillBefore, silentBefore⟩ := all_still early
  obtain ⟨stillAfter, silentAfter⟩ := all_still late
  constructor
  · rw [List.flatMap_append, List.flatMap_cons, Sight.afterAll_append, Sight.afterAll_append,
      stillBefore, after, stillAfter]
  · rw [List.flatMap_append, List.flatMap_cons, eventsOf_append, eventsOf_append, silentBefore,
      silentAfter, List.append_nil, List.nil_append]

/-! ### Reaping -/

/-- Waiting for a worker, and draining it, reports what the machine reports from the answers. -/
theorem lastReports_solo {worker : Worker} (settled : worker.buffer.Settled)
    (before : σ × List Call) :
    ∃ answer answers, (lastReports kernel.transcribing worker before).2.2 =
        before.2 ++ .wait worker.pid answer :: answers.map (.read worker.diagnostics) ∧
      ((lastReports kernel.transcribing worker before).1 = none ∧ answer = .ok none ∧
          answers = [] ∨
        ∃ reports, (lastReports kernel.transcribing worker before).1 = some reports ∧
          stillRuns answer = false ∧
          ∀ earlier, resume (earlier, ofWorker worker) (.waited answer :: answers.map .read) =
            (earlier ++ reports, { phase := .gone })) := by
  have asked : (kernel.transcribing.wait worker.pid before).2.2 = before.2 ++
      [.wait worker.pid (kernel.transcribing.wait worker.pid before).1] := rfl
  rcases lastReports_cases kernel.transcribing worker before with ⟨after, waited, answer⟩ |
    ⟨status, between, reports, emptied, after, waited, drained, answer⟩ |
    ⟨error, after, waited, answer⟩
  · rw [waited] at asked
    rw [answer]
    exact ⟨.ok none, [], asked, .inl ⟨rfl, rfl, rfl⟩⟩
  · rw [waited] at asked
    obtain ⟨answers, given, resumes⟩ := Worker.drain_solo kernel.transcribing Worker.drainReads
      settled between status
    rw [drained] at given resumes
    have read := writes_of_answers given
    rw [answer]
    refine ⟨.ok (some status), answers, ?_, .inr ⟨_, rfl, rfl, resumes⟩⟩
    rw [read, asked]
    simp
  · rw [waited] at asked
    rw [answer]
    exact ⟨.error error, [], asked, .inr ⟨_, rfl, rfl, fun earlier => rfl⟩⟩

theorem asking_of_foreign {asking : Asking (σ × List Call)}
    (asked : lastReports kernel.transcribing asking.worker asking.before =
      (asking.last, asking.after))
    (foreign : Foreign pid sight asking.worker) :
    sight.afterAll pid asking.calls = sight ∧ eventsOf pid asking.notices = [] := by
  obtain ⟨answer, answers, calls⟩ := Asking.writes kernel asked
  constructor
  · apply afterAll_of_foreign foreign
    intro call member
    rw [calls] at member
    rcases List.mem_cons.mp member with rfl | member
    · exact .inl ⟨answer, rfl⟩
    · rcases List.mem_append.mp member with member | member
      · obtain ⟨given, _, rfl⟩ := List.mem_map.mp member
        exact .inr (.inl ⟨given, rfl⟩)
      · split at member
        · cases member
        · exact .inr (.inr (List.mem_singleton.mp member))
  · exact eventsOf_other (Ne.symm foreign.1) _

/-- The asking of a worker whose life goes on, or ends with what is told then. -/
theorem asking_of_own {asking : Asking (σ × List Call)}
    (asked : lastReports kernel.transcribing asking.worker asking.before =
      (asking.last, asking.after))
    (own : asking.worker.pid = pid) (settled : asking.worker.buffer.Settled)
    (made : Descriptor) (past : List Life) {life : Life}
    (stands : (run life.impulses).2 = ofWorker asking.worker) :
    ∃ last : Life, last.events pid = life.events pid ++ eventsOf pid asking.notices ∧
      (asking.stays = true ∧ (run last.impulses).2 = ofWorker asking.worker ∧
          Sight.afterAll pid
              { made, past, now := some { pipe := asking.worker.diagnostics, life } }
              asking.calls =
            { made, past, now := some { pipe := asking.worker.diagnostics, life := last } } ∨
        asking.stays = false ∧
          Sight.afterAll pid
              { made, past, now := some { pipe := asking.worker.diagnostics, life } }
              asking.calls = { made, past := past ++ [last], now := none }) := by
  obtain ⟨answer, answers, wrote, result⟩ := lastReports_solo kernel settled asking.before
  rw [asked] at wrote result
  have calls : asking.calls = (.wait asking.worker.pid answer ::
      answers.map (.read asking.worker.diagnostics)) ++
        if asking.stays then [] else [.close asking.worker.diagnostics] := by
    rw [Asking.calls, written_of_append wrote]
  rcases result with ⟨running, rfl, rfl⟩ | ⟨reports, ended, finished, resumes⟩
  · have running : asking.last = none := running
    have stays : asking.stays = true := by simp [Asking.stays, running]
    have resumes : ∀ earlier, resume (earlier, ofWorker asking.worker) [.waited (.ok none)] =
        (earlier ++ [], ofWorker asking.worker) := fun earlier => rfl
    obtain ⟨events, left⟩ := Life.events_told pid stands resumes
    refine ⟨life.told [.waited (.ok none)], ?_, .inl ⟨stays, left, ?_⟩⟩
    · rw [events, Asking.notices, running]
      rfl
    · rw [calls, stays]
      simp [Sight.after, Presence.after, Presence.told, own, stillRuns]
  · have ended : asking.last = some reports := ended
    have leaves : asking.stays = false := by simp [Asking.stays, ended]
    obtain ⟨events, _⟩ := Life.events_told pid stands resumes
    refine ⟨life.told (.waited answer :: answers.map .read), ?_, .inr ⟨leaves, ?_⟩⟩
    · rw [events, Asking.notices, ended, own]
      exact congrArg (_ ++ ·) (eventsOf_own pid reports).symm
    · have waited : Sight.after pid
          { made, past, now := some { pipe := asking.worker.diagnostics, life } }
          (.wait asking.worker.pid answer) =
          { made, past
            now := some
              { pipe := asking.worker.diagnostics, life := life.told [.waited answer]
                leaving := true } } := by
        simp [Sight.after, Presence.after, Presence.told, own, finished]
      rw [calls, leaves, List.cons_append, Sight.afterAll_cons, waited, Sight.afterAll_append,
        Sight.afterAll_reads]
      simp [Sight.after, Sight.lives, Presence.told, Life.told]

theorem apart_of_distinct {front back : List Worker} {worker : Worker}
    (distinct : Distinct (front ++ worker :: back)) :
    ∀ other ∈ front ++ back,
      other.pid ≠ worker.pid ∧ worker.diagnostics ≠ other.diagnostics := by
  obtain ⟨pids, descriptors⟩ := distinct.perm List.perm_middle
  rw [List.map_cons, List.nodup_cons] at pids descriptors
  intro other member
  constructor
  · intro same
    exact pids.1 (same ▸ List.mem_map_of_mem member)
  · intro same
    exact descriptors.1 (same ▸ List.mem_map_of_mem member)

theorem foreign_of_none {worker : Worker} (different : worker.pid ≠ pid)
    (nobody : sight.now = none) : Foreign pid sight worker :=
  ⟨different, fun presence present => by rw [nobody] at present; cases present⟩

theorem foreign_of_some {worker : Worker} {presence : Presence} (different : worker.pid ≠ pid)
    (somebody : sight.now = some presence) (apart : presence.pipe ≠ worker.diagnostics) :
    Foreign pid sight worker := by
  refine ⟨different, fun other present => ?_⟩
  cases somebody.symm.trans present
  exact apart

theorem outside_of_others {askings : List (Asking (σ × List Call))}
    (others : ∀ asking ∈ askings, asking.worker.pid ≠ pid) :
    pid ∉ ((askings.filter (·.stays)).map (·.worker)).map (·.pid) := by
  intro inside
  obtain ⟨worker, tracked, same⟩ := List.mem_map.mp inside
  obtain ⟨asking, member, rfl⟩ := List.mem_map.mp tracked
  exact others asking (List.mem_filter.mp member).1 same

/-- Reaping does to a process what its own asking does. -/
theorem Followed.reaped {askings : List (Asking (σ × List Call))} {events : List Event}
    (distinct : Distinct (askings.map (·.worker)))
    (asked : ∀ asking ∈ askings, lastReports kernel.transcribing asking.worker asking.before =
      (asking.last, asking.after))
    (followed : Followed pid (askings.map (·.worker)) sight events) :
    Followed pid ((askings.filter (·.stays)).map (·.worker))
      (sight.afterAll pid (askings.flatMap Asking.calls))
      (events ++ eventsOf pid (askings.flatMap Asking.notices)) := by
  obtain ⟨standing, told⟩ := followed
  obtain ⟨made, past, now⟩ := sight
  cases standing with
  | absent outside =>
      have others : ∀ asking ∈ askings, asking.worker.pid ≠ pid := by
        intro asking member same
        apply outside
        rw [← same]
        exact List.mem_map_of_mem (List.mem_map_of_mem member)
      have foreign : ∀ asking ∈ askings,
          Foreign pid { made, past, now := none } asking.worker :=
        fun asking member => foreign_of_none (others asking member) rfl
      obtain ⟨still, silent⟩ := all_still fun asking member =>
        asking_of_foreign kernel (asked asking member) (foreign asking member)
      rw [still, silent, List.append_nil]
      exact ⟨.absent (outside_of_others others), told⟩
  | @present worker life tracked own settled stands =>
      obtain ⟨asking, member, rfl⟩ := List.mem_map.mp tracked
      obtain ⟨front, back, rfl⟩ := List.append_of_mem member
      rw [List.map_append, List.map_cons] at distinct
      have apart : ∀ other ∈ front ++ back, other.worker.pid ≠ pid ∧
          asking.worker.diagnostics ≠ other.worker.diagnostics := by
        intro other member
        rw [← own]
        apply apart_of_distinct distinct
        rw [← List.map_append]
        exact List.mem_map_of_mem member
      have beside : ∀ (life : Life), ∀ other ∈ front ++ back, Foreign pid
          { made, past, now := some { pipe := asking.worker.diagnostics, life } }
          other.worker := by
        intro life other member
        exact foreign_of_some (apart other member).1 rfl (apart other member).2
      obtain ⟨last, events, after⟩ :=
        asking_of_own kernel (asked asking member) own settled made past stands
      -- Those asked before see the old life, those asked after it the new one, or none.
      have early := fun other (member : other ∈ front) =>
        asking_of_foreign kernel (asked other (List.mem_append_left _ member))
          (beside life other (List.mem_append_left _ member))
      have askedAfter : ∀ other ∈ back, lastReports kernel.transcribing other.worker
          other.before = (other.last, other.after) :=
        fun other member => asked other (by simp [member])
      rcases after with ⟨stays, left, after⟩ | ⟨leaves, after⟩
      · obtain ⟨calls, notices⟩ := own_among after early fun other member =>
          asking_of_foreign kernel (askedAfter other member)
            (beside last other (List.mem_append_right _ member))
        rw [calls, notices, told]
        refine ⟨.present ?_ own settled left, ?_⟩
        · apply List.mem_map_of_mem
          simp [stays]
        · simp [Sight.lives, events]
      · obtain ⟨calls, notices⟩ := own_among after early fun other member =>
          asking_of_foreign kernel (askedAfter other member)
            (foreign_of_none (apart other (List.mem_append_right _ member)).1 rfl)
        have removed : (front ++ asking :: back).filter (·.stays) =
            (front ++ back).filter (·.stays) := by
          simp [leaves]
        rw [calls, notices, told, removed]
        refine ⟨.absent (outside_of_others fun other member => (apart other member).1), ?_⟩
        simp [Sight.lives, events]

/-! ### Attention -/

theorem turn_of_foreign {turn : Turn (σ × List Call)} (apt : turn.Apt kernel.transcribing)
    (foreign : Foreign pid sight turn.worker) :
    sight.afterAll pid turn.calls = sight ∧ eventsOf pid turn.notices = [] := by
  obtain ⟨answers, _, calls, _⟩ := Turn.writes kernel apt
  constructor
  · apply afterAll_of_foreign foreign
    intro call listed
    rw [calls] at listed
    obtain ⟨answer, _, rfl⟩ := List.mem_map.mp listed
    exact .inr (.inl ⟨answer, rfl⟩)
  · exact eventsOf_other (Ne.symm foreign.1) _

/-- The turn of a worker for whose pipe a poll found something. A muted worker was not polled for
and is passed over. -/
theorem turn_of_own {turn : Turn (σ × List Call)} (apt : turn.Apt kernel.transcribing)
    (own : turn.worker.pid = pid) (settled : turn.worker.buffer.Settled)
    {found : Option PollFlags}
    (heard : found = if turn.worker.muted then none else some turn.flags)
    (passed : turn.worker.muted = true → turn.flags = PollFlags.none)
    (made : Descriptor) (past : List Life) {life : Life}
    (stands : (run life.impulses).2 = ofWorker turn.worker) :
    turn.left.buffer.Settled ∧ ∃ last : Life,
      last.events pid = life.events pid ++ eventsOf pid turn.notices ∧
      (run last.impulses).2 = ofWorker turn.left ∧
      Sight.afterAll pid
          { made, past
            now := some { pipe := turn.worker.diagnostics
                          life := life.told (found.map .found).toList } } turn.calls =
        { made, past, now := some { pipe := turn.worker.diagnostics, life := last } } := by
  have attends := apt.attends
  cases muted : turn.worker.muted with
  | true =>
      rw [muted, if_pos rfl] at heard
      rw [passed muted, attend_of_neither (by decide) (by decide)] at attends
      simp only [Prod.mk.injEq] at attends
      obtain ⟨attended, still⟩ := attends
      have left : turn.left = turn.worker := by rw [Turn.left, ← attended]; rfl
      have calls : turn.calls = [] := by simp [Turn.calls, written, still]
      have silent : turn.notices = [] := by rw [Turn.notices, ← attended]; rfl
      rw [left, calls, silent, heard]
      refine ⟨settled, life, ?_, stands, ?_⟩
      · exact (List.append_nil _).symm
      · simp [Life.told]
  | false =>
      rw [muted, if_neg Bool.false_ne_true] at heard
      obtain ⟨settledNext, answers, given, resumes⟩ :=
        Worker.attend_solo kernel.transcribing settled muted turn.flags turn.before
      rw [attends] at settledNext given resumes
      have calls : turn.calls = answers.map (.read turn.worker.diagnostics) :=
        written_of_append (writes_of_answers given)
      obtain ⟨events, left⟩ := Life.events_told pid stands resumes
      refine ⟨settledNext, life.told (.found turn.flags :: answers.map .read), ?_, left, ?_⟩
      · rw [events, Turn.notices, own, eventsOf_own]
      · have reads := Sight.afterAll_reads pid made past
          { pipe := turn.worker.diagnostics, life := life.told [.found turn.flags] } answers
        rw [calls, heard]
        simpa [Presence.told, Life.told] using reads

theorem Followed.unheeded {workers : List Worker} {events : List Event} {slots : List PollSlot}
    {timeout : Timeout} {answer : Except SystemError (List PollFlags)}
    (nothing : ∀ flags, answer = .ok flags → ∀ worker ∈ workers, ∀ found,
      foundAt worker.diagnostics slots flags = some found → found = PollFlags.none)
    (followed : Followed pid workers sight events) :
    Followed pid workers (sight.after pid (.poll slots timeout answer)) events := by
  obtain ⟨standing, told⟩ := followed
  obtain ⟨made, past, now⟩ := sight
  cases standing with
  | absent outside => cases answer <;> exact ⟨.absent outside, told⟩
  | @present worker life tracked own settled stands =>
      cases answer with
      | error error => exact ⟨.present tracked own settled stands, told⟩
      | ok flags =>
          have still : ∀ earlier, resume (earlier, ofWorker worker) [.found PollFlags.none] =
              (earlier ++ [], ofWorker worker) := by
            intro earlier
            cases muted : worker.muted <;>
              simp [resume, Solo.advance, Solo.step, Solo.find, ofWorker, muted, PollFlags.meets,
                PollFlags.none]
          obtain ⟨events, left⟩ := Life.events_told pid stands still
          cases found : foundAt worker.diagnostics slots flags with
          | none =>
              simp only [Sight.after, Option.map_some, Presence.after, found, Option.map_none,
                Option.toList_none, Presence.told, Life.told, List.append_nil]
              exact ⟨.present tracked own settled stands, told⟩
          | some flagsFound =>
              obtain rfl := nothing flags rfl worker tracked flagsFound found
              simp only [Sight.after, Option.map_some, Presence.after, found, Option.toList_some,
                Presence.told]
              refine ⟨.present tracked own settled left, ?_⟩
              rw [told]
              simp [Sight.lives, events]

/-- Attention does to a process what its own turn does. -/
theorem Followed.heeded {turns : List (Turn (σ × List Call))} {events : List Event}
    {slots : List PollSlot} {timeout : Timeout} {flags : List PollFlags}
    (distinct : Distinct (turns.map (·.worker)))
    (apt : ∀ turn ∈ turns, turn.Apt kernel.transcribing)
    (heard : ∀ turn ∈ turns, foundAt turn.worker.diagnostics slots flags =
      if turn.worker.muted then none else some turn.flags)
    (passed : ∀ turn ∈ turns, turn.worker.muted = true → turn.flags = PollFlags.none)
    (followed : Followed pid (turns.map (·.worker)) sight events) :
    Followed pid (turns.map Turn.left)
      ((sight.after pid (.poll slots timeout (.ok flags))).afterAll pid
        (turns.flatMap Turn.calls))
      (events ++ eventsOf pid (turns.flatMap Turn.notices)) := by
  obtain ⟨standing, told⟩ := followed
  obtain ⟨made, past, now⟩ := sight
  have pids : (turns.map Turn.left).map (·.pid) = (turns.map (·.worker)).map (·.pid) := by
    rw [List.map_map, List.map_map]
    exact List.map_congr_left fun turn member => (apt turn member).pid_left
  cases standing with
  | absent outside =>
      have foreign : ∀ turn ∈ turns, Foreign pid { made, past, now := none } turn.worker := by
        intro turn member
        refine foreign_of_none ?_ rfl
        intro same
        apply outside
        rw [← same]
        exact List.mem_map_of_mem (List.mem_map_of_mem member)
      obtain ⟨still, silent⟩ := all_still fun turn member =>
        turn_of_foreign kernel (apt turn member) (foreign turn member)
      have polled : Sight.after pid { made, past, now := none }
          (.poll slots timeout (.ok flags)) = { made, past, now := none } := rfl
      rw [polled, still, silent, List.append_nil]
      exact ⟨.absent (pids ▸ outside), told⟩
  | @present worker life tracked own settled stands =>
      obtain ⟨turn, member, rfl⟩ := List.mem_map.mp tracked
      obtain ⟨settledNext, last, events, left, after⟩ := turn_of_own kernel (apt turn member) own
        settled (heard turn member) (passed turn member) made past stands
      have same : turn.left.diagnostics = turn.worker.diagnostics :=
        (apt turn member).diagnostics_left
      have samePid : turn.left.pid = pid := ((apt turn member).pid_left).trans own
      have tracked : turn.left ∈ turns.map Turn.left := List.mem_map_of_mem member
      obtain ⟨front, back, rfl⟩ := List.append_of_mem member
      rw [List.map_append, List.map_cons] at distinct
      have foreign : ∀ {life : Life}, ∀ other ∈ front ++ back, Foreign pid
          { made, past, now := some { pipe := turn.worker.diagnostics, life } }
          other.worker := by
        intro life other member
        have apart : other.worker.pid ≠ turn.worker.pid ∧ _ :=
          apart_of_distinct distinct other.worker (by
            rw [← List.map_append]
            exact List.mem_map_of_mem member)
        exact foreign_of_some (own ▸ apart.1) rfl apart.2
      obtain ⟨calls, notices⟩ := own_among after
        (fun other member => turn_of_foreign kernel (apt other (List.mem_append_left _ member))
          (foreign other (List.mem_append_left _ member)))
        fun other member => turn_of_foreign kernel (apt other (by simp [member]))
          (foreign other (List.mem_append_right _ member))
      have polled : Sight.after pid
          { made, past, now := some { pipe := turn.worker.diagnostics, life } }
          (.poll slots timeout (.ok flags)) =
          { made, past
            now := some
              { pipe := turn.worker.diagnostics
                life := life.told
                  ((foundAt turn.worker.diagnostics slots flags).map .found).toList } } := rfl
      rw [polled, calls, notices, told, ← same]
      refine ⟨.present tracked samePid settledNext left, ?_⟩
      simp [Sight.lives, events]

end

end Supervisor

end Superserver
