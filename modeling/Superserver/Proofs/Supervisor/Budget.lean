import Superserver.Proofs.Supervisor.Atomicity
import Superserver.Proofs.Supervisor.Ownership

/-!
The descriptors that an admission needs. Main statement: with `k` workers tracked it has up to
`k + 8` files open, and all of them when it starts the process. A limit made from a number of
descriptors leaves that many for each worker if the number is nine or more; below it the last worker
of the limit may be refused, and below eight none can be started at all.
-/

namespace Superserver

namespace Call

def wants : Call → Nat
  | .accept .. | .duplicate .. => 1
  | .pipe _ => 2
  | _ => 0

/-- Whether a call was refused because too many descriptors are open. -/
def lacks : Call → Bool
  | .accept _ (.error error) | .pipe (.error error) | .duplicate _ (.error error) =>
      error.number? == some Errno.tooManyDescriptors
  | _ => false

def isSpawn : Call → Bool
  | .spawn .. => true
  | _ => false

theorem length_opened_le (call : Call) : call.opened.length ≤ call.wants := by
  cases call with
  | accept listener answer => cases answer <;> simp [opened, wants]
  | pipe answer => cases answer <;> simp [opened, wants]
  | duplicate descriptor answer => cases answer <;> simp [opened, wants]
  | _ => exact Nat.le_refl 0

end Call

open Call

/-- The files that are open: the standard streams and what is held. -/
def filesOpen (held : Multiset Descriptor) : Nat := 3 + held.card

/-- Whether calls are refused for lack of descriptors only where they ask for too many. -/
def refusesBeyond (openFiles : Nat) : Multiset Descriptor → List Call → Bool :=
  throughout fun held call =>
    !call.lacks || decide (openFiles < filesOpen held + call.wants)

/-- Whether at no time too many files are open. -/
def staysWithin (openFiles : Nat) : Multiset Descriptor → List Call → Bool :=
  throughout fun held call => decide (filesOpen held + call.opened.length ≤ openFiles)

def wantedIn (calls : List Call) : Nat := (calls.map wants).sum

/-! ### What the calls of an admission ask for -/

@[simp] theorem wantedIn_nil : wantedIn [] = 0 := rfl

@[simp] theorem wantedIn_cons (call : Call) (calls : List Call) :
    wantedIn (call :: calls) = call.wants + wantedIn calls := List.sum_cons

@[simp] theorem wantedIn_append (first second : List Call) :
    wantedIn (first ++ second) = wantedIn first + wantedIn second := by
  simp [wantedIn]

theorem length_openedIn_le (calls : List Call) : (openedIn calls).length ≤ wantedIn calls := by
  induction calls with
  | nil => exact Nat.le_refl 0
  | cons call calls ih =>
      have first := call.length_opened_le
      rw [openedIn_cons, List.length_append, wantedIn_cons]
      omega

theorem wantedIn_of_plain {calls : List Call} (plain : ∀ call ∈ calls, call.isPlain = true) :
    wantedIn calls = 0 := by
  induction calls with
  | nil => rfl
  | cons call calls ih =>
      have first := plain call List.mem_cons_self
      rw [wantedIn_cons, ih fun other member => plain other (List.mem_cons_of_mem _ member)]
      cases call <;> first | rfl | cases first

theorem spawnless_of_setup {calls : List Call} (setup : calls.all isSetup = true) :
    calls.any isSpawn = false := by
  apply List.any_eq_false.mpr
  intro call member
  have setup := List.all_eq_true.mp setup call member
  cases call <;> first | exact Bool.false_ne_true | cases setup

namespace Supervisor

open Kernel ProcessTable

theorem wantedIn_inert {calls : List Call} (modes : Inert calls) : wantedIn calls = 0 :=
  wantedIn_of_plain fun call member => Call.isPlain_of_isInert (modes call member)

theorem wantedIn_piping {calls : List Call}
    {ends : Except SystemError (Descriptor × Descriptor)} (piping : Piping calls ends) :
    wantedIn calls = 2 := by
  cases piping with
  | refused => rfl
  | undone modes => simp [wantedIn_inert modes, wants]
  | opened modes => simp [wantedIn_inert modes, wants]

theorem wantedIn_accepting {listener : Descriptor} {calls : List Call}
    {arrival : Except SystemError (Descriptor × PeerAddress)}
    (accepting : Accepting listener calls arrival) : wantedIn calls = 1 := by
  cases accepting with
  | refused => rfl
  | dropped modes => simp [wantedIn_inert modes, wants]
  | accepted modes => simp [wantedIn_inert modes, wants]

theorem wantedIn_beginning_le {connection : Descriptor} {remote : String}
    {table grown : ProcessTable}
    {calls : List Call} {notices : List Notice} {outcome : Except AdmissionError Worker}
    (beginning : Beginning connection remote table calls notices outcome grown) :
    wantedIn calls ≤ 3 := by
  cases beginning with
  | pipeless piping => simp [wantedIn_piping piping, wants]
  | roomless piping => simp [wantedIn_piping piping, wants]
  | uncopied piping => simp [wantedIn_piping piping, wants]
  | unstarted piping => simp [wantedIn_piping piping, wants]
  | started piping => simp [wantedIn_piping piping, wants]

theorem wantedIn_admitting_le {listener : Descriptor} {table after : ProcessTable}
    {calls : List Call} {later : List Notice} {outcome : Except TickError Bool}
    (admitting : Admitting listener table calls later outcome after) : wantedIn calls ≤ 4 := by
  cases admitting with
  | ignored accepting | failed accepting => simp [wantedIn_accepting accepting]
  | refused accepting beginning | admitted accepting beginning =>
      have rest := wantedIn_beginning_le beginning
      have first := wantedIn_accepting accepting
      rw [wantedIn_append]
      omega

theorem before_of_unique {α : Type} {check : α → Bool} {front tail before behind : List α}
    {first second : α} (same : front ++ first :: tail = before ++ second :: behind)
    (earlier : front.any check = false) (later : tail.any check = false)
    (hit : check second = true) : before = front := by
  rcases split_of_append same with ⟨lately, rfl, rest⟩ | ⟨others, rfl⟩
  · cases lately with
    | nil => rw [List.append_nil]
    | cons item lately =>
        cases rest
        simp [hit] at later
  · simp [hit] at earlier

theorem spawn_of_beginning {connection : Descriptor} {remote : String}
    {table grown : ProcessTable}
    {calls : List Call} {notices : List Notice} {outcome : Except AdmissionError Worker}
    (beginning : Beginning connection remote table calls notices outcome grown) :
    calls.any isSpawn = false ∨
      ∃ front ends input request answer tail, Piping front (.ok ends) ∧
        calls = front ++ .duplicate connection (.ok input) :: .spawn request answer :: tail ∧
        tail.any isSpawn = false := by
  cases beginning with
  | pipeless piping | roomless piping | uncopied piping =>
      left
      rw [List.any_append, spawnless_of_setup piping.setup]
      rfl
  | unstarted piping | started piping => exact .inr ⟨_, _, _, _, _, _, piping, rfl, rfl⟩

/-- When the process is started, all that the admission opens is open. -/
theorem opened_before_spawn {listener : Descriptor} {table after : ProcessTable}
    {before behind : List Call} {later : List Notice} {outcome : Except TickError Bool}
    {request : SpawnRequest} {answer : Except SystemError Pid}
    (admitting : Admitting listener table (before ++ .spawn request answer :: behind) later
      outcome after) :
    (openedIn before).length = 4 ∧ closedIn before = [] := by
  have hit : isSpawn (.spawn request answer) = true := rfl
  have some_spawn : (before ++ .spawn request answer :: behind).any isSpawn = true := by
    simp [hit]
  generalize whole : before ++ .spawn request answer :: behind = calls at admitting some_spawn
  cases admitting with
  | ignored accepting | failed accepting =>
      cases some_spawn.symm.trans (spawnless_of_setup accepting.setup)
  | @refused taken _ connection _ _ _ _ accepting beginning
  | @admitted taken _ connection _ _ _ _ accepting beginning =>
      have first := spawnless_of_setup accepting.setup
      rcases spawn_of_beginning beginning with never |
        ⟨front, ends, input, asked, came, tail, piping, rfl, rest⟩
      · rw [List.any_append, first, never] at some_spawn
        cases some_spawn
      · -- There is one start in an admission, so what comes before it is known.
        have copied := opens_one (rfl : (Call.duplicate connection (.ok input)).closed = [])
        have opens := ((opens_accepting accepting).append (opens_piping piping)).append copied
        have earlier :
            (taken ++ front ++ [Call.duplicate connection (.ok input)]).any isSpawn = false := by
          rw [List.any_append, List.any_append, first, spawnless_of_setup piping.setup]
          rfl
        have same := before_of_unique (by simpa using whole.symm) earlier rest hit
        rw [same, opens.opened, opens.closed]
        exact ⟨rfl, rfl⟩

/-! ### What is open during one pass -/

section

variable {σ : Type} {kernel : Kernel σ} {listener : Descriptor} {supervisor : Supervisor}
  {before : σ × List Call} {asked heard opens closes : List Call} {kept : List Descriptor}

theorem Phases.wantedIn_le
    (phases : Phases kernel supervisor before asked heard opens closes kept) :
    wantedIn (heard ++ (opens ++ closes)) ≤ 4 := by
  rw [wantedIn_append, wantedIn_of_plain phases.plain, Nat.zero_add]
  have ends := phases.ends
  generalize opens ++ closes = calls at ends ⊢
  cases ends with
  | shut => exact Nat.zero_le 4
  | tried admitting => exact wantedIn_admitting_le admitting

/-- With what is asked for later, never more is open than a whole admission needs. -/
theorem Phases.filesOpen_le
    (phases : Phases kernel supervisor before asked heard opens closes kept)
    {earlier later : List Call} (split : heard ++ (opens ++ closes) = earlier ++ later)
    {held : Multiset Descriptor}
    (settled : holdings (named listener
      (supervisor.look kernel.transcribing before).reaped.table) earlier = some held) :
    filesOpen held + wantedIn later ≤
      (supervisor.look kernel.transcribing before).reaped.table.length + 8 := by
  -- At most what was asked for so far is open in addition, and closing only lowers it.
  have balance := congrArg Multiset.card (holdings_balance settled)
  have asks := phases.wantedIn_le
  have opened := length_openedIn_le earlier
  rw [split, wantedIn_append] at asks
  simp only [named, Multiset.card_add, Multiset.coe_card, Multiset.card_cons,
    List.length_map] at balance
  simp only [filesOpen, ProcessTable.length]
  omega

/-- When it starts the process, an admission has all of that open. -/
theorem Phases.filesOpen_at_spawn
    (phases : Phases kernel supervisor before asked heard opens closes kept)
    {earlier later : List Call} {request : SpawnRequest} {answer : Except SystemError Pid}
    (split : heard ++ (opens ++ closes) = earlier ++ .spawn request answer :: later)
    {held : Multiset Descriptor}
    (settled : holdings (named listener
      (supervisor.look kernel.transcribing before).reaped.table) earlier = some held) :
    (supervisor.look kernel.transcribing before).accepting = true ∧
      filesOpen held =
        (supervisor.look kernel.transcribing before).reaped.table.length + 8 := by
  have ends := phases.ends
  rcases split_of_append split with ⟨lately, rfl, rest⟩ | ⟨others, same⟩
  · generalize opens ++ closes = calls at ends rest
    cases ends with
    | shut => simp at rest
    | tried admitting _ _ accepting =>
        subst rest
        obtain ⟨four, none⟩ := opened_before_spawn admitting
        have hears := phases.hears
        refine ⟨accepting, ?_⟩
        rw [holdings_of_open (by rw [closedIn_append, hears.2, none]; rfl)] at settled
        cases settled
        simp only [openedIn_append, hears.1, List.nil_append, filesOpen, named,
          Multiset.card_add, Multiset.coe_card, four, Multiset.card_cons, List.length_map,
          ProcessTable.length]
        omega
  · -- Attention to the workers starts nobody.
    have plain := phases.plain (.spawn request answer) (by simp [same])
    cases plain

theorem Phases.holdings_prefix (listener : Descriptor)
    (phases : Phases kernel supervisor before asked heard opens closes kept)
    {earlier later : List Call} (split : heard ++ (opens ++ closes) = earlier ++ later) :
    ∃ held, holdings (named listener
      (supervisor.look kernel.transcribing before).reaped.table) earlier = some held := by
  have whole : holdings (named listener supervisor.table)
      (asked ++ (heard ++ (opens ++ closes))) = _ := phases.holdings_tick
  rw [holdings_append, phases.holdings_asked, Option.bind_some, split, holdings_append] at whole
  obtain ⟨held, settled, _⟩ := Option.bind_eq_some_iff.mp whole
  exact ⟨held, settled⟩

/-- If only calls for too many descriptors are refused, none is where all of that is allowed. -/
theorem Phases.lacks_nothing
    (phases : Phases kernel supervisor before asked heard opens closes kept) {openFiles : Nat}
    (refuses : refusesBeyond openFiles (named listener
      (supervisor.look kernel.transcribing before).reaped.table)
      (heard ++ (opens ++ closes)) = true)
    (enough : (supervisor.look kernel.transcribing before).reaped.table.length + 8 ≤
      openFiles) :
    ∀ call ∈ heard ++ (opens ++ closes), call.lacks = false := by
  intro call member
  obtain ⟨earlier, later, split⟩ := List.append_of_mem member
  obtain ⟨held, settled⟩ := phases.holdings_prefix listener split
  have few := phases.filesOpen_le split settled
  rw [split] at refuses
  have check := throughout_split refuses settled
  rw [Bool.or_eq_true, decide_eq_true_eq, Bool.not_eq_true'] at check
  rcases check with fine | beyond
  · exact fine
  · rw [wantedIn_cons] at few
    omega

/-- Where it is not allowed, no process is started. -/
theorem Phases.starts_nobody
    (phases : Phases kernel supervisor before asked heard opens closes kept) {openFiles : Nat}
    (within : staysWithin openFiles (named listener
      (supervisor.look kernel.transcribing before).reaped.table)
      (heard ++ (opens ++ closes)) = true)
    (few : openFiles < (supervisor.look kernel.transcribing before).reaped.table.length + 8) :
    ∀ call ∈ heard ++ (opens ++ closes), call.isSpawn = false := by
  intro call member
  obtain ⟨earlier, later, split⟩ := List.append_of_mem member
  obtain ⟨held, settled⟩ := phases.holdings_prefix listener split
  cases call with
  | spawn request answer =>
      obtain ⟨_, whole⟩ := phases.filesOpen_at_spawn split settled
      rw [split] at within
      have check := of_decide_eq_true (throughout_split within settled)
      omega
  | _ => rfl

end

/-! ### The limit made from a number of descriptors -/

theorem ofDescriptors_refuses_iff {ceiling openFiles : UInt64} (some_worker : ceiling ≠ 0) :
    AdmissionLimit.ofDescriptors ceiling openFiles = .error (.tooFewDescriptors openFiles) ↔
      openFiles.toNat < 6 := by
  rw [AdmissionLimit.ofDescriptors_tooFew_iff]
  simp [some_worker]

/-- Such a limit covers every admission within it just where nine descriptors are allowed, or eight
and one worker is the ceiling. -/
theorem covers_iff {ceiling openFiles : UInt64} {limit : AdmissionLimit}
    (made : AdmissionLimit.ofDescriptors ceiling openFiles = .ok limit) :
    (∀ others < limit.workers.toNat, others + 8 ≤ openFiles.toNat) ↔
      9 ≤ openFiles.toNat ∨ openFiles.toNat = 8 ∧ ceiling.toNat = 1 := by
  obtain ⟨some_worker, workers⟩ := AdmissionLimit.workers_of_ofDescriptors made
  constructor
  · intro covers
    have last := covers (limit.workers.toNat - 1) (by omega)
    omega
  · intro roomy others within
    omega

/-! ### Whole runs -/

theorem startedIn_of_quiet {calls : List Call} (quiet : ∀ call ∈ calls, call.isSpawn = false) :
    startedIn calls = [] := by
  apply List.filterMap_eq_nil_iff.mpr
  intro call member
  have quiet := quiet call member
  cases call <;> first | rfl | cases quiet

section

variable {σ : Type} (kernel : Kernel σ)

/-- With fewer than eight descriptors no worker is ever started. -/
theorem nobody_started (listener : Listener) (command : ShellCommand) (limit : AdmissionLimit)
    (state : σ) (count : Nat) {openFiles : Nat} (few : openFiles < 8) :
    let ran := passes kernel.transcribing (.new listener command limit) (state, []) count
    staysWithin openFiles {listener.descriptor} ran.state.2 = true →
      startedIn ran.state.2 = [] := by
  induction count with
  | zero =>
      intro ran within
      rfl
  | succ count ih =>
      intro ran within
      have sound : Lockstep listener.descriptor _ :=
        lockstep_passes kernel.transcribing listener command limit (state, []) count
      have held := holdings_passes kernel listener command limit state count
      obtain ⟨asked, heard, opens, closes, kept, phases⟩ := tick_phases kernel sound
        (passes kernel.transcribing (.new listener command limit) (state, []) count).state
      have last : ran.state.2 = _ := phases.written
      rw [last] at within
      obtain ⟨first, rest⟩ := throughout_rest within held
      obtain ⟨_, rest⟩ := throughout_rest rest phases.holdings_asked
      have quiet := startedIn_of_quiet (phases.starts_nobody rest (by omega))
      have looked := look_writes kernel
        (passes kernel.transcribing (.new listener command limit) (state, []) count).supervisor
        (passes kernel.transcribing (.new listener command limit) (state, []) count).state
      have same := List.append_cancel_left (phases.polled.symm.trans looked)
      rw [last, startedIn_append, startedIn_append, ih first, quiet, same, startedIn_look]
      rfl

/-- An admission among `k` others needs `k + 8` files: never more are open, and as many are when it
starts the process. A limit made from a number of descriptors allows that for every worker within
it just if nine are allowed, or eight and one worker is the ceiling; where they are allowed no call
is refused for lack of descriptors, and where they are not no process is started. Yet only fewer
than six descriptors are refused as too few, and with six or seven nobody is ever started. -/
theorem admission_budget {ceiling openFiles : UInt64} {limit : AdmissionLimit}
    (made : AdmissionLimit.ofDescriptors ceiling openFiles = .ok limit)
    (listener : Listener) (command : ShellCommand) (state : σ) (count : Nat) :
    let initial : Supervisor := .new listener command limit
    let ran := passes kernel.transcribing initial (state, []) count
    let look := ran.supervisor.look kernel.transcribing ran.state
    let next := ran.supervisor.tick kernel.transcribing ran.state
    let calls := written look.answer.2 next.state
    let held := named listener.descriptor look.reaped.table
    let needed := look.reaped.table.length + 8
    (ran.seen Prod.fst = passes kernel initial state count ∧
      next.seen Prod.fst =
        (passes kernel initial state count).supervisor.tick kernel
          (passes kernel initial state count).state) ∧
    ((∀ others < limit.workers.toNat, others + 8 ≤ openFiles.toNat) ↔
      9 ≤ openFiles.toNat ∨ openFiles.toNat = 8 ∧ ceiling.toNat = 1) ∧
    (∀ fewer, AdmissionLimit.ofDescriptors ceiling fewer = .error (.tooFewDescriptors fewer) ↔
      fewer.toNat < 6) ∧
    holdings {listener.descriptor} look.answer.2.2 = some held ∧
    (∀ earlier later, calls = earlier ++ later →
      ∃ left, holdings held earlier = some left ∧ filesOpen left ≤ needed) ∧
    (∀ earlier request answer later, calls = earlier ++ .spawn request answer :: later →
      look.reaped.table.length < limit.workers.toNat ∧
        (holdings held earlier).map filesOpen = some needed) ∧
    (refusesBeyond openFiles.toNat {listener.descriptor} next.state.2 = true →
      needed ≤ openFiles.toNat → ∀ call ∈ calls, call.lacks = false) ∧
    (staysWithin openFiles.toNat {listener.descriptor} next.state.2 = true →
      (openFiles.toNat < needed → ∀ call ∈ calls, call.isSpawn = false) ∧
      (openFiles.toNat < 8 → startedIn next.state.2 = [])) := by
  intro initial ran look next calls held needed
  have sound : Lockstep listener.descriptor ran.supervisor.table :=
    lockstep_passes kernel.transcribing listener command limit (state, []) count
  have same : ran.seen Prod.fst = passes kernel initial state count :=
    passes_shows kernel.transcribing_shows initial (state, []) count
  have limited : ran.supervisor.limit = limit :=
    limit_passes kernel.transcribing initial (state, []) count
  have settled := holdings_passes kernel listener command limit state count
  obtain ⟨asked, heard, opens, closes, kept, phases⟩ := tick_phases kernel sound ran.state
  have pass : calls = heard ++ (opens ++ closes) := phases.written_polled
  have asking : holdings (named listener.descriptor ran.supervisor.table) asked = some held :=
    phases.holdings_asked
  have last : next.state.2 = _ := phases.written
  have some_worker : ceiling ≠ 0 := by
    rintro rfl
    cases made
  refine ⟨⟨same, ?_⟩, covers_iff made, fun fewer => ofDescriptors_refuses_iff some_worker, ?_,
    ?_, ?_, ?_, ?_⟩
  · rw [← same]
    exact tick_shows kernel.transcribing_shows ran.supervisor ran.state
  · have polled : look.answer.2.2 = ran.state.2 ++ asked := phases.polled
    rw [polled, holdings_append, settled]
    exact asking
  · intro earlier later split
    obtain ⟨left, remains⟩ := phases.holdings_prefix listener.descriptor (pass.symm.trans split)
    have few := phases.filesOpen_le (pass.symm.trans split) remains
    exact ⟨left, remains, Nat.le_trans (Nat.le_add_right _ _) few⟩
  · intro earlier request answer later split
    obtain ⟨left, remains⟩ := phases.holdings_prefix listener.descriptor (pass.symm.trans split)
    obtain ⟨accepting, whole⟩ := phases.filesOpen_at_spawn (pass.symm.trans split) remains
    have room : look.reaped.table.length < ran.supervisor.limit.workers.toNat :=
      of_decide_eq_true accepting
    refine ⟨limited ▸ room, ?_⟩
    rw [remains]
    exact congrArg some whole
  · intro refuses enough
    rw [last] at refuses
    have rest := (throughout_rest (throughout_rest refuses settled).2 asking).2
    rw [pass]
    exact phases.lacks_nothing rest enough
  · intro within
    constructor
    · intro few
      rw [last] at within
      have rest := (throughout_rest (throughout_rest within settled).2 asking).2
      rw [pass]
      exact phases.starts_nobody rest few
    · intro few
      exact nobody_started kernel listener command limit state (count + 1) few within

end

/-- A system that has room for one more descriptor after the listener's, but not for a pipe. -/
def sixDescriptors : Kernel (Stage ReadScript) :=
  { Kernel.ofReader ReadScript.read with
    pipe := fun stage => (.error (.numbered Errno.tooManyDescriptors), stage) }

theorem six_descriptors_start_nobody :
    let initial : Supervisor := .new smallListener { text := "printf" } { workers := 1 }
    let clients : Stage ReadScript := { source := {}, clients := 1 }
    let next := initial.tick sixDescriptors.transcribing (clients, [])
    let look := initial.look freshNumbers.transcribing (clients, [])
    let roomy := initial.tick freshNumbers.transcribing (clients, [])
    AdmissionLimit.ofDescriptors 8 6 = .ok { workers := 1 } ∧
      ¬(∀ others < 1, others + 8 ≤ 6) ∧
      next.outcome =
        .error (.admission "" (.pipe (.numbered Errno.tooManyDescriptors))) ∧
      refusesBeyond 6 {smallListener.descriptor} next.state.2 = true ∧
      startedIn next.state.2 = [] ∧
      AdmissionLimit.ofDescriptors 1 8 = .ok { workers := 1 } ∧
      startedIn roomy.state.2 = [70] ∧
      ∀ call ∈ written look.answer.2 roomy.state, call.lacks = false := by
  intro initial clients next look roomy
  have six := admission_budget sixDescriptors
    (by decide : AdmissionLimit.ofDescriptors 8 6 = .ok { workers := 1 }) smallListener
    { text := "printf" } clients 0
  have eight := admission_budget freshNumbers
    (by decide : AdmissionLimit.ofDescriptors 1 8 = .ok { workers := 1 }) smallListener
    { text := "printf" } clients 0
  have uncovered := mt six.2.1.mp (by decide)
  have nobody := (six.2.2.2.2.2.2.2 (by decide +kernel)).2 (by decide)
  have fine := eight.2.2.2.2.2.2.1 (by decide +kernel) (by decide +kernel)
  exact ⟨by decide, uncovered, by decide +kernel, by decide +kernel, nobody, by decide,
    by decide +kernel, fine⟩

end Supervisor

end Superserver
