import Superserver.Host.Kernel
import Superserver.Proofs.Supervisor.Ownership
import Superserver.Proofs.Supervisor.Waiting

/-!
How exits are noticed. A pass asks for every worker before its poll; an exit during a poll without a
limit of time shows in nothing but the worker's pipe. Main statement: the supervisor itself keeps no
write end of a pipe, so the exit goes unseen only while another process keeps one.
-/

namespace Superserver

/-! ### What the descriptors are ends of -/

/-- What a descriptor names. A pipe is known by the number of calls before it was opened. -/
inductive End where
  | other
  | reading (pipe : Nat)
  | writing (pipe : Nat)
deriving DecidableEq

abbrev Ends := List (Descriptor × End)

namespace Call

def ends (number : Nat) (held : Ends) : Call → Ends
  | .accept _ (.ok arrival) => [(arrival.1, .other)]
  | .pipe (.ok pair) => [(pair.1, .reading number), (pair.2, .writing number)]
  | .duplicate original (.ok copy) => [(copy, (held.lookup original).getD .other)]
  | _ => []

def wire (number : Nat) (held : Ends) (call : Call) : Ends :=
  match call with
  | .close descriptor => held.eraseP fun entry => descriptor == entry.1
  | call => call.ends number held ++ held

end Call

def wireFrom : (number : Nat) → Ends → List Call → Ends
  | _, held, [] => held
  | number, held, call :: calls => wireFrom (number + 1) (call.wire number held) calls

/-- The descriptors of the supervisor after some calls; at first there is the listener. -/
def wiring (listener : Descriptor) (calls : List Call) : Ends :=
  wireFrom 0 [(listener, .other)] calls

theorem map_fst_ends (number : Nat) (held : Ends) (call : Call) :
    (call.ends number held).map Prod.fst = call.opened := by
  cases call with
  | accept listener answer | pipe answer | duplicate original answer => cases answer <;> rfl
  | _ => rfl

theorem wire_of_open {call : Call} (stays : call.closed = []) (number : Nat) (held : Ends) :
    call.wire number held = call.ends number held ++ held := by
  cases call <;> first | rfl | cases stays

theorem map_fst_wire (number : Nat) {held : Ends} {call : Call} {left : Multiset Descriptor}
    (settled : call.settle (held.map Prod.fst : List Descriptor) = some left) :
    ((call.wire number held).map Prod.fst : List Descriptor) = left := by
  by_cases stays : call.closed = []
  · rw [settle_of_open stays] at settled
    cases settled
    rw [wire_of_open stays, List.map_append, map_fst_ends, Multiset.coe_add]
  · cases call with
    | close descriptor =>
        rw [Call.settle] at settled
        split at settled
        · cases settled
          rw [Multiset.coe_erase, List.erase_eq_eraseP, List.eraseP_map]
          rfl
        · cases settled
    | _ => exact absurd rfl stays

theorem wireFrom_append (number : Nat) (held : Ends) (first second : List Call) :
    wireFrom number held (first ++ second) =
      wireFrom (number + first.length) (wireFrom number held first) second := by
  induction first generalizing number held with
  | nil => rfl
  | cons call first ih =>
      rw [List.cons_append, wireFrom, ih, wireFrom, List.length_cons]
      congr 1
      omega

/-- The wired descriptors are those that are held. -/
theorem map_fst_wireFrom (number : Nat) {held : Ends} {calls : List Call}
    {left : Multiset Descriptor}
    (settled : holdings (held.map Prod.fst : List Descriptor) calls = some left) :
    ((wireFrom number held calls).map Prod.fst : List Descriptor) = left := by
  induction calls generalizing number held with
  | nil =>
      cases settled
      rfl
  | cons call calls ih =>
      rw [holdings_cons] at settled
      obtain ⟨middle, first, rest⟩ := Option.bind_eq_some_iff.mp settled
      rw [← map_fst_wire number first] at rest
      exact ih (number + 1) rest

theorem mem_wireFrom {number : Nat} {held : Ends} {calls : List Call} {entry : Descriptor × End}
    (member : entry ∈ wireFrom number held calls) :
    entry ∈ held ∨ ∃ call ∈ calls, ∃ count others, entry ∈ call.ends count others := by
  induction calls generalizing number held with
  | nil => exact .inl member
  | cons call calls ih =>
      rcases ih member with now | ⟨later, listed, opened⟩
      · by_cases stays : call.closed = []
        · rw [wire_of_open stays] at now
          rcases List.mem_append.mp now with new | old
          · exact .inr ⟨call, List.mem_cons_self .., number, held, new⟩
          · exact .inl old
        · cases call with
          | close descriptor => exact .inl (List.mem_of_mem_eraseP now)
          | _ => exact absurd rfl stays
      · exact .inr ⟨later, List.mem_cons_of_mem _ listed, opened⟩

/-! ### What the processes do -/

/-- What the processes beside the supervisor do, as far as it shows at its descriptors. -/
structure Processes (σ : Type) where
  ended : Pid → σ → Prop
  /-- Whether a process keeps the write end of the pipe that a descriptor reads. -/
  keeps : Pid → Descriptor → σ → Prop
  shown : Descriptor → σ → PollFlags

namespace Processes

variable {σ : Type} (processes : Processes σ)

/-- What a system promises at every moment: a process that has ended keeps nothing, and a pipe of
which nobody keeps the write end is hung up. -/
structure Obeys (held : Ends) (moment : σ) : Prop where
  gives_up : ∀ pid descriptor, processes.ended pid moment → ¬processes.keeps pid descriptor moment
  hangs_up : ∀ descriptor pipe, (descriptor, .reading pipe) ∈ held →
    (∀ other, (other, .writing pipe) ∉ held) → (∀ pid, ¬processes.keeps pid descriptor moment) →
      (processes.shown descriptor moment).meets PollFlags.hangUp = true

/-- Whether a poll goes on waiting. -/
def Silent (slots : List PollSlot) (moment : σ) : Prop :=
  ∀ slot ∈ slots, 0 ≤ slot.descriptor →
    processes.shown slot.descriptor.toNat moment = PollFlags.none

variable {processes}

theorem Obeys.keeper_of_silent {held : Ends} {slots : List PollSlot} {moment : σ}
    {descriptor : Descriptor} {pipe : Nat} (obeys : processes.Obeys held moment)
    (silent : processes.Silent slots moment)
    (watched : (descriptor : Int) ∈ slots.map (·.descriptor))
    (reads : (descriptor, .reading pipe) ∈ held) (closed : ∀ other, (other, .writing pipe) ∉ held) :
    ∃ keeper, ¬processes.ended keeper moment ∧ processes.keeps keeper descriptor moment := by
  obtain ⟨slot, listed, same⟩ := List.mem_map.mp watched
  have calm := silent slot listed (by omega)
  rw [same, Int.toNat_natCast] at calm
  have open_ : ¬∀ keeper, ¬processes.keeps keeper descriptor moment := by
    intro nobody
    have hung := obeys.hangs_up descriptor pipe reads closed nobody
    rw [calm] at hung
    cases hung
  obtain ⟨keeper, keeps⟩ := not_forall_not.mp open_
  refine ⟨keeper, ?_, keeps⟩
  intro gone
  exact obeys.gives_up keeper descriptor gone keeps

end Processes

namespace Supervisor

open Kernel ProcessTable

def ReadEndsOnly (listener : Descriptor) (held : Ends) : Prop :=
  ∀ entry ∈ held, entry = (listener, .other) ∨ ∃ pipe, entry.2 = .reading pipe

theorem pipe_of_beginning {connection : Descriptor} {remote : String}
    {table grown : ProcessTable} {calls : List Call} {notices : List Notice} {worker : Worker}
    (beginning : Beginning connection remote table calls notices (.ok worker) grown) :
    grown.workers = table.workers ∧
      ∃ writeEnd, .pipe (.ok (worker.diagnostics, writeEnd)) ∈ calls := by
  cases beginning with
  | @started _ ends _ _ _ _ _ piping made =>
      cases piping with
      | opened modes => exact ⟨(asides_of_reserveOne made).2, ends.2, by simp⟩

/-- Whoever is new after a pass has the read end of a pipe that the pass opened. -/
theorem pipe_of_ending {σ : Type} {listener : Descriptor} {look : Look σ} {sent : Forwarded σ}
    {last : List Call} {next : Ticked σ} (ending : Ending listener look sent last next)
    {worker : Worker} (tracked : worker ∈ next.supervisor.table.workers) :
    worker ∈ sent.table.workers ∨
      ∃ writeEnd, .pipe (.ok (worker.diagnostics, writeEnd)) ∈ last := by
  cases ending with
  | shut table => exact .inl (table ▸ tracked)
  | tried admitting =>
      generalize next.supervisor.table = after at admitting tracked
      cases admitting with
      | ignored | failed => exact .inl tracked
      | refused accepting beginning =>
          left
          cases beginning with
          | pipeless | roomless => exact tracked
          | uncopied _ made | unstarted _ made => exact (asides_of_reserveOne made).2 ▸ tracked
      | admitted accepting beginning =>
          obtain ⟨grown, writeEnd, opened⟩ := pipe_of_beginning beginning
          rcases List.mem_append.mp tracked with old | new
          · exact .inl (grown ▸ old)
          · obtain rfl := List.mem_singleton.mp new
            exact .inr ⟨writeEnd, List.mem_append_right _ opened⟩

theorem mem_openedIn {calls : List Call} {call : Call} {descriptor : Descriptor}
    (listed : call ∈ calls) (gives : descriptor ∈ call.opened) : descriptor ∈ openedIn calls :=
  List.mem_flatMap.mpr ⟨call, listed, gives⟩

theorem call_unique {calls : List Call} (apart : (openedIn calls).Nodup) {first second : Call}
    {descriptor : Descriptor} (listed : first ∈ calls) (other : second ∈ calls)
    (gives : descriptor ∈ first.opened) (givesToo : descriptor ∈ second.opened) :
    first = second := by
  induction calls with
  | nil => cases listed
  | cons call calls ih =>
      rw [openedIn_cons, List.nodup_append] at apart
      obtain ⟨_, rest, disjoint⟩ := apart
      rcases List.mem_cons.mp listed with here | later
      · rcases List.mem_cons.mp other with hereToo | laterToo
        · rw [here, hereToo]
        · rw [here] at gives
          exact absurd rfl (disjoint _ gives _ (mem_openedIn laterToo givesToo))
      · rcases List.mem_cons.mp other with hereToo | laterToo
        · rw [hereToo] at givesToo
          exact absurd rfl (disjoint _ givesToo _ (mem_openedIn later gives))
        · exact ih rest later laterToo

section

variable {σ : Type} {kernel : Kernel σ} {listener : Descriptor} {supervisor : Supervisor}
  {before : σ × List Call} {asked heard opens closes : List Call} {kept : List Descriptor}

theorem Phases.readEndsOnly
    (phases : Phases kernel supervisor before asked heard opens closes kept)
    (sound : Lockstep listener supervisor.table)
    (distinct : (named listener supervisor.table).Nodup)
    (fresh : givesFresh (named listener supervisor.table)
      (asked ++ (heard ++ (opens ++ closes))) = true)
    {number : Nat} {held : Ends}
    (wired : (held.map Prod.fst : List Descriptor) = named listener supervisor.table)
    (only : ReadEndsOnly listener held) :
    ReadEndsOnly listener (wireFrom number held (asked ++ (heard ++ (opens ++ closes)))) := by
  have apart := phases.apart distinct fresh
  have stays : ((wireFrom number held (asked ++ (heard ++ (opens ++ closes)))).map Prod.fst :
      List Descriptor) =
        named listener (supervisor.tick kernel.transcribing before).supervisor.table := by
    apply map_fst_wireFrom
    rw [wired]
    exact phases.holdings_tick
  intro entry member
  rcases mem_wireFrom member with old | ⟨call, listed, count, others, new⟩
  · exact only entry old
  · have gives : entry.1 ∈ call.opened := by
      rw [← map_fst_ends count others]
      exact List.mem_map_of_mem new
    have opened : openedIn (asked ++ (heard ++ (opens ++ closes))) = openedIn opens := by
      simp [phases.asks, phases.hears.1, phases.settles.closing]
    have given : entry.1 ∈ openedIn opens := opened ▸ mem_openedIn listed gives
    have once : (openedIn (asked ++ (heard ++ (opens ++ closes)))).Nodup :=
      opened ▸ (Multiset.nodup_add.mp apart).1
    -- What the pass opened and still holds is not what was held at its poll.
    have unnamed : entry.1 ∉ named listener
        (reap kernel.transcribing supervisor.table before).table :=
      Multiset.disjoint_left.mp (Multiset.nodup_add.mp apart).2.2 (Multiset.mem_coe.mpr given)
    have held : entry.1 ∈ named listener
        (supervisor.tick kernel.transcribing before).supervisor.table := by
      rw [← stays]
      exact Multiset.mem_coe.mpr (List.mem_map_of_mem member)
    rcases Multiset.mem_cons.mp held with first | held
    · exact absurd (first ▸ Multiset.mem_cons_self _ _) unnamed
    · obtain ⟨worker, tracked, same⟩ := List.mem_map.mp (Multiset.mem_coe.mp held)
      rcases pipe_of_ending phases.ends tracked with old | ⟨writeEnd, made⟩
      · have names := congrArg (List.map Prod.snd)
          (named_attended kernel.transcribing supervisor before sound)
        rw [List.map_map, List.map_map] at names
        have polled : entry.1 ∈ (reap kernel.transcribing supervisor.table before).table.workers.map
            (·.diagnostics) := by
          rw [← same]
          exact (congrArg (worker.diagnostics ∈ ·) names).mp (List.mem_map_of_mem old)
        exact absurd (Multiset.mem_cons_of_mem (Multiset.mem_coe.mpr polled)) unnamed
      · right
        have inside : Call.pipe (.ok (worker.diagnostics, writeEnd)) ∈
            asked ++ (heard ++ (opens ++ closes)) :=
          List.mem_append_right _ (List.mem_append_right _ made)
        obtain rfl := call_unique once listed inside gives (by simp [Call.opened, same])
        have differ : worker.diagnostics ≠ writeEnd := by
          have pair := (List.nodup_flatMap.mp once).1 _ inside
          simpa [Call.opened] using pair
        rcases List.mem_cons.mp new with first | second
        · exact ⟨count, congrArg Prod.snd first⟩
        · rw [List.mem_singleton.mp second] at same
          exact absurd same differ

end

/-! ### Who is asked for -/

section

variable {σ : Type} (kernel : Kernel σ)

/-- A pass waits for each of its workers before its poll, and only those found running stay. -/
theorem reap_waits (table : ProcessTable) (before : σ × List Call)
    (distinct : table.workers.Nodup) :
    let reaped := reap kernel.transcribing table before
    ∀ worker ∈ table.workers, ∃ answer, .wait worker.pid answer ∈ written before reaped.state ∧
      (worker ∈ reaped.table.workers ↔ answer = .ok none) := by
  intro reaped worker tracked
  obtain ⟨everyone, kept, _, answers⟩ := askingsFrom_spec kernel.transcribing table.length 0 table
    before (by simp [ProcessTable.length])
  have calls : written before reaped.state = _ :=
    written_of_append (reapFrom_writes kernel table.length 0 table before)
  have kept : reaped.table.workers = _ := kept
  rw [List.drop_zero] at everyone
  rw [List.take_zero, List.nil_append] at kept
  obtain ⟨asking, listed, rfl⟩ := List.mem_map.mp (everyone.mem_iff.mpr tracked)
  obtain ⟨answer, reads, stays, writes⟩ := lastReports_waits kernel asking.worker asking.before
  rw [answers asking listed] at stays writes
  refine ⟨answer, ?_, ?_⟩
  · rw [calls]
    refine List.mem_flatMap.mpr ⟨asking, listed, ?_⟩
    rw [Asking.calls, written_of_append writes]
    exact List.mem_append_left _ (List.mem_cons_self ..)
  · rw [← stays, kept]
    constructor
    · intro member
      obtain ⟨other, found, same⟩ := List.mem_map.mp member
      obtain ⟨here, rests⟩ := List.mem_filter.mp found
      obtain rfl := List.inj_on_of_nodup_map (everyone.nodup_iff.mpr distinct) here listed same
      exact Option.isNone_iff_eq_none.mp rests
    · intro rests
      exact List.mem_map_of_mem
        (List.mem_filter.mpr ⟨listed, Option.isNone_iff_eq_none.mpr rests⟩)

/-! ### Whole runs -/

theorem wiring_append (listener : Descriptor) (first second : List Call) :
    wiring listener (first ++ second) = wireFrom first.length (wiring listener first) second := by
  rw [wiring, wireFrom_append, Nat.zero_add]
  rfl

variable (listener : Listener) (command : ShellCommand) (limit : AdmissionLimit) (state : σ)
  (count : Nat)

theorem map_fst_wiring_passes :
    let ran := passes kernel.transcribing (.new listener command limit) (state, []) count
    ((wiring listener.descriptor ran.state.2).map Prod.fst : List Descriptor) =
      named listener.descriptor ran.supervisor.table :=
  map_fst_wireFrom 0 (holdings_passes kernel listener command limit state count)

theorem readEndsOnly_passes :
    let ran := passes kernel.transcribing (.new listener command limit) (state, []) count
    givesFresh {listener.descriptor} ran.state.2 = true →
      ReadEndsOnly listener.descriptor (wiring listener.descriptor ran.state.2) := by
  induction count with
  | zero =>
      intro ran fresh entry member
      exact .inl (List.mem_singleton.mp member)
  | succ count ih =>
      intro next fresh
      let ran := passes kernel.transcribing (.new listener command limit) (state, []) count
      have sound : Lockstep listener.descriptor ran.supervisor.table :=
        lockstep_passes kernel.transcribing listener command limit (state, []) count
      have held : holdings {listener.descriptor} ran.state.2 = some _ :=
        holdings_passes kernel listener command limit state count
      obtain ⟨asked, heard, opens, closes, kept, phases⟩ := tick_phases kernel sound ran.state
      have calls : next.state.2 = ran.state.2 ++ _ := phases.written
      rw [calls] at fresh ⊢
      obtain ⟨earlier, rest⟩ := throughout_rest fresh held
      have distinct := nodup_holdings (Multiset.nodup_singleton _) earlier held
      rw [wiring_append]
      exact phases.readEndsOnly sound distinct rest
        (map_fst_wiring_passes kernel listener command limit state count) (ih earlier)

/-- When a pass polls, the supervisor has read ends of pipes and no write end. -/
theorem wiring_at_poll :
    let ran := passes kernel.transcribing (.new listener command limit) (state, []) count
    let reaped := reap kernel.transcribing ran.supervisor.table ran.state
    givesFresh {listener.descriptor} reaped.state.2 = true →
      (named listener.descriptor ran.supervisor.table).Nodup ∧
      ReadEndsOnly listener.descriptor (wiring listener.descriptor reaped.state.2) ∧
      ∀ worker ∈ reaped.table.workers, ∃ pipe,
        (worker.diagnostics, .reading pipe) ∈ wiring listener.descriptor reaped.state.2 := by
  intro ran reaped fresh
  let asked := (askingsFrom kernel.transcribing ran.supervisor.table.length 0 ran.supervisor.table
    ran.state).flatMap Asking.calls
  have sound : Lockstep listener.descriptor ran.supervisor.table :=
    lockstep_passes kernel.transcribing listener command limit (state, []) count
  have held : holdings {listener.descriptor} ran.state.2 = some _ :=
    holdings_passes kernel listener command limit state count
  have calls : reaped.state.2 = ran.state.2 ++ asked := reapFrom_writes kernel _ 0 _ ran.state
  have closings := closings_of_askings kernel ran.supervisor.table.length 0 ran.supervisor.table
    ran.state
  have opensNone : openedIn asked = [] := closings.1
  rw [calls] at fresh
  have earlier := (throughout_rest fresh held).1
  have distinct := nodup_holdings (Multiset.nodup_singleton _) earlier held
  have only : ReadEndsOnly listener.descriptor (wiring listener.descriptor reaped.state.2) := by
    rw [calls, wiring_append]
    intro entry member
    rcases mem_wireFrom member with old | ⟨call, listed, number, others, new⟩
    · exact readEndsOnly_passes kernel listener command limit state count earlier entry old
    · have gives : entry.1 ∈ call.opened := by
        rw [← map_fst_ends number others]
        exact List.mem_map_of_mem new
      have opened := mem_openedIn listed gives
      rw [opensNone] at opened
      cases opened
  have wired : ((wiring listener.descriptor reaped.state.2).map Prod.fst : List Descriptor) =
      named listener.descriptor reaped.table := by
    rw [calls, wiring_append]
    apply map_fst_wireFrom
    rw [map_fst_wiring_passes]
    exact holdings_of_removals kernel ran.supervisor.table ran.state opensNone closings.2
  have stay := removals_perm kernel.transcribing ran.supervisor.table.length 0
    ran.supervisor.table ran.state
  refine ⟨distinct, only, ?_⟩
  intro worker tracked
  have before : worker ∈ ran.supervisor.table.workers :=
    stay.subset (List.mem_append_right _ tracked)
  have behind : worker.diagnostics ∈ named listener.descriptor reaped.table :=
    Multiset.mem_cons_of_mem (Multiset.mem_coe.mpr (List.mem_map_of_mem tracked))
  rw [← wired] at behind
  obtain ⟨entry, listed, same⟩ := List.mem_map.mp (Multiset.mem_coe.mp behind)
  rcases only entry listed with other | ⟨pipe, reads⟩
  · rw [other] at same
    have first : listener.descriptor ∈ ran.supervisor.table.workers.map (·.diagnostics) :=
      List.mem_map.mpr ⟨worker, before, same.symm⟩
    exact absurd (Multiset.mem_coe.mpr first) (Multiset.nodup_cons.mp distinct).1
  · exact ⟨pipe, by rw [← same, ← reads]; exact listed⟩

/-- Every pass waits for each of its workers, and those stay who are found running. Of their pipes
the supervisor has no write end. So during a poll without a limit of time the exit of a worker can
only go unseen while another process, which has not ended, keeps the write end of its pipe. -/
theorem exit_unseen_only_while_pipe_kept {σ : Type} (kernel : Kernel σ) (listener : Listener)
    (command : ShellCommand) (limit : AdmissionLimit) (state : σ) (count : Nat) :
    let ran := passes kernel.transcribing (.new listener command limit) (state, []) count
    let reaped := reap kernel.transcribing ran.supervisor.table ran.state
    let held := wiring listener.descriptor reaped.state.2
    let next := ran.supervisor.tick kernel.transcribing ran.state
    givesFresh {listener.descriptor} reaped.state.2 = true →
      (∀ worker ∈ ran.supervisor.table.workers, ∃ answer,
        .wait worker.pid answer ∈ written ran.state reaped.state ∧
          (worker ∈ reaped.table.workers ↔ answer = .ok none)) ∧
      (∀ worker ∈ reaped.table.workers, ∃ pipe,
        (worker.diagnostics, .reading pipe) ∈ held ∧ ∀ other, (other, .writing pipe) ∉ held) ∧
      ∃ slots timeout, pollsIn (written ran.state next.state) = [(slots, timeout)] ∧
        (timeout = .unbounded ∨ timeout = .milliseconds 0 ∨ timeout = .milliseconds 50) ∧
        ∀ (processes : Processes σ) (inside : σ), timeout = .unbounded →
          processes.Obeys held inside → processes.Silent slots inside →
          ∀ worker ∈ reaped.table.workers, processes.ended worker.pid inside →
            ∃ keeper, keeper ≠ worker.pid ∧ ¬processes.ended keeper inside ∧
              processes.keeps keeper worker.diagnostics inside := by
  intro ran reaped held next fresh
  obtain ⟨distinct, only, reads⟩ :=
    wiring_at_poll kernel listener command limit state count fresh
  have sound : Lockstep listener.descriptor ran.supervisor.table :=
    lockstep_passes kernel.transcribing listener command limit (state, []) count
  have piped : ∀ worker ∈ reaped.table.workers, ∃ pipe,
      (worker.diagnostics, .reading pipe) ∈ held ∧ ∀ other, (other, .writing pipe) ∉ held := by
    intro worker tracked
    obtain ⟨pipe, listed⟩ := reads worker tracked
    refine ⟨pipe, listed, ?_⟩
    intro other writes
    rcases only _ writes with first | ⟨number, second⟩
    · cases first
    · cases second
  have apart : ran.supervisor.table.workers.Nodup :=
    List.Nodup.of_map _ (Multiset.coe_nodup.mp (Multiset.nodup_cons.mp distinct).2)
  refine ⟨reap_waits kernel _ ran.state apart, piped, _, _, tick_polls kernel sound ran.state,
    ?_, ?_⟩
  · rcases timeout_look kernel.transcribing ran.supervisor ran.state with
      ⟨unbounded, _⟩ | ⟨bounded, _⟩ | ⟨looks, _⟩
    · exact .inl unbounded
    · exact .inr (.inr bounded)
    · exact .inr (.inl looks)
  · intro processes inside unbounded obeys silent worker tracked ended
    obtain ⟨pipe, listed, closed⟩ := piped worker tracked
    have heard : worker.muted = false := by
      rcases timeout_look kernel.transcribing ran.supervisor ran.state with
        ⟨_, _, _, heard⟩ | ⟨bounded, _⟩ | ⟨looks, _⟩
      · exact heard worker tracked
      · rw [unbounded] at bounded
        cases bounded
      · rw [unbounded] at looks
        cases looks
    have watched : (worker.diagnostics : Int) ∈
        (ran.supervisor.look kernel.transcribing ran.state).offered.map (·.descriptor) := by
      rw [descriptors_offered kernel.transcribing sound ran.state]
      refine List.mem_append_right _ (List.mem_map.mpr ⟨worker, tracked, ?_⟩)
      rw [Worker.watched, heard]
      rfl
    obtain ⟨keeper, lives, keeps⟩ := obeys.keeper_of_silent silent watched listed closed
    refine ⟨keeper, ?_, lives, keeps⟩
    rintro rfl
    exact lives ended

end

end Supervisor

namespace Host

def fork (pid : Pid) (host : Host) : Host :=
  match host.processes.get? pid with
  | none => host
  | some process =>
      { host with
        processes := host.processes.insert host.nextPid process
        nextPid := host.nextPid + 1 }

def beside : Processes Host where
  ended pid host := (host.processes.get? pid).any (·.state != .running) = true
  keeps pid descriptor host :=
    (host.processes.get? pid).any (fun process => process.errorOpen &&
      host.resource? descriptor = some (.pipeReader process.errorPipe)) = true
  shown descriptor host := host.conditions descriptor

/-- If whoever has ended has given its error stream up and every pipe that is read has a keeper,
then the modelled system does as promised. -/
theorem obeys_of_kept {host : Host} {held : Ends}
    (settled : (host.processes.entries.all fun entry =>
      entry.2.state = .running || !entry.2.errorOpen) = true)
    (kept : ∀ descriptor pipe, (descriptor, .reading pipe) ∈ held →
      ∃ keeper, beside.keeps keeper descriptor host) : beside.Obeys held host := by
  constructor
  · intro pid descriptor ended keeps
    obtain ⟨process, found, gone⟩ := (Option.any_eq_true _ _).mp ended
    obtain ⟨same, foundToo, keeps⟩ := (Option.any_eq_true _ _).mp keeps
    rw [found] at foundToo
    cases foundToo
    obtain ⟨front, back, entries, _⟩ := List.lookup_eq_some_iff.mp found
    have listed : (pid, process) ∈ host.processes.entries := by
      rw [entries]
      exact List.mem_append_right _ (List.mem_cons_self ..)
    have given : process.errorOpen = true := (Bool.and_eq_true_iff.mp keeps).1
    rcases Bool.or_eq_true_iff.mp (List.all_eq_true.mp settled _ listed) with running | closed
    · exact absurd (of_decide_eq_true running) (bne_iff_ne.mp gone)
    · rw [given] at closed
      cases closed
  · intro descriptor pipe listed _ nobody
    obtain ⟨keeper, keeps⟩ := kept descriptor pipe listed
    exact absurd keeps (nobody keeper)

def withClient : Host where
  handles := ({} : Registry Handle).insert 3 { file := 1, closeOnExec := true }
  files := ({} : Registry OpenFile).insert 1 { resource := .socket 2, nonblocking := true }
  sockets := ({} : Registry Socket).insert 2
    { domain := Family.unix, type := SocketType.stream, listening := true,
      pending := [{ peer := noName, client := 9 }] }
  nextDescriptor := 4
  nextNumber := 10

end Host

namespace Supervisor

open Kernel

/-- The exit of a worker wakes the poll if it was alone, and does not if a child of it lives. -/
theorem exit_unseen_while_child_lives :
    let initial : Supervisor := .new smallListener { text := "printf" } { workers := 4 }
    let ran := passes Host.kernel.transcribing initial (Host.withClient, []) 1
    let reaped := reap Host.kernel.transcribing ran.supervisor.table ran.state
    let next := ran.supervisor.tick Host.kernel.transcribing ran.state
    let alone := reaped.state.1.endProcess 1 (.ended 0)
    let survived := (reaped.state.1.fork 1).endProcess 1 (.ended 0)
    reaped.table.workers.map (fun worker => (worker.pid, worker.diagnostics)) = [(1, 5)] ∧
      ∃ slots, pollsIn (written ran.state next.state) = [(slots, .unbounded)] ∧
        Host.beside.ended 1 alone ∧ ¬Host.beside.Silent slots alone ∧
        Host.beside.ended 1 survived ∧ Host.beside.Silent slots survived ∧
        ∃ keeper, keeper ≠ 1 ∧ ¬Host.beside.ended keeper survived ∧
          Host.beside.keeps keeper 5 survived := by
  intro initial ran reaped next alone survived
  have polls : pollsIn (written ran.state next.state) =
      [([.ofDescriptor 3, .ofDescriptor 5], .unbounded)] := by decide +kernel
  have tracked : reaped.table.workers.map (fun worker => (worker.pid, worker.diagnostics)) =
      [(1, 5)] := by decide +kernel
  have wired : wiring smallListener.descriptor reaped.state.2 = [(5, .reading 3), (3, .other)] := by
    decide +kernel
  have endedAlone : (alone.processes.get? 1).any (·.state != .running) = true := by decide +kernel
  have hung : alone.conditions 5 = PollFlags.hangUp := by decide +kernel
  have ended : (survived.processes.get? 1).any (·.state != .running) = true := by decide +kernel
  have settled : (survived.processes.entries.all fun entry =>
      entry.2.state = .running || !entry.2.errorOpen) = true := by decide +kernel
  have child : (survived.processes.get? 2).any (fun process => process.errorOpen &&
      survived.resource? 5 = some (.pipeReader process.errorPipe)) = true := by decide +kernel
  have calm : survived.conditions 3 = PollFlags.none ∧ survived.conditions 5 = PollFlags.none := by
    decide +kernel
  obtain ⟨_, _, slots, timeout, polled, _, noticed⟩ := exit_unseen_only_while_pipe_kept Host.kernel
    smallListener { text := "printf" } { workers := 4 } Host.withClient 1 (by decide +kernel)
  obtain ⟨rfl, rfl⟩ : slots = [.ofDescriptor 3, .ofDescriptor 5] ∧ timeout = .unbounded := by
    simpa using (polls.symm.trans polled).symm
  have unseen := noticed Host.beside survived rfl
  clear_value alone survived
  dsimp only [reaped, ran, initial] at wired tracked polls ⊢
  rw [wired] at unseen
  have obeys : Host.beside.Obeys [(5, .reading 3), (3, .other)] survived := by
    apply Host.obeys_of_kept settled
    intro descriptor pipe listed
    obtain ⟨rfl, rfl⟩ : descriptor = 5 ∧ pipe = 3 := by simpa using listed
    exact ⟨2, child⟩
  have silent : Host.beside.Silent [.ofDescriptor 3, .ofDescriptor 5] survived := by
    intro slot listed _
    rcases List.mem_pair.mp listed with rfl | rfl
    · exact calm.1
    · exact calm.2
  refine ⟨tracked, _, polls, endedAlone, ?_, ended, silent, ?_⟩
  · intro silent
    have heard : alone.conditions 5 = PollFlags.none :=
      silent (.ofDescriptor 5) (by simp) (by decide)
    rw [hung] at heard
    cases heard
  · obtain ⟨worker, member, same⟩ := List.mem_map.mp
      (tracked ▸ List.mem_singleton_self _ : ((1, 5) : Pid × Descriptor) ∈ _)
    obtain ⟨first, second⟩ := Prod.mk.inj same
    have kept := unseen obeys silent worker member (first ▸ ended)
    rwa [first, second] at kept

end Supervisor

end Superserver
