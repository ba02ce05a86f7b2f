import Superserver.Proofs.Net.Peers
import Superserver.Proofs.Supervisor.Transcript

/-!
What a process is told of its remote end. Main statement: whatever address the system hands back
with a connection, it is refused or decoded by its family alone, and what a process is started with
has no NUL in it.
-/

namespace Superserver

def Call.request? : Call → Option SpawnRequest
  | .spawn request _ => some request
  | _ => none

namespace Supervisor

open Kernel ProcessTable

def requestsIn (calls : List Call) : List SpawnRequest := calls.filterMap Call.request?

/-- Every process that is asked for is told the label of an address that was decoded. -/
def Named (calls : List Call) : Prop :=
  ∀ request ∈ requestsIn calls,
    ∃ raw peer, RawAddress.decode raw = .ok peer ∧ request.remote = peer.label

theorem Named.append {first second : List Call} (named : Named first) (others : Named second) :
    Named (first ++ second) := by
  intro request member
  rw [requestsIn, List.filterMap_append] at member
  rcases List.mem_append.mp member with member | member
  · exact named request member
  · exact others request member

theorem named_of_none {calls : List Call} (unasked : ∀ call ∈ calls, call.request? = none) :
    Named calls := by
  intro request member
  rw [requestsIn, List.filterMap_eq_nil_iff.mpr unasked] at member
  cases member

theorem named_of_setup {calls : List Call} (setup : calls.all Call.isSetup = true) :
    Named calls := by
  apply named_of_none
  intro call member
  have allowed := List.all_eq_true.mp setup call member
  cases call <;> first | rfl | cases allowed

theorem named_of_beginning {connection : Descriptor} {table grown : ProcessTable}
    {calls : List Call} {notices : List Notice} {outcome : Except AdmissionError Worker}
    {raw : RawAddress} {peer : PeerAddress} (decoded : raw.decode = .ok peer)
    (beginning : Beginning connection peer.label table calls notices outcome grown) :
    Named calls := by
  cases beginning with
  | pipeless piping | roomless piping | uncopied piping =>
      exact (named_of_setup piping.setup).append (named_of_none (by simp [Call.request?]))
  | unstarted piping _ told | started piping _ told =>
      refine (named_of_setup piping.setup).append ?_
      intro request member
      rw [List.mem_singleton.mp member]
      exact ⟨raw, peer, decoded, told⟩

theorem named_of_admitting {listener : Descriptor} {table after : ProcessTable} {calls : List Call}
    {later : List Notice} {outcome : Except TickError Bool}
    (admitting : Admitting listener table calls later outcome after) : Named calls := by
  cases admitting with
  | ignored accepting | failed accepting => exact named_of_setup accepting.setup
  | refused accepting beginning | admitted accepting beginning =>
      refine (named_of_setup accepting.setup).append ?_
      cases accepting with
      | accepted _ decoded => exact named_of_beginning decoded beginning

section

variable {σ : Type} (kernel : Kernel σ)

theorem named_of_ending {listener : Descriptor} {look : Look σ} {sent : Forwarded σ}
    {last : List Call} {next : Ticked σ} (ending : Ending listener look sent last next) :
    Named last := by
  cases ending with
  | shut => exact named_of_none (by simp)
  | tried admitting => exact named_of_admitting admitting

theorem look_names (supervisor : Supervisor) (before : σ × List Call) :
    Named ((supervisor.look kernel.transcribing before).calls kernel supervisor before) := by
  have asked := (askingsFrom_spec kernel.transcribing supervisor.table.length 0 supervisor.table
    before (by simp [ProcessTable.length])).2.2.2
  refine Named.append ?_ (named_of_none (by simp [Call.request?]))
  apply named_of_none
  intro call member
  obtain ⟨asking, listed, member⟩ := List.mem_flatMap.mp member
  obtain ⟨waited, answers, calls⟩ := Asking.writes kernel (asked asking listed)
  rw [calls] at member
  rcases List.mem_cons.mp member with rfl | member
  · rfl
  · rcases List.mem_append.mp member with member | member
    · obtain ⟨answer, _, rfl⟩ := List.mem_map.mp member
      rfl
    · split at member
      · cases member
      · rw [List.mem_singleton.mp member]
        rfl

theorem tick_names {listener : Int} {supervisor : Supervisor}
    (sound : Lockstep listener supervisor.table) {before : σ × List Call}
    (named : Named before.2) : Named (supervisor.tick kernel.transcribing before).state.2 := by
  let look := supervisor.look kernel.transcribing before
  have apt := (turns_spec kernel.transcribing supervisor before sound).1
  have turns : Named ((look.turns kernel.transcribing).flatMap Turn.calls) := by
    apply named_of_none
    intro call member
    have plain := plain_of_turns kernel apt call member
    cases call <;> first | rfl | cases plain
  obtain ⟨last, ending, wrote⟩ := tick_writes kernel sound before
  rw [wrote]
  exact named.append ((look_names kernel supervisor before).append
    (turns.append (named_of_ending ending)))

/-! ### Whole runs -/

theorem passes_names (listener : Listener) (command : ShellCommand) (limit : AdmissionLimit)
    (state : σ) (count : Nat) :
    Named (passes kernel.transcribing (.new listener command limit) (state, []) count).state.2 := by
  induction count with
  | zero => exact named_of_none (by simp [passes])
  | succ count ih =>
      exact tick_names kernel
        (lockstep_passes kernel.transcribing listener command limit (state, []) count) ih

/-- Whatever bytes and length the system hands back for the remote end of a connection: only a family
without a textual form is refused, the path of a unix socket is what the length covers up to the
first zero, and no label has a NUL in it. So none is in what a run starts a process with. -/
theorem remote_ends_are_safe (listener : Listener) (command : ShellCommand)
    (limit : AdmissionLimit) (state : σ) (count : Nat) :
    let ran := passes kernel.transcribing (.new listener command limit) (state, []) count
    (∀ raw : RawAddress,
      (∀ error, raw.decode = .error error ↔
        error = .numbered 95 ∧ raw.family ∉ [1, 2, 9, 10, 40]) ∧
      (raw.family = 1 → ∃ path,
        RawAddress.LongestFree ((raw.storage.drop 2).take (min 108 (raw.length - 2))) path ∧
        raw.decode = .ok (.unix (if path = [] then none else some path))) ∧
      ∀ peer, raw.decode = .ok peer → NulFree peer.label) ∧
    ∀ request ∈ requestsIn ran.state.2, NulFree request.remote := by
  intro ran
  constructor
  · intro raw
    refine ⟨raw.decode_eq_error_iff, fun unix => ?_, fun peer => RawAddress.nulFree_label⟩
    exact ⟨raw.unixPath, RawAddress.longestFree_untilNul _, RawAddress.decode_unix unix⟩
  · intro request member
    obtain ⟨raw, peer, decoded, told⟩ :=
      passes_names kernel listener command limit state count request member
    rw [told]
    exact RawAddress.nulFree_label decoded

end

/-- An X.25 address that no zero ends, with a length that does not even cover the family. -/
def unendedAddress : RawAddress := .ofParts Family.x25 (List.replicate 126 49) 1

def unendedCaller : Kernel (Stage Unit) :=
  { Kernel.ofReader fun _ state => (.error (.numbered Errno.again), state) with
    accept := fun _ stage => (.ok (4, unendedAddress), stage) }

theorem remotes_of_unendedCaller :
    let ran := passes unendedCaller.transcribing
      (.new smallListener { text := "printf" } { workers := 4 }) ({ source := () }, []) 1
    let short : RawAddress := .ofParts Family.unix (List.replicate 126 97) 1
    (requestsIn ran.state.2).map (·.remote) = ["1111111111111111"] ∧
      NulFree "1111111111111111" ∧ short.decode = .ok (.unix none) ∧
      (RawAddress.ofParts 0 [] 1000).decode = .error (.numbered 95) := by
  intro ran short
  have asked : (requestsIn ran.state.2).map (·.remote) = ["1111111111111111"] := by
    decide +kernel
  have safe := remote_ends_are_safe unendedCaller smallListener { text := "printf" }
    { workers := 4 } { source := () } 1
  obtain ⟨path, part, decoded⟩ := (safe.1 short).2.1 (by decide +kernel)
  obtain rfl : path = [] := List.prefix_nil.mp part.starts
  obtain ⟨request, member, remote⟩ := List.mem_map.mp
    (asked ▸ List.mem_singleton_self "1111111111111111")
  refine ⟨asked, ?_, decoded, ((safe.1 _).1 _).mpr ⟨rfl, by decide +kernel⟩⟩
  rw [← remote]
  exact safe.2 request member

end Supervisor

end Superserver
