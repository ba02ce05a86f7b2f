import Superserver.Proofs.Net.IpText
import Superserver.Proofs.Supervisor.Muting
import Superserver.Proofs.Text.Ascii

/-!
Events as lines. Main statement: the text of an event has a newline in it just if the event is a
creation and the peer's raw address names a unix socket with that byte or an X.25 address with it.
Whatever workers write, all other events are single lines.
-/

namespace Superserver

open Text

/-! ### Texts without a newline -/

def OneLine (text : String) : Prop := '\n' ∉ text.toList

instance (text : String) : Decidable (OneLine text) :=
  inferInstanceAs (Decidable ('\n' ∉ text.toList))

theorem oneLine_append (first second : String) :
    OneLine (first ++ second) ↔ OneLine first ∧ OneLine second := by
  rw [OneLine, String.toList_append, List.mem_append, not_or]
  rfl

theorem OneLine.append {first second : String} (one : OneLine first) (other : OneLine second) :
    OneLine (first ++ second) :=
  (oneLine_append first second).mpr ⟨one, other⟩

theorem oneLine_decodeLossy (bytes : Bytes) :
    OneLine (Utf8.decodeLossy bytes) ↔ Piece.newline ∉ bytes := by
  rw [OneLine, Utf8.mem_decodeLossy_iff (by decide)]
  rfl

theorem oneLine_iff (text : String) : OneLine text ↔ Piece.newline ∉ bytesOf text := by
  rw [← oneLine_decodeLossy, (Utf8.decode_bytesOf text).1]

theorem newline_not_mem_toDigits (number : Nat) : '\n' ∉ Nat.toDigits 10 number := by
  intro member
  cases isDigit_of_mem_toDigits member

theorem oneLine_nat (number : Nat) : OneLine (toString number) := by
  have digits : (toString number).toList = Nat.toDigits 10 number := String.toList_ofList
  rw [OneLine, digits]
  exact newline_not_mem_toDigits number

theorem oneLine_int (number : Int) : OneLine (toString number) := by
  cases number with
  | ofNat number => exact oneLine_nat number
  | negSucc number =>
      have minus : OneLine "-" := by decide
      exact minus.append (oneLine_nat (number + 1))

theorem oneLine_ipv4 (ip : Ipv4) : OneLine (toString ip) := by
  have written : (toString ip).toList = ip.chars := String.toList_ofList
  rw [OneLine, written]
  intro member
  rcases Ipv4.mem_chars member with dot | ⟨value, small, same⟩
  · cases dot
  · have every : ∀ value < 10, '\n' ≠ value.digitChar := by decide
    exact every value small same

theorem oneLine_ipv6 (ip : Ipv6) : OneLine (toString ip) := by
  have written : (toString ip).toList = ip.chars := String.toList_ofList
  rw [OneLine, written]
  intro member
  rcases Ipv6.mem_chars member with colon | dot | ⟨value, small, same⟩
  · cases colon
  · cases dot
  · have every : ∀ value < 16, '\n' ≠ value.digitChar := by decide
    exact every value small same

/-! ### Messages -/

theorem oneLine_description (number : Int) : OneLine (Errno.description number) := by
  have every : ∀ entry ∈ Errno.descriptions, Piece.newline ∉ bytesOf entry.2 := by decide +kernel
  have unknown : OneLine s!"Unknown error {number}" := by
    have text : OneLine "Unknown error " := by decide
    exact text.append (oneLine_int number)
  rw [Errno.description]
  cases known : if number < 0 then none else Errno.descriptions.lookup number.toNat with
  | none => exact unknown
  | some text =>
      have found : Errno.descriptions.lookup number.toNat = some text := by
        split at known
        · cases known
        · exact known
      obtain ⟨before, after, parts, _⟩ := List.lookup_eq_some_iff.mp found
      exact (oneLine_iff _).mpr (every (number.toNat, text) (by simp [parts]))

theorem oneLine_message_of_numbered (number : Int) :
    OneLine (ForwardError.read (.numbered number)).message := by
  have opens : OneLine " (os error " := by decide
  have closes : OneLine ")" := by decide
  exact (((oneLine_description number).append opens).append (oneLine_int number)).append closes

theorem oneLine_message_of_unread {error : ForwardError} (unread : ∀ cause, error ≠ .read cause) :
    OneLine error.message := by
  cases error with
  | read cause => exact absurd rfl (unread cause)
  | lineTooLong limit =>
      have opens : OneLine "Diagnostic line exceeds " := by decide
      have closes : OneLine " bytes" := by decide
      exact (opens.append (oneLine_nat limit)).append closes
  | outOfMemory refusal => cases refusal <;> exact (oneLine_iff _).mpr (by decide +kernel)

/-! ### Names of peers -/

theorem oneLine_pair {first second : String} (one : OneLine first) (other : OneLine second) :
    OneLine s!"{first} {second}" := by
  have gap : OneLine " " := by decide
  exact (one.append gap).append other

namespace RawAddress

/-- Whether the name in the address has a newline in it, as only two families let it. -/
def Breaks (raw : RawAddress) : Prop :=
  (raw.family = Family.unix ∧ Piece.newline ∈ raw.unixPath) ∨
    (raw.family = Family.x25 ∧ Piece.newline ∈ untilNul (raw.field 2 x25Room))

theorem newline_mem_map_ofNat (bytes : Bytes) :
    '\n' ∈ bytes.map (fun byte => Char.ofNat byte.toNat) ↔ Piece.newline ∈ bytes := by
  have every : ∀ value < 256, Char.ofNat value = '\n' ↔ value = 10 := by decide +kernel
  have one : ∀ byte : UInt8, Char.ofNat byte.toNat = '\n' ↔ byte = Piece.newline := by
    intro byte
    rw [every byte.toNat byte.toNat_lt, ← UInt8.toNat_inj]
    rfl
  simp [one]

theorem oneLine_label {raw : RawAddress} {peer : PeerAddress} (decoded : raw.decode = .ok peer) :
    OneLine peer.label ↔ ¬raw.Breaks := by
  unfold decode at decoded
  split at decoded
  · rename_i family
    have other : ¬raw.Breaks := by simp [Breaks, family, Family.unix, Family.x25]
    split at decoded
    · cases decoded
      exact iff_of_true (oneLine_pair (oneLine_ipv4 _) (oneLine_nat _)) other
    · cases decoded
  · rename_i family
    have other : ¬raw.Breaks := by simp [Breaks, family, Family.unix, Family.x25]
    split at decoded
    · cases decoded
      exact iff_of_true (oneLine_pair (oneLine_ipv6 _) (oneLine_nat _)) other
    · cases decoded
  · rename_i family
    have own : raw.Breaks ↔ Piece.newline ∈ raw.unixPath := by
      simp [Breaks, family, Family.unix, Family.x25]
    rw [own]
    split at decoded
    · rename_i unnamed
      cases decoded
      exact iff_of_true (by decide) (by simp [unnamed])
    · cases decoded
      exact oneLine_decodeLossy raw.unixPath
  · rename_i family
    have other : ¬raw.Breaks := by simp [Breaks, family, Family.unix, Family.x25]
    cases decoded
    exact iff_of_true (oneLine_pair (oneLine_nat _) (oneLine_nat _)) other
  · rename_i family
    have own : raw.Breaks ↔ Piece.newline ∈ untilNul (raw.field 2 x25Room) := by
      simp [Breaks, family, Family.unix, Family.x25]
    cases decoded
    rw [own, PeerAddress.label, OneLine, String.toList_ofList, newline_mem_map_ofNat]
  · cases decoded

end RawAddress

/-! ### What is reported -/

namespace Report

def Legible : Report → Prop
  | .line piece => Piece.newline ∉ piece.bytes
  | .forwardFailed error => OneLine error.message
  | _ => True

theorem Legible.oneLine {report : Report} (legible : report.Legible)
    (later : ∀ remote, report ≠ .created remote) {pid : Pid} {event : Event}
    (told : report.event? pid = some event) : OneLine event.text := by
  have process : OneLine "Process " := by decide
  cases report with
  | created remote => exact absurd rfl (later remote)
  | line piece =>
      cases told
      have colon : OneLine ": " := by decide
      exact ((oneLine_nat pid).append colon).append ((oneLine_decodeLossy _).mpr legible)
  | pipeError =>
      cases told
      have error : OneLine " has a pipe error" := by decide
      exact (process.append (oneLine_nat pid)).append error
  | forwardFailed error =>
      cases told
      have opens : OneLine "Could not forward I/O for process " := by decide
      have colon : OneLine ": " := by decide
      exact ((opens.append (oneLine_nat pid)).append colon).append legible
  | exited status =>
      cases told
      have exited : OneLine " exited (" := by decide
      have closes : OneLine ")" := by decide
      exact (((process.append (oneLine_nat pid)).append exited).append
        (oneLine_int status)).append closes
  | pipeClosed => cases told
  | drainStopped error => cases told
  | lost error => cases told

end Report

theorem oneLine_created (pid : Pid) (remote : String) :
    OneLine (Event.created pid remote).text ↔ OneLine remote := by
  have process : OneLine "Process " := by decide
  have created : OneLine " created (" := by decide
  have closes : OneLine ")" := by decide
  constructor
  · intro one
    have opened := ((oneLine_append _ _).mp one).1
    exact ((oneLine_append _ _).mp opened).2
  · intro one
    exact (((process.append (oneLine_nat pid)).append created).append one).append closes

/-- Reading fails with the number of an error, as it does by a call of the system. -/
def Kernel.ReadsFailByNumber (kernel : Kernel σ) : Prop :=
  ∀ descriptor count before error after,
    kernel.read descriptor count before = (.error error, after) →
      ∃ number, error = .numbered number

namespace Worker

section

variable {σ : Type} (kernel : Kernel σ) {worker : Worker} (state : σ)

theorem read_of_forward {error : SystemError}
    (failed : (worker.forward kernel state).1.outcome = .error (.read error)) :
    ∃ after, kernel.read worker.diagnostics LineBuffer.readChunk state = (.error error, after) := by
  cases space : worker.buffer.isFull with
  | true =>
      rw [forward_of_full space] at failed
      cases failed
  | false =>
      rcases read : kernel.read worker.diagnostics LineBuffer.readChunk state with ⟨result, after⟩
      cases result with
      | error cause =>
          rw [forward_of_error space read] at failed
          simp only at failed
          split at failed
          · cases failed
          · cases failed
            exact ⟨after, rfl⟩
      | ok chunk =>
          simp [forward, LineBuffer.fill, space, read] at failed

theorem read_of_attend {flags : PollFlags} {error : SystemError}
    (told : .forwardFailed (.read error) ∈ (worker.attend kernel flags state).1.reports) :
    ∃ after, kernel.read worker.diagnostics LineBuffer.readChunk state = (.error error, after) := by
  have talk := isTalk_forward kernel worker state
  have read : (worker.forward kernel state).1.outcome = .error (.read error) → _ :=
    read_of_forward kernel state
  unfold attend at told
  generalize worker.forward kernel state = result at talk read told
  obtain ⟨step, between⟩ := result
  simp only at talk read told
  split at told
  · cases List.mem_singleton.mp told
  · split at told
    · split at told
      · cases talk _ told
      · rcases List.mem_append.mp told with told | told
        · cases talk _ told
        · cases List.mem_singleton.mp told
      · cases told
      · rename_i cause failed
        cases List.mem_singleton.mp told
        exact read failed
      · rename_i cause unread _
        rcases List.mem_cons.mp told with same | told
        · cases same
          exact absurd rfl (unread error)
        · cases isTalk_flush _ _ told
    · cases told

variable {kernel}

theorem legible_of_parts {reports : List Report} (proper : ProperLines reports)
    (failures : ∀ error, .forwardFailed error ∈ reports → OneLine error.message) :
    ∀ report ∈ reports, report.Legible := by
  intro report member
  cases report with
  | line piece => exact (proper piece member).1
  | forwardFailed error => exact failures error member
  | _ => trivial

theorem legible_attend (numbered : kernel.ReadsFailByNumber) (settled : worker.buffer.Settled)
    (flags : PollFlags) :
    ∀ report ∈ (worker.attend kernel flags state).1.reports, report.Legible := by
  obtain ⟨_, _, flow⟩ := attend_moves kernel flags settled state
  refine legible_of_parts flow.proper ?_
  intro error told
  cases error with
  | read cause =>
      obtain ⟨after, read⟩ := read_of_attend kernel state told
      obtain ⟨number, rfl⟩ := numbered _ _ _ _ _ read
      exact oneLine_message_of_numbered number
  | _ => exact oneLine_message_of_unread (by simp)

theorem legible_drain (turns : Nat) (settled : worker.buffer.Settled) :
    ∀ report ∈ (worker.drain kernel turns state).1, report.Legible := by
  obtain ⟨_, _, flow⟩ := drain_moves kernel turns settled state
  refine legible_of_parts flow.proper ?_
  intro error told
  cases error with
  -- A drain that cannot read stops without an event.
  | read cause => cases isTalk_drain kernel worker state turns _ told
  | _ => exact oneLine_message_of_unread (by simp)

end

end Worker

namespace Supervisor

/-! ### Passes -/

structure Legible (workers : List Worker) (notices : List Notice) : Prop where
  settled : ∀ worker ∈ workers, worker.buffer.Settled
  told : ∀ pid report, .worker pid report ∈ notices → report.Legible

namespace Legible

variable {σ : Type} {kernel : Kernel σ} {workers last : List Worker} {state after : σ}
  {notices told : List Notice}

theorem tell (legible : Legible workers notices) (settled : ∀ worker ∈ last, worker.buffer.Settled)
    (more : ∀ pid report, .worker pid report ∈ told → report.Legible) :
    Legible last (notices ++ told) := by
  refine ⟨settled, ?_⟩
  intro pid report member
  rcases List.mem_append.mp member with member | member
  · exact legible.told pid report member
  · exact more pid report member

theorem step (numbered : kernel.ReadsFailByNumber) (legible : Legible workers notices)
    (step : Step kernel workers state told last after) : Legible last (notices ++ told) := by
  cases step with
  | quiet quiet => exact legible.tell legible.settled (by simp)
  | @attended _ index worker flags attended changed found attends change =>
      have settled := legible.settled worker (List.mem_of_getElem? found)
      have moves := Worker.attend_moves kernel flags settled state
      have readable := Worker.legible_attend state numbered settled flags
      rw [attends] at moves readable
      refine legible.tell ?_ ?_
      · intro other member
        rcases List.mem_or_eq_of_mem_set member with old | rfl
        · exact legible.settled other old
        · rcases change with rfl | rfl
          · exact moves.settled
          · exact moves.settled
      · intro pid report member
        obtain ⟨own, listed, same⟩ := List.mem_map.mp member
        cases same
        exact readable _ listed
  | @exited _ index worker emptied reports status found drains =>
      have settled := legible.settled worker (List.mem_of_getElem? found)
      have readable : ∀ report ∈ (worker.drain kernel Worker.drainReads state).1, report.Legible :=
        Worker.legible_drain state Worker.drainReads settled
      rw [drains] at readable
      refine legible.tell (fun other member => legible.settled other ?_) ?_
      · exact List.mem_of_mem_eraseIdx (mem_of_mem_swapRemove found member)
      · intro pid report member
        rcases List.mem_append.mp member with member | member
        · obtain ⟨own, listed, same⟩ := List.mem_map.mp member
          cases same
          exact readable _ listed
        · cases List.mem_singleton.mp member
          trivial
  | lost found =>
      refine legible.tell (fun other member => legible.settled other ?_) ?_
      · exact List.mem_of_mem_eraseIdx (mem_of_mem_swapRemove found member)
      · intro pid report member
        cases List.mem_singleton.mp member
        trivial

theorem steps (numbered : kernel.ReadsFailByNumber) (legible : Legible workers notices)
    (steps : Steps kernel workers state told last after) : Legible last (notices ++ told) := by
  induction steps with
  | refl => simpa using legible
  | step _ step ih =>
      rw [← List.append_assoc]
      exact ih.step numbered step

theorem admission (legible : Legible workers notices)
    (admission : Admission kernel workers state told last after) :
    Legible last (notices ++ told) := by
  cases admission with
  | none asides quiet =>
      refine legible.tell legible.settled ?_
      intro pid report member
      exact absurd rfl (asides _ member pid report)
  | one asides quiet spawn closed =>
      refine legible.tell ?_ ?_
      · intro worker member
        rcases List.mem_append.mp member with member | member
        · exact legible.settled worker member
        · cases List.mem_singleton.mp member
          exact LineBuffer.settled_empty
      · intro pid report member
        rcases List.mem_append.mp member with member | member
        · exact absurd rfl (asides _ member pid report)
        · cases List.mem_singleton.mp member
          trivial

theorem passes (numbered : kernel.ReadsFailByNumber) (listener : Listener)
    (command : ShellCommand) (limit : AdmissionLimit) (state : σ) (count : Nat) :
    let ran := passes kernel (.new listener command limit) state count
    Legible ran.supervisor.table.workers ran.notices := by
  induction count with
  | zero =>
      constructor
      · simp [Supervisor.passes, Supervisor.new, ProcessTable.new]
      · simp [Supervisor.passes]
  | succ count ih =>
      simp only [Supervisor.passes]
      generalize Supervisor.passes kernel (.new listener command limit) state count = ran at ih ⊢
      obtain ⟨earlier, middle, between, later, steps, admission, told⟩ :=
        tick_steps kernel ran.supervisor ran.state
      rw [told, ← List.append_assoc]
      exact (ih.steps numbered steps).admission admission

end Legible

/-! ### Admissions -/

section

variable {σ : Type} (kernel : Kernel σ) (supervisor : Supervisor) (state : σ)

/-- A pass is given a connection, and the raw address of its remote end. -/
def Arrives (raw : RawAddress) : Prop :=
  ∃ connection after,
    kernel.accept supervisor.listener.descriptor
      ((supervisor.look kernel state).attended kernel).state = (.ok (connection, raw), after)

theorem accept_of_acceptRemote {listener connection : Descriptor} {peer : PeerAddress} {after : σ}
    (arrived : kernel.acceptRemote listener state = (.ok (connection, peer), after)) :
    ∃ raw between, kernel.accept listener state = (.ok (connection, raw), between) ∧
      raw.decode = .ok peer := by
  unfold Kernel.acceptRemote at arrived
  rcases accepted : kernel.accept listener state with ⟨result, between⟩
  rw [accepted] at arrived
  cases result with
  | error error => cases arrived
  | ok result =>
      obtain ⟨descriptor, raw⟩ := result
      simp only at arrived
      split at arrived
      · cases arrived
      · split at arrived
        · cases arrived
        · rename_i remote decoded
          cases arrived
          exact ⟨raw, between, rfl, decoded⟩

theorem accept_of_admitNext {listener : Descriptor} {command : ShellCommand}
    {table : ProcessTable} {pid : Pid} {remote : String}
    (told : .worker pid (.created remote) ∈
      (admitNext kernel listener command table state).notices) :
    ∃ connection raw after peer, kernel.accept listener state = (.ok (connection, raw), after) ∧
      raw.decode = .ok peer ∧ remote = peer.label := by
  rcases arrived : kernel.acceptRemote listener state with ⟨arrival, after⟩
  cases arrival with
  | error error =>
      simp only [admitNext, arrived] at told
      split at told
      · cases List.mem_singleton.mp told
      · cases told
  | ok arrival =>
      obtain ⟨raw, between, accepted, decoded⟩ := accept_of_acceptRemote kernel state arrived
      refine ⟨arrival.1, raw, between, arrival.2, accepted, decoded, ?_⟩
      simp only [admitNext, arrived] at told
      have starting := startWorker_starting kernel command arrival.1 arrival.2.label table after
      generalize startWorker kernel command arrival.1 arrival.2.label table after = started
        at starting told
      have silent : ∀ {notices : List Notice}, Asides notices →
          .worker pid (.created remote) ∉ notices :=
        fun asides member => asides _ member pid (.created remote) rfl
      cases starting with
      | unopened unavailable quiet => cases told
      | refused opened refused quiet => cases told
      | failed opened made quiet => exact absurd told (silent (asides_of_reserve kernel made).1)
      | started opened made quiet spawned closed =>
          rcases List.mem_append.mp told with told | told
          · exact absurd told (silent (asides_of_reserve kernel made).1)
          · cases List.mem_singleton.mp told
            rfl

theorem created_not_mem_attended (look : Look σ) (pid : Pid) (remote : String) :
    .worker pid (.created remote) ∉ (look.attended kernel).notices := by
  unfold Look.attended
  split
  · exact List.not_mem_nil
  · split
    · exact List.not_mem_nil
    · exact created_not_mem_of_steps (forwardFrom_steps kernel _ 0 _ _) pid remote

theorem arrives_of_tick {pid : Pid} {remote : String}
    (told : .worker pid (.created remote) ∈ (supervisor.tick kernel state).notices) :
    ∃ raw peer, Arrives kernel supervisor state raw ∧ raw.decode = .ok peer ∧
      remote = peer.label := by
  let look := supervisor.look kernel state
  let sent := look.attended kernel
  have reaped : .worker pid (.created remote) ∉ look.reaped.notices :=
    created_not_mem_of_steps (reapFrom_steps kernel _ 0 supervisor.table state) pid remote
  have attended : .worker pid (.created remote) ∉ sent.notices :=
    created_not_mem_attended kernel look pid remote
  have before : .worker pid (.created remote) ∉ look.reaped.notices ++ sent.notices := by
    simp [reaped, attended]
  cases tries : look.tries kernel with
  | false =>
      have ticked : supervisor.tick kernel state = _ := tick_of_shut kernel supervisor state tries
      rw [ticked] at told
      exact absurd told before
  | true =>
      have ticked : supervisor.tick kernel state = _ := tick_of_tried kernel supervisor state tries
      rw [ticked] at told
      rcases List.mem_append.mp told with told | told
      · exact absurd told before
      · obtain ⟨connection, raw, after, peer, accepted, decoded, label⟩ :=
          accept_of_admitNext kernel sent.state told
        exact ⟨raw, peer, ⟨connection, after, accepted⟩, decoded, label⟩

theorem arrives_of_passes {count : Nat} {pid : Pid} {remote : String}
    (told : .worker pid (.created remote) ∈ (passes kernel supervisor state count).notices) :
    ∃ passed < count, ∃ raw peer,
      Arrives kernel (passes kernel supervisor state passed).supervisor
        (passes kernel supervisor state passed).state raw ∧
      raw.decode = .ok peer ∧ remote = peer.label := by
  induction count with
  | zero => cases told
  | succ count ih =>
      rcases List.mem_append.mp told with told | told
      · obtain ⟨passed, early, arrival⟩ := ih told
        exact ⟨passed, by omega, arrival⟩
      · exact ⟨count, by omega, arrives_of_tick kernel _ _ told⟩

end

/-! ### Whole runs -/

/-- An event that is printed on more than one line is the creation of a worker for a peer whose
raw address names a unix socket or an X.25 address with a newline in it, and each such creation is.
Every other event is one line, whatever the workers write. -/
theorem events_break_only_at_names {σ : Type} (kernel : Kernel σ)
    (numbered : kernel.ReadsFailByNumber) (listener : Listener) (command : ShellCommand)
    (limit : AdmissionLimit) (state : σ) (count : Nat) :
    let ran := passes kernel (.new listener command limit) state
    ∀ event ∈ (ran count).notices.filterMap (·.event?),
      ((∀ pid remote, event ≠ .created pid remote) ∧ OneLine event.text) ∨
        ∃ passed < count, ∃ raw peer pid,
          Arrives kernel (ran passed).supervisor (ran passed).state raw ∧
          raw.decode = .ok peer ∧ event = .created pid peer.label ∧
          (OneLine event.text ↔ ¬raw.Breaks) := by
  intro ran event heard
  have legible : Legible (ran count).supervisor.table.workers (ran count).notices :=
    Legible.passes numbered listener command limit state count
  obtain ⟨notice, member, told⟩ := List.mem_filterMap.mp heard
  cases notice with
  | worker pid report =>
      by_cases creation : ∃ remote, report = .created remote
      · obtain ⟨remote, rfl⟩ := creation
        obtain ⟨passed, early, raw, peer, arrives, decoded, rfl⟩ :=
          arrives_of_passes kernel (.new listener command limit) state member
        cases told
        refine .inr ⟨passed, early, raw, peer, pid, arrives, decoded, rfl, ?_⟩
        rw [oneLine_created, RawAddress.oneLine_label decoded]
      · have later : ∀ remote, report ≠ .created remote := fun remote same =>
          creation ⟨remote, same⟩
        refine .inl ⟨?_, (legible.told pid report member).oneLine later told⟩
        rintro other remote rfl
        cases report with
        | created first => exact later first rfl
        | _ => cases told
  | tableGrew old new => cases told
  | acceptIgnored error => cases told

/-- A system with clients whose name holds a line that tells of an exit. -/
def forging : Kernel (Stage Unit) :=
  { Kernel.ofReader fun _ state => (.error (.numbered Errno.again), state) with
    accept := fun _ stage =>
      if stage.clients = 0 then (.error (.numbered Errno.again), stage)
      else
        (.ok (4, RawAddress.ofParts Family.unix (bytesOf "a\nProcess 1 exited (0)") 25),
          { stage with clients := stage.clients - 1 }) }

theorem readsFailByNumber_forging : forging.ReadsFailByNumber := by
  intro descriptor count before error after failed
  cases failed
  exact ⟨_, rfl⟩

theorem forged_name_breaks_its_event :
    let ran := passes forging (.new smallListener { text := "printf" } { workers := 4 })
      { source := (), running := 1, clients := 1 }
    (ran 1).notices.filterMap (·.event?) = [.created 70 "a\nProcess 1 exited (0)"] ∧
      ¬OneLine (Event.created 70 "a\nProcess 1 exited (0)").text ∧
      ∃ raw, Arrives forging (ran 0).supervisor (ran 0).state raw ∧ raw.Breaks := by
  intro ran
  have told : (ran 1).notices.filterMap (·.event?) = [.created 70 "a\nProcess 1 exited (0)"] := by
    decide +kernel
  have broken : ¬OneLine (Event.created 70 "a\nProcess 1 exited (0)").text := by
    rw [oneLine_created]
    decide
  refine ⟨told, broken, ?_⟩
  have heard : .created 70 "a\nProcess 1 exited (0)" ∈ (ran 1).notices.filterMap (·.event?) := by
    simp [told]
  rcases events_break_only_at_names forging readsFailByNumber_forging smallListener
    { text := "printf" } { workers := 4 } { source := (), running := 1, clients := 1 } 1 _ heard
    with ⟨other, _⟩ | ⟨passed, early, raw, _, _, arrives, _, _, breaks⟩
  · exact absurd rfl (other 70 _)
  · obtain rfl : passed = 0 := by omega
    exact ⟨raw, arrives, by_contra fun whole => broken (breaks.mpr whole)⟩

end Supervisor

end Superserver
