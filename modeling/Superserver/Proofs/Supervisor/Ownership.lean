import Superserver.Proofs.Supervisor.Holdings

/-!
The descriptors that supervision holds. Main statement: after every pass these are the listener and
the read end of every tracked worker, nothing is closed that is not held or that a slot still names,
and what was opened is closed exactly once.
-/

namespace Superserver

namespace Supervisor

open Kernel ProcessTable

/-! ### One admission -/

theorem opens_inert {calls : List Call} (modes : Inert calls) : Opens calls [] [] := by
  obtain ⟨opened, closed⟩ := none_of_plain fun call member =>
    Call.isPlain_of_isInert (modes call member)
  exact ⟨opened, closed, passingIn_of_openedIn opened⟩

theorem opens_one {call : Call} (stays : call.closed = []) :
    Opens [call] call.opened call.passing where
  opened := List.flatMap_singleton ..
  closed := by simp [stays]
  passing := List.flatMap_singleton ..

theorem opens_accepting {listener connection : Descriptor} {peer : PeerAddress}
    {calls : List Call} (accepting : Accepting listener calls (.ok (connection, peer))) :
    Opens calls [connection] [connection] := by
  cases accepting with
  | @accepted arrival _ _ modes =>
      have taken := opens_one (rfl : (Call.accept listener (.ok arrival)).closed = [])
      exact taken.append (opens_inert modes)

theorem opens_piping {ends : Descriptor × Descriptor} {calls : List Call}
    (piping : Piping calls (.ok ends)) : Opens calls [ends.1, ends.2] [ends.2] := by
  cases piping with
  | opened modes =>
      have made := opens_one (rfl : (Call.pipe (.ok ends)).closed = [])
      exact made.append (opens_inert modes)

theorem settles_accepting {listener : Descriptor} {error : SystemError} {calls : List Call}
    (accepting : Accepting listener calls (.error error)) :
    ∃ opens closes, calls = opens ++ closes ∧ Settles opens closes [] := by
  cases accepting with
  | refused =>
      have refused := opens_one (rfl : (Call.accept listener (.error error)).closed = [])
      exact ⟨_, [], (List.append_nil _).symm,
        refused.settles_none rfl (List.Perm.refl [])⟩
  | @dropped arrival _ _ modes =>
      have taken := opens_one (rfl : (Call.accept listener (.ok arrival)).closed = [])
      exact ⟨_, [.close arrival.1], rfl, (taken.append (opens_inert modes)).settles_none rfl
        (List.Perm.refl [arrival.1])⟩

theorem settles_beginning {connection : Descriptor} {remote : String}
    {table grown : ProcessTable}
    {first calls : List Call} {notices : List Notice} {outcome : Except AdmissionError Worker}
    (accepted : Opens first [connection] [connection])
    (beginning : Beginning connection remote table calls notices outcome grown) :
    ∃ opens closes, first ++ calls = opens ++ closes ∧
      Settles opens closes (outcome.toOption.map (·.diagnostics)).toList := by
  cases beginning with
  | @pipeless _ error piping =>
      cases piping with
      | refused =>
          have refused := opens_one (rfl : (Call.pipe (.error error)).closed = [])
          exact ⟨_, [.close connection], (List.append_assoc ..).symm,
            (accepted.append refused).settles_none rfl (List.Perm.refl [connection])⟩
      | @undone ends modes _ quiet =>
          have made := opens_piping (Piping.opened quiet : Piping _ (.ok ends))
          exact ⟨_, [.close ends.2, .close ends.1, .close connection], by simp,
            (accepted.append made).settles_none rfl (List.reverse_perm _).symm⟩
  | @roomless _ ends error piping made =>
      exact ⟨_, _, (List.append_assoc ..).symm,
        (accepted.append (opens_piping piping)).settles_none rfl (List.reverse_perm _).symm⟩
  | @uncopied _ ends _ _ error piping made =>
      have refused := opens_one (rfl : (Call.duplicate connection (.error error)).closed = [])
      exact ⟨_, [.close ends.2, .close ends.1, .close connection], by simp,
        ((accepted.append (opens_piping piping)).append refused).settles_none rfl
          (List.reverse_perm _).symm⟩
  | @unstarted _ ends _ _ input request error piping made =>
      have copied := opens_one (rfl : (Call.duplicate connection (.ok input)).closed = [])
      have returned : [connection, ends.1, ends.2, input].Perm
          [input, connection, ends.2, ends.1] := by
        apply List.perm_iff_count.mpr
        intro descriptor
        simp only [List.count_cons]
        omega
      exact ⟨_, [.spawn request (.error error), .close input, .close connection, .close ends.2,
        .close ends.1], by simp,
        ((accepted.append (opens_piping piping)).append copied).settles_none rfl returned⟩
  | @started _ ends _ _ input request pid piping made =>
      have copied := opens_one (rfl : (Call.duplicate connection (.ok input)).closed = [])
      have opens := (accepted.append (opens_piping piping)).append copied
      refine ⟨_, [.spawn request (.ok pid), .close input, .close connection, .close ends.2],
        by simp, opens.closed, rfl, ?_, ?_⟩
      · rw [opens.opened]
        apply List.perm_iff_count.mpr
        intro descriptor
        simp [Call.opened, Call.closed, Except.toOption, List.count_cons]
        omega
      · rw [opens.opened, opens.passing]
        intro distinct
        have distinct : [connection, ends.1, ends.2, input].Nodup := distinct
        have kept : ends.1 ∉ [connection, ends.2, input] := by
          simp only [List.nodup_cons, List.mem_cons, List.not_mem_nil, or_false] at distinct ⊢
          grind
        intro descriptor passed member
        obtain rfl : descriptor = ends.1 := List.mem_singleton.mp member
        exact kept passed

theorem settles_admitting {listener : Descriptor} {table after : ProcessTable}
    {calls : List Call} {later : List Notice} {outcome : Except TickError Bool}
    (admitting : Admitting listener table calls later outcome after) :
    ∃ opens closes kept, calls = opens ++ closes ∧ Settles opens closes kept ∧
      after.workers.map (·.diagnostics) = table.workers.map (·.diagnostics) ++ kept := by
  have grown : ∀ {connection remote calls notices outcome grown},
      Beginning connection remote table calls notices outcome grown →
        grown.workers = table.workers := by
    intro connection remote calls notices outcome grown beginning
    cases beginning with
    | pipeless | roomless => rfl
    | uncopied _ made | unstarted _ made | started _ made => exact (asides_of_reserveOne made).2
  cases admitting with
  | ignored accepting | failed accepting =>
      obtain ⟨opens, closes, calls, settles⟩ := settles_accepting accepting
      exact ⟨opens, closes, [], calls, settles, by simp⟩
  | refused accepting beginning =>
      obtain ⟨opens, closes, calls, settles⟩ :=
        settles_beginning (opens_accepting accepting) beginning
      exact ⟨opens, closes, [], calls, settles, by simp [grown beginning]⟩
  | @admitted _ _ _ _ _ worker _ accepting beginning =>
      obtain ⟨opens, closes, calls, settles⟩ :=
        settles_beginning (opens_accepting accepting) beginning
      exact ⟨opens, closes, [worker.diagnostics], calls, settles, by
        simp [ProcessTable.push, grown beginning]⟩

/-! ### One pass -/

section

variable {σ : Type} (kernel : Kernel σ)

def removals (kernel : Kernel σ) :
    (unasked index : Nat) → ProcessTable → σ → List (Worker × ProcessTable)
  | 0, _, _, _ => []
  | unasked + 1, index, table, state =>
      match table.workers[index]? with
      | none => []
      | some worker =>
          match lastReports kernel worker state with
          | (none, after) => removals kernel unasked (index + 1) table after
          | (some _, after) =>
              (worker, (table.remove index).2) ::
                removals kernel unasked index (table.remove index).2
                  (kernel.close worker.diagnostics after)

/-- The closings of a pass in their order, with a table of all the slots that there are then: what
a removal leaves, and after the poll the table at the end of the pass. -/
def closings (supervisor : Supervisor) (before : σ × List Call) :
    List (Descriptor × ProcessTable) :=
  let look := supervisor.look kernel.transcribing before
  let next := supervisor.tick kernel.transcribing before
  (removals kernel.transcribing supervisor.table.length 0 supervisor.table before).map
      (fun removal => (removal.1.diagnostics, removal.2)) ++
    (closedIn (written look.answer.2 next.state)).map fun descriptor =>
      (descriptor, next.supervisor.table)

theorem plain_of_asking (worker : Worker) (answer : Except SystemError (Option Int))
    (answers : List (Except SystemError Bytes)) :
    ∀ call ∈ Call.wait worker.pid answer :: answers.map (.read worker.diagnostics),
      call.isPlain = true := by
  intro call member
  rcases List.mem_cons.mp member with rfl | member
  · rfl
  · obtain ⟨_, _, rfl⟩ := List.mem_map.mp member
    rfl

/-- Reaping opens nothing and closes the pipes of those whom it removes. -/
theorem closings_of_askings (unasked index : Nat) (table : ProcessTable)
    (before : σ × List Call) :
    let calls :=
      (askingsFrom kernel.transcribing unasked index table before).flatMap Asking.calls
    openedIn calls = [] ∧
      closedIn calls =
        (removals kernel.transcribing unasked index table before).map (·.1.diagnostics) := by
  induction unasked generalizing index table before with
  | zero => exact ⟨rfl, rfl⟩
  | succ unasked ih =>
      cases found : table.workers[index]? with
      | none => simp [askingsFrom, removals, found]
      | some worker =>
          obtain ⟨answer, answers, asked⟩ := lastReports_writes kernel worker before
          obtain ⟨opened, closed⟩ := none_of_plain (plain_of_asking worker answer answers)
          rcases last : lastReports kernel.transcribing worker before with ⟨reports, after⟩
          rw [last] at asked
          have apart := written_of_append asked
          cases reports with
          | none =>
              obtain ⟨openedRest, closedRest⟩ := ih (index + 1) table after
              simp only [askingsFrom, removals, found, last, List.flatMap_cons, Asking.calls,
                Asking.stays, apart, Option.isNone_none, if_true, List.append_nil]
              constructor
              · rw [openedIn_append, opened, openedRest]
                rfl
              · rw [closedIn_append, closed, closedRest]
                rfl
          | some reports =>
              obtain ⟨openedRest, closedRest⟩ := ih index (table.remove index).2
                (kernel.transcribing.close worker.diagnostics after)
              simp only [askingsFrom, removals, found, last, List.flatMap_cons, Asking.calls,
                Asking.stays, apart, Option.isNone_some, Bool.false_eq_true, if_false]
              constructor
              · rw [openedIn_append, openedIn_append, opened, openedRest]
                rfl
              · rw [closedIn_append, closedIn_append, closed, closedRest]
                rfl

theorem remove_perm {table : ProcessTable} {index : Nat} {worker : Worker}
    (found : table.workers[index]? = some worker) :
    (worker :: (table.remove index).2.workers).Perm table.workers := by
  have removed : (table.remove index).2.workers = swapRemove index table.workers := by
    simp [ProcessTable.remove, found]
  have inside := (List.getElem?_eq_some_iff.mp found).1
  rw [removed]
  exact ((swapRemove_perm inside).cons worker).trans (cons_eraseIdx_perm found)

/-- Those who are removed and those who stay are those who were there. -/
theorem removals_perm (unasked index : Nat) (table : ProcessTable) (state : σ) :
    ((removals kernel unasked index table state).map (·.1) ++
      (reapFrom kernel unasked index table state).table.workers).Perm table.workers := by
  induction unasked generalizing index table state with
  | zero => exact List.Perm.refl _
  | succ unasked ih =>
      cases found : table.workers[index]? with
      | none =>
          simp only [removals, reapFrom, found]
          exact List.Perm.refl _
      | some worker =>
          rcases asked : lastReports kernel worker state with ⟨last, after⟩
          simp only [removals, reapFrom, found, asked]
          cases last with
          | none => exact ih (index + 1) table after
          | some reports => exact ((ih index _ _).cons worker).trans (remove_perm found)

theorem subject_of_slot {listener : Descriptor} {table : ProcessTable}
    (sound : Lockstep listener table) {slot : PollSlot} (member : slot ∈ table.slots) :
    slot.subject = listener ∨ ∃ worker ∈ table.workers, slot.subject = worker.diagnostics := by
  have shown : slot.descriptor ∈ table.slots.map (·.descriptor) := List.mem_map_of_mem member
  rw [sound.inStep] at shown
  rcases List.mem_cons.mp shown with first | shown
  · left
    have watched : ¬slot.descriptor < 0 := by omega
    rw [PollSlot.subject, if_neg watched, first]
  · obtain ⟨worker, tracked, same⟩ := List.mem_map.mp shown
    exact .inr ⟨worker, tracked, PollSlot.subject_of_watched same.symm⟩

/-- No slot is about a worker that was removed. -/
theorem removals_unnamed {listener : Descriptor} (unasked index : Nat) (table : ProcessTable)
    (state : σ) (sound : Lockstep listener table)
    (apart : (listener :: table.workers.map (·.diagnostics)).Nodup) :
    ∀ removal ∈ removals kernel unasked index table state, ∀ slot ∈ removal.2.slots,
      slot.subject ≠ removal.1.diagnostics := by
  induction unasked generalizing index table state with
  | zero => simp [removals]
  | succ unasked ih =>
      cases found : table.workers[index]? with
      | none => simp [removals, found]
      | some worker =>
          rcases asked : lastReports kernel worker state with ⟨last, after⟩
          simp only [removals, found, asked]
          cases last with
          | none => exact ih (index + 1) table after sound apart
          | some reports =>
              have left := sound.remove index
              have names := ((remove_perm found).map (·.diagnostics)).cons listener
              have apart := names.nodup_iff.mpr apart
              simp only [List.map_cons, List.nodup_cons, List.mem_cons, not_or] at apart
              intro removal member slot listed
              rcases List.mem_cons.mp member with rfl | member
              · intro names
                rcases subject_of_slot left listed with first | ⟨other, tracked, same⟩
                · exact apart.1.1 (Int.ofNat_inj.mp (first.symm.trans names))
                · have same : worker.diagnostics = other.diagnostics :=
                    Int.ofNat_inj.mp (names.symm.trans same)
                  exact apart.2.1 (same ▸ List.mem_map_of_mem tracked)
              · refine ih index _ _ left ?_ removal member slot listed
                exact List.nodup_cons.mpr ⟨apart.1.2, apart.2.2⟩

/-- After its poll a pass opens at most what one admission needs, and closes all of it but the pipe
of a new worker. -/
theorem settles_ending {look : Look σ} {sent : Forwarded σ} {listener : Descriptor}
    {last : List Call} {next : Ticked σ} (ending : Ending listener look sent last next) :
    ∃ opens closes kept, last = opens ++ closes ∧ Settles opens closes kept ∧
      next.supervisor.table.workers.map (·.diagnostics) =
        sent.table.workers.map (·.diagnostics) ++ kept := by
  cases ending with
  | shut table =>
      have none : Opens [] [] [] := ⟨rfl, rfl, rfl⟩
      exact ⟨[], [], [], rfl, none.settles_none rfl (List.Perm.refl []), by
        simp [table]⟩
  | tried admitting => exact settles_admitting admitting

def named (listener : Descriptor) (table : ProcessTable) : Multiset Descriptor :=
  listener ::ₘ (table.workers.map (·.diagnostics) : List Descriptor)

/-- Calls that close the pipes of the removed workers and nothing else leave what is behind the table
that reaping leaves. -/
theorem holdings_of_removals {listener : Descriptor} {asked : List Call} (table : ProcessTable)
    (before : σ × List Call) (asks : openedIn asked = [])
    (removes : closedIn asked =
      (removals kernel.transcribing table.length 0 table before).map (·.1.diagnostics)) :
    holdings (named listener table) asked =
      some (named listener (reap kernel.transcribing table before).table) := by
  have stay := removals_perm kernel.transcribing table.length 0 table before
  have first : named listener table = closedIn asked +
      named listener (reap kernel.transcribing table before).table := by
    have names := Multiset.coe_eq_coe.mpr (stay.map (·.diagnostics))
    rw [List.map_append, List.map_map, ← Multiset.coe_add] at names
    rw [named, ← names, removes, named, Multiset.add_cons]
    rfl
  rw [first]
  exact holdings_of_close asks _

/-- The calls of a pass: it closes the pipes of those whom it removes, polls and reads without
opening or closing anything, and then opens and closes for its admission. -/
structure Phases (supervisor : Supervisor) (before : σ × List Call)
    (asked heard opens closes : List Call) (kept : List Descriptor) : Prop where
  written : (supervisor.tick kernel.transcribing before).state.2 =
    before.2 ++ (asked ++ (heard ++ (opens ++ closes)))
  polled : (supervisor.look kernel.transcribing before).answer.2.2 = before.2 ++ asked
  asks : openedIn asked = []
  removes : closedIn asked =
    (removals kernel.transcribing supervisor.table.length 0 supervisor.table before).map
      (·.1.diagnostics)
  plain : ∀ call ∈ heard, call.isPlain = true
  settles : Settles opens closes kept
  ends : Ending supervisor.listener.descriptor (supervisor.look kernel.transcribing before)
    ((supervisor.look kernel.transcribing before).attended kernel.transcribing) (opens ++ closes)
    (supervisor.tick kernel.transcribing before)
  tracked : (supervisor.tick kernel.transcribing before).supervisor.table.workers.map
      (·.diagnostics) =
    (reap kernel.transcribing supervisor.table before).table.workers.map (·.diagnostics) ++ kept

theorem tick_phases {listener : Descriptor} {supervisor : Supervisor}
    (sound : Lockstep listener supervisor.table) (before : σ × List Call) :
    ∃ asked heard opens closes kept,
      Phases kernel supervisor before asked heard opens closes kept := by
  obtain ⟨last, ending, written⟩ := tick_writes kernel sound before
  obtain ⟨apt, _, _⟩ := turns_spec kernel.transcribing supervisor before sound
  obtain ⟨opened, closed⟩ := closings_of_askings kernel supervisor.table.length 0
    supervisor.table before
  obtain ⟨opens, closes, kept, rfl, settles, tracked⟩ := settles_ending ending
  have same := congrArg (List.map Prod.snd)
    (named_attended kernel.transcribing supervisor before sound)
  rw [List.map_map, List.map_map] at same
  refine ⟨_, _, opens, closes, kept, written, look_writes kernel supervisor before, ?_, ?_,
    plain_of_turns kernel apt, settles, ending, ?_⟩
  · rw [Look.calls, openedIn_append, opened]
    rfl
  · rw [Look.calls, closedIn_append, closed]
    simp [Call.closed]
  · rw [tracked]
    exact congrArg (· ++ kept) same

section

variable {kernel} {listener : Descriptor} {supervisor : Supervisor} {before : σ × List Call}
  {asked heard opens closes : List Call} {kept : List Descriptor}

theorem Phases.hears
    (phases : Phases kernel supervisor before asked heard opens closes kept) :
    openedIn heard = [] ∧ closedIn heard = [] := none_of_plain phases.plain

/-- From the poll until the admission begins, what is held is behind the table that reaping left. -/
theorem Phases.holdings_asked
    (phases : Phases kernel supervisor before asked heard opens closes kept) :
    holdings (named listener supervisor.table) asked =
      some (named listener (reap kernel.transcribing supervisor.table before).table) :=
  holdings_of_removals kernel supervisor.table before phases.asks phases.removes

theorem Phases.holdings_heard
    (phases : Phases kernel supervisor before asked heard opens closes kept) :
    holdings (named listener supervisor.table) (asked ++ heard) =
      some (named listener (reap kernel.transcribing supervisor.table before).table) := by
  rw [holdings_append, phases.holdings_asked, Option.bind_some,
    holdings_of_open phases.hears.2, phases.hears.1, Multiset.coe_nil, zero_add]

theorem Phases.named_tick
    (phases : Phases kernel supervisor before asked heard opens closes kept) :
    named listener (supervisor.tick kernel.transcribing before).supervisor.table =
      kept + named listener (reap kernel.transcribing supervisor.table before).table := by
  rw [named, named, phases.tracked, ← Multiset.coe_add]
  simp only [← Multiset.singleton_add]
  abel

theorem Phases.holdings_tick
    (phases : Phases kernel supervisor before asked heard opens closes kept) :
    holdings (named listener supervisor.table) (asked ++ (heard ++ (opens ++ closes))) =
      some (named listener (supervisor.tick kernel.transcribing before).supervisor.table) := by
  rw [← List.append_assoc, holdings_append, phases.holdings_heard, Option.bind_some,
    phases.settles.holdings, phases.named_tick]

/-- With fresh numbers, what an admission opens is apart from itself and from what is named. -/
theorem Phases.apart
    (phases : Phases kernel supervisor before asked heard opens closes kept)
    (distinct : (named listener supervisor.table).Nodup)
    (fresh : givesFresh (named listener supervisor.table)
      (asked ++ (heard ++ (opens ++ closes))) = true) :
    ((openedIn opens : Multiset Descriptor) +
      named listener (reap kernel.transcribing supervisor.table before).table).Nodup := by
  rw [← List.append_assoc, ← List.append_assoc, givesFresh, throughout_append,
    Bool.and_eq_true] at fresh
  have opened : holdings (named listener supervisor.table) (asked ++ heard ++ opens) =
      some (openedIn opens +
        named listener (reap kernel.transcribing supervisor.table before).table) := by
    rw [holdings_append, phases.holdings_heard, Option.bind_some,
      holdings_of_open phases.settles.opening]
  exact nodup_holdings distinct fresh.1 opened

end

/-! ### Whole runs -/

/-- After any number of passes the listener is held and the read end of each tracked worker. -/
theorem holdings_passes (listener : Listener) (command : ShellCommand) (limit : AdmissionLimit)
    (state : σ) (count : Nat) :
    let ran := passes kernel.transcribing (.new listener command limit) (state, []) count
    holdings {listener.descriptor} ran.state.2 =
      some (named listener.descriptor ran.supervisor.table) := by
  induction count with
  | zero => rfl
  | succ count ih =>
      intro ran
      have sound : Lockstep listener.descriptor _ :=
        lockstep_passes kernel.transcribing listener command limit (state, []) count
      obtain ⟨asked, heard, opens, closes, kept, phases⟩ := tick_phases kernel sound
        (passes kernel.transcribing (.new listener command limit) (state, []) count).state
      have last : ran.state.2 = _ := phases.written
      rw [last, holdings_append, ih]
      exact phases.holdings_tick

section

variable {kernel} {listener : Descriptor} {supervisor : Supervisor} {before : σ × List Call}
  {asked heard opens closes : List Call} {kept : List Descriptor}

/-- What was opened only to be passed on is closed once before the pass ends. -/
theorem Phases.passing_closed
    (phases : Phases kernel supervisor before asked heard opens closes kept)
    (distinct : (named listener supervisor.table).Nodup)
    (fresh : givesFresh (named listener supervisor.table)
      (asked ++ (heard ++ (opens ++ closes))) = true)
    {earlier later : List Call} {call : Call}
    (split : asked ++ (heard ++ (opens ++ closes)) = earlier ++ call :: later)
    {descriptor : Descriptor} (handed : descriptor ∈ call.passing) :
    (closedIn later).count descriptor = 1 := by
  have apart := phases.apart distinct fresh
  have gives := call.mem_opened_of_passing handed
  have opened : openedIn opens = openedIn earlier ++ (call.opened ++ openedIn later) := by
    have whole := congrArg openedIn split
    simpa [phases.asks, phases.hears.1, phases.settles.closing] using whole
  have passed : descriptor ∈ passingIn opens := by
    have whole := congrArg passingIn split
    simp only [passingIn_append, passingIn_of_openedIn phases.asks,
      passingIn_of_openedIn phases.hears.1, passingIn_of_openedIn phases.settles.closing,
      passingIn_cons, List.nil_append, List.append_nil] at whole
    rw [whole]
    simp [handed]
  have once : (openedIn opens).Nodup := (Multiset.nodup_add.mp apart).1
  have only : descriptor ∉ openedIn later := by
    rw [opened] at once
    have rest := (List.nodup_append.mp once).2.1
    intro again
    exact (List.nodup_append.mp rest).2.2 descriptor gives descriptor again rfl
  have settled : holdings (named listener supervisor.table)
      (asked ++ (heard ++ (opens ++ closes))) = _ := phases.holdings_tick
  rw [split] at settled fresh
  have ended : givesFresh (named listener supervisor.table)
      (earlier ++ call :: (later ++ [])) = true := by rwa [List.append_nil]
  have balance := closed_once ended gives only settled
  have gone : (named listener
      (supervisor.tick kernel.transcribing before).supervisor.table).count descriptor = 0 := by
    rw [phases.named_tick, Multiset.count_add, Multiset.coe_count,
      List.count_eq_zero_of_not_mem (phases.settles.handed once descriptor passed), zero_add]
    apply Multiset.count_eq_zero_of_notMem
    apply Multiset.disjoint_left.mp (Multiset.nodup_add.mp apart).2.2
    rw [opened]
    simp [gives]
  omega

theorem Phases.written_polled
    (phases : Phases kernel supervisor before asked heard opens closes kept) :
    Kernel.written (supervisor.look kernel.transcribing before).answer.2
      (supervisor.tick kernel.transcribing before).state = heard ++ (opens ++ closes) := by
  apply written_of_append
  rw [phases.written, phases.polled, List.append_assoc]

theorem Phases.closedIn_closings
    (phases : Phases kernel supervisor before asked heard opens closes kept) :
    (closings kernel supervisor before).map Prod.fst =
      closedIn (asked ++ (heard ++ (opens ++ closes))) := by
  simp only [closings, phases.written_polled, closedIn_append, phases.removes, List.map_append,
    List.map_map]
  simp [Function.comp_def]

/-- With fresh numbers nothing is closed that a slot is about. -/
theorem Phases.closings_unnamed
    (phases : Phases kernel supervisor before asked heard opens closes kept)
    (sound : Lockstep listener supervisor.table)
    (after : Lockstep listener (supervisor.tick kernel.transcribing before).supervisor.table)
    (distinct : (named listener supervisor.table).Nodup)
    (fresh : givesFresh (named listener supervisor.table)
      (asked ++ (heard ++ (opens ++ closes))) = true) :
    ∀ closing ∈ closings kernel supervisor before, ∀ slot ∈ closing.2.slots,
      slot.subject ≠ closing.1 := by
  have apart := phases.apart distinct fresh
  intro closing member slot listed
  simp only [closings, phases.written_polled, closedIn_append, phases.hears.2, phases.settles.opening,
    List.nil_append] at member
  rcases List.mem_append.mp member with member | member
  · obtain ⟨removal, removed, rfl⟩ := List.mem_map.mp member
    exact removals_unnamed kernel.transcribing _ 0 supervisor.table before sound distinct removal
      removed slot listed
  · obtain ⟨descriptor, closed, rfl⟩ := List.mem_map.mp member
    -- What the admission closes it has opened, apart from all that the slots are about then.
    rw [Multiset.coe_eq_coe.mpr phases.settles.balance, ← Multiset.coe_add, add_assoc,
      ← phases.named_tick] at apart
    have unnamed := Multiset.disjoint_left.mp (Multiset.nodup_add.mp apart).2.2
      (Multiset.mem_coe.mpr closed)
    intro names
    apply unnamed
    rcases subject_of_slot after listed with first | ⟨worker, tracked, same⟩
    · have same : descriptor = listener := Int.ofNat_inj.mp (names.symm.trans first)
      rw [same]
      exact Multiset.mem_cons_self _ _
    · have same : descriptor = worker.diagnostics := Int.ofNat_inj.mp (names.symm.trans same)
      rw [same]
      exact Multiset.mem_cons_of_mem (Multiset.mem_coe.mpr (List.mem_map_of_mem tracked))

end

/-- After every pass exactly the listener and one read end of each tracked worker are held, and no
call before closed what was not held. If the system gives no number that is in use, then what is
opened to be passed on is closed once in the same pass, whatever is opened is closed once, or held,
until its number is given out again, and nothing is closed that a slot is about. -/
theorem descriptors_accounted (listener : Listener) (command : ShellCommand)
    (limit : AdmissionLimit) (state : σ) (count : Nat) :
    let initial : Supervisor := .new listener command limit
    let ran := passes kernel.transcribing initial (state, []) count
    let next := ran.supervisor.tick kernel.transcribing ran.state
    let calls := written ran.state next.state
    (ran.seen Prod.fst = passes kernel initial state count ∧
      next.seen Prod.fst =
        (passes kernel initial state count).supervisor.tick kernel
          (passes kernel initial state count).state) ∧
    holdings {listener.descriptor} ran.state.2 =
      some (named listener.descriptor ran.supervisor.table) ∧
    (closings kernel ran.supervisor ran.state).map Prod.fst = closedIn calls ∧
    (givesFresh {listener.descriptor} next.state.2 = true →
      (∀ earlier call later, calls = earlier ++ call :: later →
        ∀ descriptor ∈ call.passing, (closedIn later).count descriptor = 1) ∧
      (∀ earlier call later rest held, next.state.2 = earlier ++ call :: (later ++ rest) →
        holdings {listener.descriptor} (earlier ++ call :: later) = some held →
        ∀ descriptor ∈ call.opened, descriptor ∉ openedIn later →
          (closedIn later).count descriptor + held.count descriptor = 1) ∧
      ∀ closing ∈ closings kernel ran.supervisor ran.state, ∀ slot ∈ closing.2.slots,
        slot.subject ≠ closing.1) := by
  intro initial ran next calls
  have sound : Lockstep listener.descriptor ran.supervisor.table :=
    lockstep_passes kernel.transcribing listener command limit (state, []) count
  have after : Lockstep listener.descriptor next.supervisor.table :=
    lockstep_passes kernel.transcribing listener command limit (state, []) (count + 1)
  have same : ran.seen Prod.fst = passes kernel initial state count :=
    passes_shows kernel.transcribing_shows initial (state, []) count
  have held := holdings_passes kernel listener command limit state count
  obtain ⟨asked, heard, opens, closes, kept, phases⟩ := tick_phases kernel sound ran.state
  have pass : calls = asked ++ (heard ++ (opens ++ closes)) := written_of_append phases.written
  refine ⟨⟨same, ?_⟩, held, ?_, ?_⟩
  · rw [← same]
    exact tick_shows kernel.transcribing_shows ran.supervisor ran.state
  · rw [pass]
    exact phases.closedIn_closings
  · intro fresh
    have whole : next.state.2 = _ := phases.written
    have parts := throughout_rest (whole ▸ fresh) held
    have distinct := nodup_holdings (Multiset.nodup_singleton _) parts.1 held
    refine ⟨?_, ?_, phases.closings_unnamed sound after distinct parts.2⟩
    · intro earlier call later split descriptor handed
      exact phases.passing_closed distinct parts.2 (pass.symm.trans split) handed
    · intro earlier call later rest left split settled descriptor gives only
      rw [split] at fresh
      exact closed_once fresh gives only settled

end

def freshNumbers : Kernel (Stage ReadScript) :=
  { Kernel.ofReader ReadScript.read with
    duplicate := fun _ stage => (.ok 1000, stage)
    spawn := fun _ stage =>
      if stage.started = 0 then (.ok 70, { stage with started := 1 })
      else (.error (.numbered 11), stage) }

theorem refused_second_client_accounted :
    let initial : Supervisor := .new smallListener { text := "printf" } { workers := 4 }
    let clients : Stage ReadScript := { source := {}, clients := 2 }
    let ran := passes freshNumbers.transcribing initial (clients, []) 1
    let next := ran.supervisor.tick freshNumbers.transcribing ran.state
    closedIn (written ran.state next.state) = [5, 1000, 4, 8, 7] ∧
      givesFresh {smallListener.descriptor} next.state.2 = true ∧
      ∀ closing ∈ closings freshNumbers ran.supervisor ran.state, ∀ slot ∈ closing.2.slots,
        slot.subject ≠ closing.1 := by
  intro initial clients ran next
  have closed : closedIn (written ran.state next.state) = [5, 1000, 4, 8, 7] := by
    decide +kernel
  have fresh : givesFresh {smallListener.descriptor} next.state.2 = true := by decide +kernel
  have accounted := (descriptors_accounted freshNumbers smallListener
    { text := "printf" } { workers := 4 } clients 1).2.2.2
  have unnamed := accounted (by decide +kernel)
  exact ⟨closed, fresh, unnamed.2.2⟩

end Supervisor

end Superserver
