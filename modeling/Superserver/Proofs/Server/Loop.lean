import Mathlib.Data.List.Basic
import Superserver.Loop

/-!
The loop around any ticker. Main statement: it takes the turns up to the first one after which it
has been asked to stop and no more, whatever becomes of them, counts them and logs each failure.
-/

namespace Superserver

namespace Loop

namespace Turn

def isIdle (turn : Turn) : Bool :=
  match turn.outcome with
  | .ok .idle => true
  | _ => false

def error? (turn : Turn) : Option TickError :=
  match turn.outcome with
  | .error error => some error
  | .ok _ => none

end Turn

/-- How many turns the loop takes before it stops; it goes on if there are no more than that. -/
def due (stopRequested : Bool) (turns : List Turn) : Nat :=
  if stopRequested then 0 else turns.findIdx (·.stopRequested) + 1

theorem due_cons (turn : Turn) (turns : List Turn) :
    due false (turn :: turns) = due turn.stopRequested turns + 1 := by
  cases asked : turn.stopRequested with
  | true => simp [due, List.findIdx_cons, asked]
  | false => simp [due, List.findIdx_cons, asked]

def tally (stats : Stats) (turns : List Turn) : Stats :=
  turns.foldl (fun stats turn => stats.count turn.outcome) stats

theorem tally_eq (stats : Stats) (turns : List Turn) :
    tally stats turns =
      { ticks := stats.ticks + turns.length
        idle := stats.idle + turns.countP Turn.isIdle
        errors := stats.errors + (turns.filterMap Turn.error?).length } := by
  induction turns generalizing stats with
  | nil => rfl
  | cons turn turns ih =>
      have rest : tally stats (turn :: turns) = tally (stats.count turn.outcome) turns := rfl
      rw [rest, ih, Stats.mk.injEq]
      obtain ⟨outcome, asked⟩ := turn
      cases outcome with
      | error error =>
          have busy : ¬ Turn.isIdle ⟨.error error, asked⟩ = true := Bool.false_ne_true
          have failed : Turn.error? ⟨.error error, asked⟩ = some error := rfl
          rw [List.countP_cons_of_neg busy, List.filterMap_cons_some failed]
          simp only [Stats.count, List.length_cons]
          omega
      | ok outcome =>
          have fine : Turn.error? ⟨.ok outcome, asked⟩ = none := rfl
          rw [List.filterMap_cons_none fine]
          cases outcome with
          | idle =>
              have idle : Turn.isIdle ⟨.ok .idle, asked⟩ = true := rfl
              rw [List.countP_cons_of_pos idle]
              simp only [Stats.count, List.length_cons]
              omega
          | active =>
              have busy : ¬ Turn.isIdle ⟨.ok .active, asked⟩ = true := Bool.false_ne_true
              rw [List.countP_cons_of_neg busy]
              simp only [Stats.count, List.length_cons]
              omega

theorem failureRecord_eq (turn : Turn) :
    failureRecord turn.outcome = turn.error?.map fun error =>
      { level := .error, target := "served::driver",
        message := "Internal error while running the executor: " ++ error.message } := by
  obtain ⟨outcome, asked⟩ := turn
  cases outcome with
  | error error => rfl
  | ok outcome => rfl

theorem failureRecords_eq (turns : List Turn) :
    turns.filterMap (fun turn => failureRecord turn.outcome) =
      (turns.filterMap Turn.error?).map fun error =>
        { level := .error, target := "served::driver",
          message := "Internal error while running the executor: " ++ error.message } := by
  rw [List.map_filterMap]
  exact List.filterMap_congr fun turn _ => failureRecord_eq turn

/-- The loop with what it has counted before. -/
theorem runFrom_eq (stats : Stats) (stopRequested : Bool) (turns : List Turn) :
    let taken := turns.take (due stopRequested turns)
    let stopped := stopRequested || turns.any (·.stopRequested)
    runFrom stats stopRequested turns =
      { stats := tally stats taken
        left := turns.drop (due stopRequested turns)
        stopped
        records := taken.filterMap (fun turn => failureRecord turn.outcome) ++
          if stopped then [closingRecord (tally stats taken)] else [] } := by
  -- What was counted is general, for the first turn counts before the others are taken.
  induction turns generalizing stats stopRequested with
  | nil =>
      cases stopRequested with
      | true => rfl
      | false => rfl
  | cons turn turns ih =>
      cases stopRequested with
      | true => rfl
      | false =>
          intro taken stopped
          have first : taken = turn :: turns.take (due turn.stopRequested turns) := by
            simp only [taken, due_cons, List.take_succ_cons]
          have next := ih (stats.count turn.outcome) turn.stopRequested
          have whole : runFrom stats false (turn :: turns) = _ :=
            congrArg (fun run : Run =>
              { run with records := (failureRecord turn.outcome).toList ++ run.records }) next
          rw [whole, first, due_cons, List.drop_succ_cons]
          cases failed : failureRecord turn.outcome with
          | none => simp [tally, stopped, failed]
          | some record => simp [tally, stopped, failed]

theorem due_le_of_stops {stopRequested : Bool} {turns : List Turn}
    (stops : (stopRequested || turns.any (·.stopRequested)) = true) :
    due stopRequested turns ≤ turns.length := by
  cases stopRequested with
  | true => exact Nat.zero_le _
  | false =>
      obtain ⟨turn, here, asked⟩ := List.any_eq_true.mp stops
      exact List.findIdx_lt_length_of_exists ⟨turn, here, asked⟩

theorem due_append_of_stops {stopRequested : Bool} {turns : List Turn}
    (stops : (stopRequested || turns.any (·.stopRequested)) = true) (later : List Turn) :
    due stopRequested (turns ++ later) = due stopRequested turns := by
  cases stopRequested with
  | true => rfl
  | false =>
      have early : turns.findIdx (·.stopRequested) < turns.length := due_le_of_stops stops
      show (turns ++ later).findIdx (·.stopRequested) + 1 = _
      rw [List.findIdx_append, if_pos early]
      rfl

theorem runFrom_append (stats : Stats) {stopRequested : Bool} {turns : List Turn}
    (stops : (stopRequested || turns.any (·.stopRequested)) = true) (later : List Turn) :
    runFrom stats stopRequested (turns ++ later) =
      let run := runFrom stats stopRequested turns
      { run with left := run.left ++ later } := by
  have enough : due stopRequested turns ≤ turns.length := due_le_of_stops stops
  have stopsAnyway : (stopRequested || (turns ++ later).any (·.stopRequested)) = true := by
    rw [List.any_append, ← Bool.or_assoc, stops, Bool.true_or]
  rw [runFrom_eq, runFrom_eq]
  simp only [due_append_of_stops stops, List.take_append_of_le_length enough,
    List.drop_append_of_le_length enough, stops, stopsAnyway]

/-- The loop takes the turns that are due and leaves the others as they are; it counts the idle
ones and those that failed, and its log has a line for each failure and one at the end. When it has
stopped, turns that could have followed make no difference. -/
theorem stops_after_first_request (stopRequested : Bool) (turns : List Turn) :
    let run := run stopRequested turns
    let taken := turns.take (due stopRequested turns)
    let failures := taken.filterMap Turn.error?
    run.left = turns.drop (due stopRequested turns) ∧
    run.stopped = (stopRequested || turns.any (·.stopRequested)) ∧
    run.stats =
      { ticks := taken.length, idle := taken.countP Turn.isIdle, errors := failures.length } ∧
    run.records =
      failures.map (fun error =>
        { level := .error, target := "served::driver",
          message := "Internal error while running the executor: " ++ error.message }) ++
      (if run.stopped then
        [{ level := .info, target := "served::driver", message := "Shutdown requested",
           fields := [⟨"ticks", toString taken.length, false⟩,
             ⟨"errors", toString failures.length, false⟩] }]
      else []) ∧
    ∀ later, run.stopped = true →
      Loop.run stopRequested (turns ++ later) = { run with left := run.left ++ later } := by
  intro run taken failures
  have whole : run = _ := runFrom_eq {} stopRequested turns
  have counted : tally {} taken =
      { ticks := taken.length, idle := taken.countP Turn.isIdle, errors := failures.length } := by
    rw [tally_eq]
    simp only [Nat.zero_add, failures]
  have stopped : run.stopped = (stopRequested || turns.any (·.stopRequested)) :=
    congrArg Run.stopped whole
  have logged := congrArg Run.records whole
  refine ⟨congrArg Run.left whole, stopped, ?_, ?_, ?_⟩
  · exact (congrArg Run.stats whole).trans counted
  · rw [logged, stopped, failureRecords_eq, counted]
    rfl
  · intro later stops
    exact runFrom_append {} (stopped ▸ stops) later

/-- A loop that is asked to stop while a turn fails. -/
theorem stops_after_failing_turn :
    let turns : List Turn :=
      [⟨.ok .idle, false⟩, ⟨.error (.poll (.numbered 9)), false⟩,
        ⟨.error (.accept (.numbered 22)), true⟩, ⟨.ok .active, false⟩]
    (run false turns).stopped = true ∧
    (run false turns).left = [⟨.ok .active, false⟩] ∧
    (run false turns).stats = { ticks := 3, idle := 1, errors := 2 } ∧
    ∀ later, run false (turns ++ later) =
      { run false turns with left := (run false turns).left ++ later } := by
  intro turns
  obtain ⟨left, stopped, counted, _, others⟩ := stops_after_first_request false turns
  have stops : (run false turns).stopped = true := stopped.trans rfl
  exact ⟨stops, left, counted, fun later => others later stops⟩

end Loop

end Superserver
