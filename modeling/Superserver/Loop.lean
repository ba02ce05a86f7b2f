import Superserver.Supervisor.Basic

/-!
The loop around a ticker: it ticks until it has been asked to stop, and only looks for that
between two ticks. An error of a tick is logged and never ends the loop.
-/

namespace Superserver

namespace Loop

structure Turn where
  outcome : Except TickError Outcome
  stopRequested : Bool

structure Stats where
  ticks : Nat := 0
  idle : Nat := 0
  errors : Nat := 0
deriving DecidableEq

namespace Stats

def count (stats : Stats) (outcome : Except TickError Outcome) : Stats :=
  { ticks := stats.ticks + 1
    idle := stats.idle + match outcome with | .ok .idle => 1 | _ => 0
    errors := stats.errors + match outcome with | .error _ => 1 | _ => 0 }

end Stats

def target : String := "served::driver"

def failureRecord : Except TickError Outcome → Option Record
  | .ok _ => none
  | .error error =>
      some { level := .error, target,
             message := s!"Internal error while running the executor: {error}" }

def closingRecord (stats : Stats) : Record :=
  { level := .info, target, message := "Shutdown requested",
    fields :=
      [{ name := "ticks", value := toString stats.ticks },
        { name := "errors", value := toString stats.errors }] }

structure Run where
  stats : Stats
  left : List Turn
  stopped : Bool
  records : List Record

/-- Takes turns until the stop is requested; without a turn left the loop is still running. -/
def runFrom (stats : Stats) : (stopRequested : Bool) → List Turn → Run
  | true, left => { stats, left, stopped := true, records := [closingRecord stats] }
  | false, [] => { stats, left := [], stopped := false, records := [] }
  | false, turn :: left =>
      let run := runFrom (stats.count turn.outcome) turn.stopRequested left
      { run with records := (failureRecord turn.outcome).toList ++ run.records }

def run (stopRequested : Bool) (turns : List Turn) : Run := runFrom {} stopRequested turns

/-- The turns of a ticker that plays back outcomes and asks to stop with the last of them, or with
tick number `stopAt`. Without any outcome it is idle once. -/
def scriptFrom (stopAt : Nat) : Nat → List (Except TickError Outcome) → List Turn
  | _, [] => []
  | _, [outcome] => [⟨outcome, true⟩]
  | number, outcome :: rest => ⟨outcome, number = stopAt⟩ :: scriptFrom stopAt (number + 1) rest

def script (stopAt : Nat) : List (Except TickError Outcome) → List Turn
  | [] => [⟨.ok .idle, true⟩]
  | outcomes => scriptFrom stopAt 1 outcomes

end Loop

end Superserver
