/-!
Growth of a table: doubling from one entry, held at a ceiling.
-/

namespace Superserver

namespace Capacity

def wordMax : Nat := UInt64.size - 1

/-- The next capacity after `current`, none once `ceiling` is reached. The double is held at the
largest machine word, which the ceiling then hides. -/
def grown? (current ceiling : Nat) : Option Nat :=
  if ceiling ≤ current then none
  else if current = 0 then some 1
  else some (min (min (current * 2) wordMax) ceiling)

theorem grown?_eq_none_iff {current ceiling : Nat} :
    grown? current ceiling = none ↔ ceiling ≤ current := by
  unfold grown?
  split
  · rename_i reached
    simpa using reached
  · rename_i below
    split <;> simpa using below

theorem grown?_bounds {current ceiling next : Nat} (word : ceiling ≤ wordMax)
    (grown : grown? current ceiling = some next) : current < next ∧ next ≤ ceiling := by
  unfold grown? at grown
  split at grown
  · simp at grown
  · split at grown
    · simp only [Option.some.injEq] at grown
      omega
    · simp only [Option.some.injEq] at grown
      omega

/-- The capacities that follow one another from `current`, at most `steps` of them; the last is
`none` if the ceiling was reached. -/
def chain (ceiling : Nat) : Nat → Nat → List (Option Nat)
  | 0, _ => []
  | steps + 1, current =>
      match grown? current ceiling with
      | none => [none]
      | some next => some next :: chain ceiling steps next

end Capacity

end Superserver
