import Mathlib.Algebra.Group.Nat.Defs
import Mathlib.Order.Nat
import Superserver.Capacity

/-!
Growth after growth. Main statement: a capacity doubles until it stands at its ceiling, which takes
at most 65 growths, and the bound of the machine word never shows.
-/

namespace Superserver

namespace Capacity

/-- What a number of growths makes of a capacity if nothing holds it: from nothing to one, and then
twice as much each time. -/
def doubled : (current times : Nat) → Nat
  | 0, 0 => 0
  | 0, times + 1 => 2 ^ times
  | current + 1, times => (current + 1) * 2 ^ times

theorem doubled_zero (current : Nat) : doubled current 0 = current := by
  cases current with
  | zero => rfl
  | succ current => simp [doubled]

theorem doubled_succ (current times : Nat) :
    doubled current (times + 1) =
      if doubled current times = 0 then 1 else doubled current times * 2 := by
  cases current with
  | zero =>
      cases times with
      | zero => rfl
      | succ times =>
          have positive : 0 < doubled 0 (times + 1) := Nat.two_pow_pos times
          rw [if_neg (by omega)]
          exact Nat.pow_succ 2 times
  | succ current =>
      have positive : 0 < doubled (current + 1) times :=
        Nat.mul_pos (Nat.succ_pos current) (Nat.two_pow_pos times)
      rw [if_neg (by omega)]
      show (current + 1) * 2 ^ (times + 1) = (current + 1) * 2 ^ times * 2
      rw [Nat.pow_succ, Nat.mul_assoc]

theorem wordMax_lt_doubled (current : Nat) : wordMax < doubled current 65 := by
  cases current with
  | zero => decide
  | succ current =>
      calc
        wordMax < 1 * 2 ^ 65 := by decide
        _ ≤ (current + 1) * 2 ^ 65 := Nat.mul_le_mul_right _ (by omega)

variable {ceiling current count : Nat}

/-- A double that no machine word holds is above the ceiling too, which is a machine word. -/
theorem grown?_doubled (word : ceiling ≤ wordMax) {times : Nat}
    (below : doubled current times < ceiling) :
    grown? (min (doubled current times) ceiling) ceiling =
      some (min (doubled current (times + 1)) ceiling) := by
  rw [Nat.min_eq_left (by omega), doubled_succ, grown?, if_neg (by omega)]
  split
  · rw [Nat.min_eq_left (by omega)]
  · congr 1
    omega

/-- A capacity below its ceiling reaches it, and 65 growths are enough: from nothing the first makes
room for one, and the others double that 64 times. -/
theorem exists_reached (word : ceiling ≤ wordMax) (below : current < ceiling) :
    ∃ count, 0 < count ∧ count ≤ 65 ∧ IsLeast { times | ceiling ≤ doubled current times } count := by
  have enough : ceiling ≤ doubled current 65 :=
    Nat.le_of_lt (Nat.lt_of_le_of_lt word (wordMax_lt_doubled current))
  have somewhere : ∃ times, ceiling ≤ doubled current times := ⟨65, enough⟩
  have least := Nat.isLeast_find somewhere
  refine ⟨Nat.find somewhere, ?_, least.2 enough, least⟩
  rw [Nat.find_pos, doubled_zero]
  omega

/-- The induction is on how many results are asked for, over how many there have been: what is left
is the rest of the doublings, and then nothing. -/
theorem chain_of_doubled (word : ceiling ≤ wordMax)
    (reached : IsLeast { times | ceiling ≤ doubled current times } count) (steps : Nat)
    {times left : Nat} (whole : times + left = count) :
    chain ceiling steps (min (doubled current times) ceiling) =
      ((List.range' (times + 1) left).map
        (fun later => some (min (doubled current later) ceiling)) ++ [none]).take steps := by
  induction steps generalizing times left with
  | zero => rfl
  | succ steps ih =>
      cases left with
      | zero =>
          have there : ceiling ≤ doubled current times := by
            rw [show times = count by omega]
            exact reached.1
          have spent := grown?_eq_none_iff.mpr (Nat.min_eq_right there).ge
          simp [chain, spent]
      | succ left =>
          have below : doubled current times < ceiling := by
            by_contra there
            have early := reached.2 (Nat.le_of_not_lt there)
            omega
          have later := ih (show times + 1 + left = count by omega)
          simp [chain, grown?_doubled word below, List.range'_succ, later]

theorem chain_of_reached (word : ceiling ≤ wordMax) (below : current < ceiling)
    (reached : IsLeast { times | ceiling ≤ doubled current times } count) (steps : Nat) :
    chain ceiling steps current =
      ((List.range' 1 count).map
        (fun times => some (min (doubled current times) ceiling)) ++ [none]).take steps := by
  have whole := chain_of_doubled word reached steps (Nat.zero_add count)
  rwa [doubled_zero, Nat.min_eq_left (Nat.le_of_lt below)] at whole

theorem result_of_chain (word : ceiling ≤ wordMax) {steps times next : Nat}
    (result : (chain ceiling steps current)[times]? = some (some next)) :
    next = min (doubled current (times + 1)) ceiling := by
  by_cases below : current < ceiling
  · obtain ⟨count, _, _, reached⟩ := exists_reached word below
    rw [chain_of_reached word below reached, List.getElem?_take] at result
    split at result
    · by_cases early : times < count
      · rw [List.getElem?_append_left (by simpa using early)] at result
        simpa [early, Nat.add_comm, eq_comm] using result
      · rw [List.getElem?_append_right (by simpa using early)] at result
        have last := List.mem_of_getElem? result
        simp at last
    · cases result
  · have spent := grown?_eq_none_iff.mpr (Nat.le_of_not_lt below)
    have member := List.mem_of_getElem? result
    cases steps with
    | zero => cases member
    | succ steps => simp [chain, spent] at member

/-- A capacity grows just while it is below its ceiling, and then to more than it was but not beyond
it. Growing again and again it doubles, held at the ceiling, as in unbounded arithmetic; it stands at
the ceiling after at most 65 growths, whatever it was, and there is none after that. -/
theorem doubles_until_ceiling (word : ceiling ≤ wordMax) (current : Nat) :
    (grown? current ceiling = none ↔ ceiling ≤ current) ∧
    (∀ next, grown? current ceiling = some next → current < next ∧ next ≤ ceiling) ∧
    (∀ steps times next, (chain ceiling steps current)[times]? = some (some next) →
      next = min (doubled current (times + 1)) ceiling) ∧
    (current < ceiling → ∃ count, 0 < count ∧ count ≤ 65 ∧
      min (doubled current count) ceiling = ceiling ∧
      ∀ steps, count < steps → chain ceiling steps current =
        (List.range' 1 count).map (fun times => some (min (doubled current times) ceiling)) ++
          [none]) := by
  refine ⟨grown?_eq_none_iff, fun next => grown?_bounds word,
    fun steps times next => result_of_chain word, ?_⟩
  intro below
  obtain ⟨count, some_growth, few, reached⟩ := exists_reached word below
  refine ⟨count, some_growth, few, Nat.min_eq_right reached.1, ?_⟩
  intro steps enough
  rw [chain_of_reached word below reached]
  apply List.take_of_length_le
  simp
  omega

/-- From nothing to the largest word it takes all 65. -/
theorem growths_from_nothing_to_wordMax :
    wordMax ≤ wordMax ∧ (chain wordMax 66 0).length = 66 ∧
      (chain wordMax 66 0)[63]? = some (some (2 ^ 63)) ∧
      (chain wordMax 66 0)[64]? = some (some wordMax) ∧
      (chain wordMax 66 0)[65]? = some none := by
  have length : (chain wordMax 66 0).length = 66 := by decide +kernel
  obtain ⟨_, _, _, reaches⟩ := doubles_until_ceiling (Nat.le_refl wordMax) 0
  obtain ⟨count, _, few, top, whole⟩ := reaches (by decide)
  have results := whole 66 (by omega)
  have all : count = 65 := by
    rw [results] at length
    simpa using length
  subst all
  refine ⟨Nat.le_refl wordMax, length, ?_, ?_, ?_⟩
  · rw [results]
    decide
  · rw [results]
    decide
  · rw [results]
    decide

end Capacity

end Superserver
