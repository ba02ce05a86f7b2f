import Mathlib.Algebra.Group.Nat.Defs
import Mathlib.Order.Bounds.Basic
import Superserver.Proofs.Table.Lockstep

/-!
How large a table gets. Main statement: its capacity is the smallest power of two that holds the
most workers room was ever made for, held at the limit, whoever left in the meantime.
-/

namespace Superserver

namespace ProcessTable

namespace Action

/-- The entries that a reservation needs: those of the workers that are there and one more. Other
actions and a reservation that fails need none. -/
def demand? : Action → Booked → Option Nat
  | .reserve granted, booked =>
      match booked.table.reserveOne with
      | .error _ => none
      | .ok (notices, _) =>
          if granted || notices.isEmpty then some (booked.table.length + 1) else none
  | _, _ => none

end Action

/-- What the reservations of some actions needed, one after another. -/
def demands : List Action → Booked → List Nat
  | [], _ => []
  | action :: actions, booked =>
      (action.demand? booked).toList ++ demands actions (action.perform booked)

structure Grown (limit peak : Nat) (booked : Booked) : Prop where
  ceiling : booked.table.ceiling = limit
  room : booked.table.length ≤ booked.table.capacity
  space : booked.reserved = true → booked.table.length < booked.table.capacity
  doubled : (peak = 0 ∧ booked.table.capacity = 0) ∨
    ∃ times, booked.table.capacity = min limit (2 ^ times) ∧ peak ≤ 2 ^ times ∧
      2 ^ times < 2 * peak

theorem Grown.new (listener : Int) (ceiling : Nat) :
    Grown (min ceiling maxEntries) 0 { table := .new listener ceiling, reserved := false } :=
  ⟨rfl, Nat.le_refl 0, by simp, .inl ⟨rfl, rfl⟩⟩

/-- No power of two between a number and its double is passed over. -/
theorem isLeast_power {peak times : Nat} (holds : peak ≤ 2 ^ times) (close : 2 ^ times < 2 * peak) :
    IsLeast { room | (∃ exponent, room = 2 ^ exponent) ∧ peak ≤ room } (2 ^ times) := by
  refine ⟨⟨⟨times, rfl⟩, holds⟩, ?_⟩
  rintro room ⟨⟨exponent, rfl⟩, enough⟩
  by_contra smaller
  have below : exponent < times := (Nat.pow_lt_pow_iff_right (by omega)).mp (Nat.lt_of_not_le smaller)
  have half : 2 ^ (exponent + 1) ≤ 2 ^ times := Nat.pow_le_pow_right (by omega) below
  rw [Nat.pow_succ] at half
  omega

namespace Grown

variable {limit peak : Nat} {booked : Booked}

theorem capacity_le (grown : Grown limit peak booked) : booked.table.capacity ≤ limit := by
  rcases grown.doubled with ⟨_, empty⟩ | ⟨times, capacity, _⟩
  · omega
  · omega

/-! ### One action -/

/-- Room that is there holds one more than the workers, so it holds the new peak too. -/
theorem demand_of_space (grown : Grown limit peak booked)
    (space : booked.table.length < booked.table.capacity) (reserved : Bool) :
    Grown limit (max peak (booked.table.length + 1)) { table := booked.table, reserved } := by
  refine ⟨grown.ceiling, grown.room, fun _ => space, .inr ?_⟩
  rcases grown.doubled with ⟨_, empty⟩ | ⟨times, capacity, holds, close⟩
  · omega
  · exact ⟨times, capacity, by omega, by omega⟩

/-- A table grows when it is full, and then to twice its size. -/
theorem demand_of_growth (grown : Grown limit peak booked) (word : limit ≤ Capacity.wordMax)
    {capacity : Nat} (full : booked.table.capacity ≤ booked.table.length)
    (next : Capacity.grown? booked.table.capacity booked.table.ceiling = some capacity) :
    Grown limit (max peak (booked.table.length + 1))
      { table := { booked.table with capacity }, reserved := true } := by
  have room := grown.room
  rw [grown.ceiling] at next
  obtain ⟨more, within⟩ := Capacity.grown?_bounds word next
  have space : booked.table.length < capacity := by omega
  refine ⟨grown.ceiling, Nat.le_of_lt space, fun _ => space, .inr ?_⟩
  show ∃ times, capacity = min limit (2 ^ times) ∧ max peak (booked.table.length + 1) ≤ 2 ^ times ∧
    2 ^ times < 2 * max peak (booked.table.length + 1)
  rw [Capacity.grown?, if_neg (by omega)] at next
  rcases grown.doubled with ⟨nobody, empty⟩ | ⟨times, held, holds, close⟩
  · rw [if_pos empty, Option.some.injEq] at next
    exact ⟨0, by rw [Nat.pow_zero]; omega, by rw [Nat.pow_zero]; omega, by rw [Nat.pow_zero]; omega⟩
  · have positive : 0 < 2 ^ times := Nat.two_pow_pos times
    rw [if_neg (by omega), Option.some.injEq] at next
    refine ⟨times + 1, ?_, ?_, ?_⟩
    · rw [Nat.pow_succ]
      omega
    · rw [Nat.pow_succ]
      omega
    · rw [Nat.pow_succ]
      omega

theorem reserve (grown : Grown limit peak booked) (word : limit ≤ Capacity.wordMax)
    (granted : Bool) :
    Grown limit (max peak (((Action.reserve granted).demand? booked).getD 0))
      ((Action.reserve granted).perform booked) := by
  simp only [Action.demand?, Action.perform]
  cases made : booked.table.reserveOne with
  | error error => simpa using grown
  | ok reserved =>
      obtain ⟨notices, after⟩ := reserved
      rcases reserveOne_cases made with ⟨rfl, rfl, space⟩ | ⟨capacity, rfl, rfl, full, next⟩
      · simpa using grown.demand_of_space space true
      · cases granted with
        | true => simpa using grown.demand_of_growth word full next
        | false => simpa using grown

end Grown

/-- Only a reservation makes room, and only a push adds a worker. -/
theorem perform_cases (action : Action) (booked : Booked) :
    (∃ granted, action = .reserve granted) ∨ (∃ worker, action = .push worker) ∨
    (action.demand? booked = none ∧
      (action.perform booked).reserved = booked.reserved ∧
      (action.perform booked).table.length ≤ booked.table.length ∧
      (action.perform booked).table.capacity = booked.table.capacity ∧
      (action.perform booked).table.ceiling = booked.table.ceiling) := by
  cases action with
  | reserve granted => exact .inl ⟨granted, rfl⟩
  | push worker => exact .inr (.inl ⟨worker, rfl⟩)
  | remove index =>
      simp only [Action.perform, Action.demand?, remove]
      split <;> simp [length]
  | mute index =>
      simp only [Action.perform, Action.demand?, mute]
      split <;> simp [length]
  | refill index buffer =>
      simp only [Action.perform, Action.demand?, refill]
      split <;> simp [length, update]
  | pollSlots | answer | note | listenerReady | returned =>
      exact .inr (.inr ⟨rfl, rfl, Nat.le_refl _, rfl, rfl⟩)

theorem Grown.perform {limit peak : Nat} {booked : Booked} (grown : Grown limit peak booked)
    (word : limit ≤ Capacity.wordMax) {action : Action} (covered : action.IsCovered booked) :
    Grown limit (max peak ((action.demand? booked).getD 0)) (action.perform booked) := by
  rcases perform_cases action booked with ⟨granted, rfl⟩ | ⟨worker, rfl⟩ |
    ⟨undemanding, reserved, fewer, capacity, ceiling⟩
  · exact grown.reserve word granted
  · have space := grown.space covered
    refine ⟨grown.ceiling, ?_, by simp [Action.perform], ?_⟩
    · simpa [Action.perform, push, length, Nat.succ_le_iff] using space
    · rw [show (Action.push worker).demand? booked = none from rfl, Option.getD_none, Nat.max_zero]
      exact grown.doubled
  · have room := grown.room
    have space := grown.space
    rw [undemanding, Option.getD_none, Nat.max_zero]
    refine ⟨ceiling.trans grown.ceiling, by omega, ?_, ?_⟩
    · intro held
      have before := space (reserved.symm.trans held)
      omega
    · rw [capacity]
      exact grown.doubled

theorem capacity_le_perform (action : Action) (booked : Booked)
    (word : booked.table.ceiling ≤ Capacity.wordMax) :
    booked.table.capacity ≤ (action.perform booked).table.capacity ∧
      (action.perform booked).table.ceiling = booked.table.ceiling := by
  rcases perform_cases action booked with ⟨granted, rfl⟩ | ⟨worker, rfl⟩ | ⟨_, _, _, same, ceiling⟩
  · simp only [Action.perform]
    cases made : booked.table.reserveOne with
    | error error => exact ⟨Nat.le_refl _, rfl⟩
    | ok reserved =>
        obtain ⟨notices, after⟩ := reserved
        simp only
        split
        · rcases reserveOne_cases made with ⟨_, rfl, _⟩ | ⟨capacity, _, rfl, _, next⟩
          · exact ⟨Nat.le_refl _, rfl⟩
          · exact ⟨Nat.le_of_lt (Capacity.grown?_bounds word next).1, rfl⟩
        · exact ⟨Nat.le_refl _, rfl⟩
  · exact ⟨Nat.le_refl _, rfl⟩
  · exact ⟨same.ge, ceiling⟩

/-! ### Actions one after another -/

theorem capacity_le_performAll (actions : List Action) (booked : Booked)
    (word : booked.table.ceiling ≤ Capacity.wordMax) :
    booked.table.capacity ≤ (performAll actions booked).table.capacity ∧
      (performAll actions booked).table.ceiling = booked.table.ceiling := by
  induction actions generalizing booked with
  | nil => exact ⟨Nat.le_refl _, rfl⟩
  | cons action actions ih =>
      obtain ⟨grows, same⟩ := capacity_le_perform action booked word
      obtain ⟨growsLater, sameLater⟩ := ih (action.perform booked) (by omega)
      exact ⟨Nat.le_trans grows growsLater, sameLater.trans same⟩

/-- Induction on the actions, over the peak that earlier ones have reached. -/
theorem Grown.performAll {limit peak : Nat} {booked : Booked} (grown : Grown limit peak booked)
    (word : limit ≤ Capacity.wordMax) {actions : List Action} (covered : Covered actions booked) :
    Grown limit ((demands actions booked).foldl max peak) (performAll actions booked) := by
  induction actions generalizing peak booked with
  | nil => exact grown
  | cons action actions ih =>
      have later := ih (grown.perform word covered.1) covered.2
      cases needed : action.demand? booked with
      | none => simpa [demands, ProcessTable.performAll, needed] using later
      | some entries => simpa [demands, ProcessTable.performAll, needed] using later

/-- A table refuses room for one more just when it holds as many workers as it may. -/
theorem Grown.refused_iff {limit peak : Nat} {booked : Booked} (grown : Grown limit peak booked)
    {error : TableError} :
    booked.table.reserveOne = .error error ↔
      error = .capacityExhausted limit ∧ booked.table.length = limit := by
  have room := grown.room
  have bounded := grown.capacity_le
  have ceiling := grown.ceiling
  simp only [length] at room ⊢
  by_cases space : booked.table.workers.length < booked.table.capacity
  · rw [reserveOne_of_lt space]
    constructor
    · intro made
      cases made
    · rintro ⟨_, reached⟩
      omega
  · by_cases reached : limit ≤ booked.table.capacity
    · have spent : Capacity.grown? booked.table.capacity booked.table.ceiling = none :=
        Capacity.grown?_eq_none_iff.mpr (by omega)
      have held : booked.table.capacity = limit := by omega
      rw [reserveOne_of_none space spent, held, Except.error.injEq]
      constructor
      · rintro rfl
        exact ⟨rfl, by omega⟩
      · rintro ⟨rfl, _⟩
        rfl
    · have unspent : Capacity.grown? booked.table.capacity booked.table.ceiling ≠ none := by
        rw [ne_eq, Capacity.grown?_eq_none_iff]
        omega
      obtain ⟨next, more⟩ := Option.ne_none_iff_exists'.mp unspent
      rw [reserveOne_of_some space more]
      constructor
      · intro made
        cases made
      · rintro ⟨_, full⟩
        omega

theorem demands_pos {actions : List Action} {booked : Booked} :
    ∀ entries ∈ demands actions booked, 0 < entries := by
  induction actions generalizing booked with
  | nil => simp [demands]
  | cons action actions ih =>
      intro entries member
      rcases List.mem_append.mp member with asked | later
      · cases action with
        | reserve granted =>
            simp only [Action.demand?] at asked
            split at asked
            · cases asked
            · split at asked
              · rw [List.mem_singleton.mp asked]
                omega
              · cases asked
        | _ => cases asked
      · exact ih entries later

theorem reserveOne_leaves_room {limit peak : Nat} {booked : Booked}
    (grown : Grown limit peak booked) (word : limit ≤ Capacity.wordMax) {notices : List Notice}
    {after : ProcessTable} (made : booked.table.reserveOne = .ok (notices, after)) :
    after.length < after.capacity := by
  rcases reserveOne_cases made with ⟨_, rfl, space⟩ | ⟨capacity, _, rfl, full, next⟩
  · exact space
  · exact (grown.demand_of_growth word full next).space rfl

/-- Whatever is done with a table, if workers come only into room that was made for them: its
capacity is 0 until a reservation succeeds and from then on the smallest power of two that holds
all that was ever reserved at once, held at the limit. It never shrinks. After a reservation there
is room; it fails just when the table holds as many workers as it may, and then changes nothing. -/
theorem capacity_follows_peak (listener : Int) (ceiling : Nat) (actions : List Action)
    (covered : Covered actions { table := .new listener ceiling, reserved := false }) :
    let fresh : Booked := { table := .new listener ceiling, reserved := false }
    let limit := min ceiling maxEntries
    let booked := performAll actions fresh
    (demands actions fresh = [] → booked.table.capacity = 0) ∧
    (∀ peak, (demands actions fresh).max? = some peak →
      ∃ power, IsLeast { room | (∃ exponent, room = 2 ^ exponent) ∧ peak ≤ room } power ∧
        booked.table.capacity = min limit power) ∧
    (∀ earlier later, actions = earlier ++ later →
      (performAll earlier fresh).table.capacity ≤ booked.table.capacity) ∧
    (∀ notices after, booked.table.reserveOne = .ok (notices, after) →
      after.length < after.capacity) ∧
    ((∃ error, booked.table.reserveOne = .error error) ↔ booked.table.length = limit) ∧
    ∀ error, booked.table.reserveOne = .error error →
      error = .capacityExhausted limit ∧
        ∀ granted, (Action.reserve granted).perform booked = booked := by
  intro fresh limit booked
  have word : limit ≤ Capacity.wordMax :=
    Nat.le_trans (Nat.min_le_right _ _) (show maxEntries ≤ Capacity.wordMax by decide)
  have grown : Grown limit ((demands actions fresh).foldl max 0) booked :=
    (Grown.new listener ceiling).performAll word covered
  refine ⟨?_, ?_, ?_, fun notices after => reserveOne_leaves_room grown word, ?_, ?_⟩
  · intro undemanding
    rw [undemanding, List.foldl_nil] at grown
    rcases grown.doubled with ⟨_, empty⟩ | ⟨times, _, _, close⟩
    · exact empty
    · omega
  · intro peak most
    have positive : 0 < peak := demands_pos peak (List.max?_mem most)
    have folded : (demands actions fresh).foldl max 0 = peak := by
      cases asked : demands actions fresh with
      | nil =>
          rw [asked] at most
          cases most
      | cons first rest =>
          rw [asked, List.max?_cons', Option.some.injEq] at most
          simpa using most
    rw [folded] at grown
    rcases grown.doubled with ⟨nobody, _⟩ | ⟨times, held, holds, close⟩
    · omega
    · exact ⟨2 ^ times, isLeast_power holds close, held⟩
  · rintro earlier later rfl
    have same : (performAll earlier fresh).table.ceiling = limit :=
      (capacity_le_performAll earlier fresh word).2
    simp only [booked, performAll_append]
    exact (capacity_le_performAll later _ (by omega)).1
  · constructor
    · rintro ⟨error, refused⟩
      exact (grown.refused_iff.mp refused).2
    · intro full
      exact ⟨_, grown.refused_iff.mpr ⟨rfl, full⟩⟩
  · intro error refused
    refine ⟨(grown.refused_iff.mp refused).1, fun granted => ?_⟩
    simp only [Action.perform, refused]

def arrivals (count : Nat) : List Action :=
  (List.range count).flatMap fun pid => [.reserve true, .push { pid, diagnostics := pid }]

theorem capacity_of_full_table :
    let use := arrivals 3 ++ [.remove 0, .mute 0, .remove 1] ++ arrivals 4
    let fresh : Booked := { table := .new 3 5, reserved := false }
    let booked := performAll use fresh
    demands use fresh = [1, 2, 3, 2, 3, 4, 5] ∧ booked.table.capacity = 5 ∧
      booked.table.reserveOne = .error (.capacityExhausted 5) ∧
      (performAll (arrivals 3) fresh).table.capacity ≤ 5 := by
  intro use fresh booked
  have covered : Covered use fresh := by decide +kernel
  have asked : demands use fresh = [1, 2, 3, 2, 3, 4, 5] := by decide +kernel
  have full : booked.table.length = 5 := by decide +kernel
  have limit : min 5 maxEntries = 5 := by decide
  obtain ⟨_, peaks, shrinks, _, refuses, refusal⟩ := capacity_follows_peak 3 5 use covered
  rw [limit] at peaks refuses refusal
  obtain ⟨power, ⟨⟨_, enough⟩, _⟩, held⟩ := peaks 5 (congrArg List.max? asked)
  have capacity : booked.table.capacity = 5 := held.trans (Nat.min_eq_left enough)
  obtain ⟨error, refused⟩ := refuses.mpr full
  obtain ⟨rfl, _⟩ := refusal error refused
  exact ⟨asked, capacity, refused, (shrinks (arrivals 3) _ (List.append_assoc ..)).trans capacity.le⟩

end ProcessTable

end Superserver
