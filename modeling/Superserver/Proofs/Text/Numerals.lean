import Mathlib.Data.List.Induction
import Superserver.Proofs.Text.Fields

/-!
Numerals with zeros in front. Main statements: a run of digits is the numeral of its value behind
some zeros, in any base, and such a numeral has that value.
-/

namespace Superserver.Text

/-! ### Any base -/

def valueIn (base : Nat) (digits : List Nat) : Nat :=
  digits.foldl (fun value digit => value * base + digit) 0

theorem valueIn_append (base : Nat) (front : List Nat) (last : Nat) :
    valueIn base (front ++ [last]) = valueIn base front * base + last := by
  simp [valueIn]

/-- A numeral without a zero in front is that of its value; zeros in front are left over. -/
theorem exists_zeros_of_digits {base : Nat} (proper : 1 < base) {digits : List Nat}
    (some_ : digits ≠ []) (small : ∀ digit ∈ digits, digit < base) :
    ∃ zeros, digits.map Nat.digitChar =
      List.replicate zeros '0' ++ Nat.toDigits base (valueIn base digits) := by
  induction digits using List.reverseRecOn with
  | nil => exact absurd rfl some_
  | append_singleton front last ih =>
      have bound : last < base := small last (by simp)
      rw [valueIn_append, List.map_append, List.map_singleton]
      by_cases alone : front = []
      · subst alone
        refine ⟨0, ?_⟩
        simp [valueIn, Nat.toDigits_of_lt_base bound]
      · obtain ⟨zeros, same⟩ := ih alone fun digit member => small digit (by simp [member])
        rw [same]
        by_cases zero : valueIn base front = 0
        · -- Nothing but zeros so far: the last of them was the numeral of zero.
          refine ⟨zeros + 1, ?_⟩
          simp [zero, Nat.toDigits_of_lt_base bound, List.replicate_succ']
        · refine ⟨zeros, ?_⟩
          have next := Nat.toDigits_append_toDigits proper (Nat.pos_of_ne_zero zero) bound
          rw [Nat.toDigits_of_lt_base bound, Nat.mul_comm] at next
          rw [List.append_assoc, next]

/-! ### Decimal numerals -/

theorem digitChar_digitValue {digit : Char} (numeric : isDigit digit = true) :
    digitValue digit < 10 ∧ (digitValue digit).digitChar = digit := by
  simp only [isDigit, Bool.and_eq_true, decide_eq_true_eq] at numeric
  have least : '0'.toNat ≤ digit.toNat := numeric.1
  have most : digit.toNat ≤ '9'.toNat := numeric.2
  have zero : '0'.toNat = 48 := rfl
  have nine : '9'.toNat = 57 := rfl
  have bound : digitValue digit < 10 := by
    unfold digitValue
    omega
  refine ⟨bound, ?_⟩
  apply Char.toNat_inj.mp
  have value := Nat.toNat_digitChar_of_lt_ten bound
  unfold digitValue at value ⊢
  omega

theorem map_digitChar_digitValue {digits : List Char}
    (numeric : ∀ digit ∈ digits, isDigit digit = true) :
    (digits.map digitValue).map Nat.digitChar = digits := by
  have each : ∀ digit ∈ digits, (Nat.digitChar ∘ digitValue) digit = id digit :=
    fun digit member => (digitChar_digitValue (numeric digit member)).2
  rw [List.map_map, List.map_congr_left each, List.map_id]

theorem digitsValue_eq_valueIn (digits : List Char) :
    digitsValue digits = valueIn 10 (digits.map digitValue) := by
  rw [valueIn, List.foldl_map]
  rfl

theorem exists_zeros_of_numeric {digits : List Char} (some_ : digits ≠ [])
    (numeric : ∀ digit ∈ digits, isDigit digit = true) :
    ∃ zeros, digits =
      List.replicate zeros '0' ++ Nat.toDigits 10 (digitsValue digits) := by
  have small : ∀ digit ∈ digits.map digitValue, digit < 10 := by
    intro value member
    obtain ⟨digit, listed, rfl⟩ := List.mem_map.mp member
    exact (digitChar_digitValue (numeric digit listed)).1
  obtain ⟨zeros, same⟩ := exists_zeros_of_digits (by decide) (by simpa using some_) small
  rw [map_digitChar_digitValue numeric, ← digitsValue_eq_valueIn] at same
  exact ⟨zeros, same⟩

theorem digitsValue_zeros (zeros : Nat) (digits : List Char) :
    digitsValue (List.replicate zeros '0' ++ digits) = digitsValue digits := by
  induction zeros with
  | zero => rfl
  | succ zeros ih =>
      rw [← ih]
      rfl

theorem digitsValue_numeral (zeros number : Nat) :
    digitsValue (List.replicate zeros '0' ++ Nat.toDigits 10 number) = number := by
  rw [digitsValue_zeros, digitsValue_toDigits]

theorem isDigit_of_mem_numeral {zeros number : Nat} {digit : Char}
    (member : digit ∈ List.replicate zeros '0' ++ Nat.toDigits 10 number) :
    isDigit digit = true := by
  rcases List.mem_append.mp member with zero | numeral
  · rw [List.eq_of_mem_replicate zero]
    rfl
  · exact isDigit_of_mem_toDigits numeral

end Superserver.Text
