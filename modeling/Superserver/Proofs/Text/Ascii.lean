import Mathlib.Algebra.Order.Ring.Nat
import Superserver.Proofs.Text.Decoding

/-!
ASCII characters in decoded text. Main statement: bytes are decoded to a text with an ASCII
character in it just if the byte of that character is among them; no other byte and no fault makes
one.
-/

namespace Superserver

namespace Utf8

def Owed.Proper (owed : Owed) : Prop :=
  0x80 ≤ owed.low ∧ owed.high ≤ 0xBF ∧
    0x80 ≤ (owed.value * 64 + (owed.low - 0x80)) * 64 ^ owed.after ∧
    ((owed.value * 64 + (owed.high - 0x80) + 1) * 64 ^ owed.after ≤ 0xD800 ∨
      0xE000 ≤ (owed.value * 64 + (owed.low - 0x80)) * 64 ^ owed.after ∧
        (owed.value * 64 + (owed.high - 0x80) + 1) * 64 ^ owed.after ≤ 0x110000)

instance (owed : Owed) : Decidable owed.Proper := by
  unfold Owed.Proper
  infer_instance

section

variable {owed : Owed} {byte : Nat}

theorem Owed.Proper.next (proper : owed.Proper) {after : Nat} (more : owed.after = after + 1)
    (inside : owed.low ≤ byte ∧ byte ≤ owed.high) :
    Owed.Proper ⟨0x80, 0xBF, after, owed.value * 64 + (byte - 0x80)⟩ := by
  obtain ⟨least, most, low, high⟩ := proper
  have swap : ∀ factor, factor * (64 ^ after * 64) = factor * 64 * 64 ^ after := by
    intro factor
    rw [Nat.mul_comm (64 ^ after), Nat.mul_assoc]
  rw [more, Nat.pow_succ, swap] at low high
  rw [swap] at high
  -- Whatever follows the byte, the value stays between those of the lowest and the highest byte.
  have lower : (owed.value * 64 + (owed.low - 0x80)) * 64 * 64 ^ after ≤
      ((owed.value * 64 + (byte - 0x80)) * 64 + (0x80 - 0x80)) * 64 ^ after :=
    Nat.mul_le_mul_right _ (by omega)
  have upper : ((owed.value * 64 + (byte - 0x80)) * 64 + (0xBF - 0x80) + 1) * 64 ^ after ≤
      (owed.value * 64 + (owed.high - 0x80) + 1) * 64 * 64 ^ after :=
    Nat.mul_le_mul_right _ (by omega)
  refine ⟨Nat.le_refl _, Nat.le_refl _, Nat.le_trans low lower, ?_⟩
  dsimp only
  rcases high with below | ⟨above, within⟩
  · left
    exact Nat.le_trans upper below
  · right
    exact ⟨Nat.le_trans above lower, Nat.le_trans upper within⟩

theorem Owed.Proper.last (proper : owed.Proper) (last : owed.after = 0)
    (inside : owed.low ≤ byte ∧ byte ≤ owed.high) :
    0x80 ≤ owed.value * 64 + (byte - 0x80) ∧
      (owed.value * 64 + (byte - 0x80)).isValidChar := by
  obtain ⟨least, most, low, high⟩ := proper
  rw [last, Nat.pow_zero, Nat.mul_one] at low high
  rw [Nat.mul_one] at high
  refine ⟨by omega, ?_⟩
  rcases high with below | ⟨above, within⟩
  · exact .inl (by omega)
  · exact .inr ⟨by omega, by omega⟩

end

def Lead.fits (byte : UInt8) : Lead → Bool
  | .single character => byte.toNat < 0x80 && character == Char.ofNat byte.toNat
  | .begins owed => 0x80 ≤ byte.toNat && decide owed.Proper
  | .invalid => 0x80 ≤ byte.toNat

theorem fits_lead (byte : UInt8) : (lead byte).fits byte = true := by
  have every : ∀ value < 256, (lead (UInt8.ofNat value)).fits (UInt8.ofNat value) = true := by
    decide +kernel
  have here := every byte.toNat byte.toNat_lt
  rwa [UInt8.ofNat_toNat] at here

theorem toNat_ofNat_of_valid {code : Nat} (valid : code.isValidChar) :
    (Char.ofNat code).toNat = code := by
  rw [Char.ofNat, dif_pos valid]
  rfl

namespace Decoder

def Sound (decoder : Decoder) : Prop := ∀ owed, decoder.owed = some owed → owed.Proper

variable {decoder : Decoder} {character : Char}

theorem sound_start (decoder : Decoder) (byte : UInt8) : (decoder.start byte).Sound := by
  have fits := fits_lead byte
  intro owed owes
  unfold start at owes
  cases meaning : lead byte with
  | single character =>
      rw [meaning] at owes
      cases owes
  | begins begun =>
      rw [meaning] at owes fits
      cases owes
      simp only [Lead.fits, Bool.and_eq_true, decide_eq_true_eq] at fits
      exact fits.2
  | invalid =>
      rw [meaning] at owes
      cases owes

theorem replacement_ne (ascii : character.toNat < 0x80) : character ≠ replacement := by
  rintro rfl
  exact absurd ascii (by decide)

theorem mem_fault (ascii : character.toNat < 0x80) (decoder : Decoder) :
    character ∈ decoder.fault.decoded ↔ character ∈ decoder.decoded := by
  simp [fault, replacement_ne ascii]

theorem eq_ofNat_iff {byte : UInt8} (small : byte.toNat < 0x80) :
    character = Char.ofNat byte.toNat ↔ byte.toNat = character.toNat := by
  have valid : byte.toNat.isValidChar := .inl (by omega)
  constructor
  · rintro rfl
    exact (toNat_ofNat_of_valid valid).symm
  · intro same
    rw [same, Char.ofNat_toNat]

theorem mem_start (ascii : character.toNat < 0x80) (decoder : Decoder) (byte : UInt8) :
    character ∈ (decoder.start byte).decoded ↔
      character ∈ decoder.decoded ∨ byte.toNat = character.toNat := by
  have fits := fits_lead byte
  unfold start
  cases meaning : lead byte with
  | single single =>
      simp only [meaning, Lead.fits, Bool.and_eq_true, decide_eq_true_eq, beq_iff_eq] at fits
      simp only [List.mem_cons, fits.2, eq_ofNat_iff fits.1]
      exact or_comm
  | begins begun =>
      simp only [meaning, Lead.fits, Bool.and_eq_true, decide_eq_true_eq] at fits
      have other : byte.toNat ≠ character.toNat := by omega
      simp [other]
  | invalid =>
      simp only [meaning, Lead.fits, decide_eq_true_eq] at fits
      have other : byte.toNat ≠ character.toNat := by omega
      simp [mem_fault ascii, other]

theorem sound_step (sound : decoder.Sound) (byte : UInt8) : (decoder.step byte).Sound := by
  unfold step
  cases owes : decoder.owed with
  | none => exact sound_start decoder byte
  | some owed =>
      simp only
      split
      · rename_i inside
        intro next begun
        cases more : owed.after with
        | zero =>
            rw [more] at begun
            cases begun
        | succ after =>
            rw [more] at begun
            cases begun
            exact (sound owed owes).next more inside
      · exact sound_start _ byte

theorem mem_step (ascii : character.toNat < 0x80) (sound : decoder.Sound) (byte : UInt8) :
    character ∈ (decoder.step byte).decoded ↔
      character ∈ decoder.decoded ∨ byte.toNat = character.toNat := by
  unfold step
  cases owes : decoder.owed with
  | none => exact mem_start ascii decoder byte
  | some owed =>
      have proper := sound owed owes
      simp only
      split
      · rename_i inside
        have other : byte.toNat ≠ character.toNat := by
          have least := proper.1
          omega
        cases more : owed.after with
        | zero =>
            obtain ⟨large, valid⟩ := proper.last more inside
            have different :
                character ≠ Char.ofNat (owed.value * 64 + (byte.toNat - 0x80)) := by
              intro same
              rw [same, toNat_ofNat_of_valid valid] at ascii
              omega
            simp [different, other]
        | succ after => simp [other]
      · rw [mem_start ascii, mem_fault ascii]

theorem mem_foldl (ascii : character.toNat < 0x80) (sound : decoder.Sound) (bytes : Bytes) :
    character ∈ (bytes.foldl step decoder).decoded ↔
      character ∈ decoder.decoded ∨ ∃ byte ∈ bytes, byte.toNat = character.toNat := by
  induction bytes generalizing decoder with
  | nil => simp
  | cons byte bytes ih =>
      rw [List.foldl_cons, ih (sound_step sound byte), mem_step ascii sound, or_assoc]
      simp

end Decoder

open Decoder

theorem mem_decodeLossy_iff {character : Char} (ascii : character.toNat < 0x80) (bytes : Bytes) :
    character ∈ (decodeLossy bytes).toList ↔ UInt8.ofNat character.toNat ∈ bytes := by
  have sound : Decoder.Sound {} := by
    intro owed owes
    cases owes
  have value : (UInt8.ofNat character.toNat).toNat = character.toNat :=
    UInt8.toNat_ofNat_of_lt' (Nat.lt_of_lt_of_le ascii (by decide))
  have ended : character ∈ (decoder bytes).decoded ↔
      character ∈ (bytes.foldl step {}).decoded := by
    unfold decoder finish
    split
    · exact Iff.rfl
    · exact mem_fault ascii _
  rw [decodeLossy, String.toList_ofList, List.mem_reverse, ended, mem_foldl ascii sound]
  constructor
  · rintro (nothing | ⟨byte, member, same⟩)
    · cases nothing
    · rwa [← same, UInt8.ofNat_toNat]
  · intro member
    exact .inr ⟨_, member, value⟩

end Utf8

end Superserver
