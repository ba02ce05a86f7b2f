import Mathlib.Data.List.TakeWhile
import Superserver.Net.RawAddress
import Superserver.Proofs.Net.IpText
import Superserver.Proofs.Text.Ascii

/-!
What becomes of an address that the system hands back, whatever its bytes and its length. Main
statements: it is decoded just if its family has a textual form, and what control characters the
label has come from the bytes before the first zero of a name.
-/

namespace Superserver

open Text

/-! ### Control characters -/

section

variable {character : Char} (control : character.toNat < 0x20)
include control

theorem control_ne_digitChar {value : Nat} (small : value < 16) :
    character ≠ value.digitChar := by
  rintro rfl
  have every : ∀ value < 16, ¬value.digitChar.toNat < 0x20 := by decide
  exact every value small control

theorem control_ne_of_mark {mark : Char} (visible : 0x20 ≤ mark.toNat) : character ≠ mark := by
  rintro rfl
  omega

theorem control_not_mem_nat (number : Nat) : character ∉ (toString number).toList := by
  have digits : (toString number).toList = Nat.toDigits 10 number := String.toList_ofList
  rw [digits]
  intro member
  obtain ⟨value, small, same⟩ := exists_digitChar_of_mem (by decide) member
  exact control_ne_digitChar control (by omega) same

theorem control_not_mem_ipv4 (ip : Ipv4) : character ∉ (toString ip).toList := by
  have written : (toString ip).toList = ip.chars := String.toList_ofList
  rw [written]
  intro member
  rcases Ipv4.mem_chars member with dot | ⟨value, small, same⟩
  · exact control_ne_of_mark control (by decide) dot
  · exact control_ne_digitChar control (by omega) same

theorem control_not_mem_ipv6 (ip : Ipv6) : character ∉ (toString ip).toList := by
  have written : (toString ip).toList = ip.chars := String.toList_ofList
  rw [written]
  intro member
  rcases Ipv6.mem_chars member with colon | dot | ⟨value, small, same⟩
  · exact control_ne_of_mark control (by decide) colon
  · exact control_ne_of_mark control (by decide) dot
  · exact control_ne_digitChar control small same

theorem control_not_mem_pair {first second : String} (one : character ∉ first.toList)
    (other : character ∉ second.toList) : character ∉ (s!"{first} {second}").toList := by
  have gap : character ≠ ' ' := control_ne_of_mark control (by decide)
  change character ∉ (first ++ " " ++ second).toList
  simp [one, gap, other]

end

/-- A text that the environment of a process can hold. -/
def NulFree (text : String) : Prop := '\x00' ∉ text.toList

instance (text : String) : Decidable (NulFree text) :=
  inferInstanceAs (Decidable ('\x00' ∉ text.toList))

namespace RawAddress

/-! ### Fields of any storage -/

theorem length_field (raw : RawAddress) (start count : Nat) :
    (raw.field start count).length = min count (128 - start) := by
  rw [field, List.length_take, List.length_drop, raw.length_storage]

theorem length_groupsOf (bytes : Bytes) : (groupsOf bytes).length = bytes.length / 2 := by
  fun_induction groupsOf bytes with
  | case1 high low rest ih =>
      simp only [List.length_cons, ih]
      omega
  | case2 bytes short =>
      match bytes, short with
      | [], _ => rfl
      | [_], _ => simp
      | high :: low :: rest, short => exact absurd rfl (short high low rest)

theorem exists_octets (raw : RawAddress) :
    ∃ first second third fourth, raw.field 4 4 = [first, second, third, fourth] := by
  have size : (raw.field 4 4).length = 4 := raw.length_field 4 4
  match raw.field 4 4, size with
  | [first, second, third, fourth], _ => exact ⟨first, second, third, fourth, rfl⟩

theorem exists_groups (raw : RawAddress) :
    ∃ ip, Ipv6.ofGroups? (groupsOf (raw.field 8 16)) = some ip := by
  have size : (groupsOf (raw.field 8 16)).length = 8 := by
    rw [length_groupsOf, length_field]
    rfl
  exact ⟨_, dif_pos size⟩

/-! ### Which addresses are decoded -/

/-- Only the family decides whether an address is decoded. -/
theorem decode_cases (raw : RawAddress) :
    (raw.family ∉ [1, 2, 9, 10, 40] ∧ raw.decode = .error (.numbered 95)) ∨
      raw.family ∈ [1, 2, 9, 10, 40] ∧ ∃ peer, raw.decode = .ok peer := by
  unfold decode
  split
  · rename_i family
    obtain ⟨first, second, third, fourth, octets⟩ := raw.exists_octets
    rw [octets, family]
    exact .inr ⟨by decide, _, rfl⟩
  · rename_i family
    obtain ⟨ip, groups⟩ := raw.exists_groups
    rw [groups, family]
    exact .inr ⟨by decide, _, rfl⟩
  · rename_i family
    rw [family]
    refine .inr ⟨by decide, ?_⟩
    split
    · exact ⟨_, rfl⟩
    · exact ⟨_, rfl⟩
  · rename_i family
    rw [family]
    exact .inr ⟨by decide, _, rfl⟩
  · rename_i family
    rw [family]
    exact .inr ⟨by decide, _, rfl⟩
  · rename_i inet inet6 unix vsock x25
    exact .inl ⟨by simpa using ⟨unix, inet, x25, inet6, vsock⟩, rfl⟩

theorem decode_eq_error_iff (raw : RawAddress) (error : SystemError) :
    raw.decode = .error error ↔ error = .numbered 95 ∧ raw.family ∉ [1, 2, 9, 10, 40] := by
  rcases raw.decode_cases with ⟨other, failed⟩ | ⟨known, peer, decoded⟩
  · rw [failed, Except.error.injEq]
    constructor
    · rintro rfl
      exact ⟨rfl, other⟩
    · rintro ⟨rfl, _⟩
      rfl
  · rw [decoded]
    constructor
    · intro failed
      cases failed
    · rintro ⟨_, other⟩
      exact absurd known other

/-! ### Paths of unix sockets -/

theorem zero_not_mem_untilNul (bytes : Bytes) : 0 ∉ untilNul bytes := by
  intro member
  have passed := List.mem_takeWhile_imp member
  simp at passed

/-- The longest stretch from the start without a zero. -/
structure LongestFree (bytes path : Bytes) : Prop where
  starts : path <+: bytes
  free : 0 ∉ path
  longest : ∀ front, front <+: bytes → 0 ∉ front → front <+: path

theorem longestFree_untilNul (bytes : Bytes) : LongestFree bytes (untilNul bytes) := by
  refine ⟨List.takeWhile_prefix _, zero_not_mem_untilNul bytes, ?_⟩
  rintro front ⟨rest, rfl⟩ free
  have passed : ∀ byte ∈ front, (byte != 0) = true := by
    intro byte member
    rw [bne_iff_ne]
    rintro rfl
    exact free member
  rw [untilNul, List.takeWhile_append_of_pos passed]
  exact List.prefix_append ..

theorem decode_unix {raw : RawAddress} (unix : raw.family = 1) :
    raw.decode = .ok (.unix (if raw.unixPath = [] then none else some raw.unixPath)) := by
  unfold decode
  rw [unix]
  simp only
  split
  · rename_i unnamed
    rw [if_pos unnamed]
  · rename_i named
    rw [if_neg named]

/-! ### Labels -/

/-- A control character of a label is a byte of the name that the address holds. -/
theorem mem_name_of_mem_label {raw : RawAddress} {peer : PeerAddress}
    (decoded : raw.decode = .ok peer) {character : Char} (control : character.toNat < 0x20)
    (member : character ∈ peer.label.toList) :
    UInt8.ofNat character.toNat ∈ raw.unixPath ∨
      UInt8.ofNat character.toNat ∈ untilNul (raw.field 2 x25Room) := by
  unfold decode at decoded
  split at decoded
  · split at decoded
    · cases decoded
      exact absurd member (control_not_mem_pair control (control_not_mem_ipv4 control _)
        (control_not_mem_nat control _))
    · cases decoded
  · split at decoded
    · cases decoded
      exact absurd member (control_not_mem_pair control (control_not_mem_ipv6 control _)
        (control_not_mem_nat control _))
    · cases decoded
  · split at decoded
    · cases decoded
      cases member
    · cases decoded
      exact .inl ((Utf8.mem_decodeLossy_iff (by omega) _).mp member)
  · cases decoded
    exact absurd member (control_not_mem_pair control (control_not_mem_nat control _)
      (control_not_mem_nat control _))
  · cases decoded
    rw [PeerAddress.label, String.toList_ofList] at member
    obtain ⟨byte, listed, rfl⟩ := List.mem_map.mp member
    have every : ∀ value < 256, (Char.ofNat value).toNat = value := by decide +kernel
    rw [every byte.toNat byte.toNat_lt, UInt8.ofNat_toNat]
    exact .inr listed
  · cases decoded

theorem nulFree_label {raw : RawAddress} {peer : PeerAddress} (decoded : raw.decode = .ok peer) :
    NulFree peer.label := by
  intro member
  rcases mem_name_of_mem_label decoded (by decide) member with path | digits
  · exact zero_not_mem_untilNul _ path
  · exact zero_not_mem_untilNul _ digits

end RawAddress

end Superserver
