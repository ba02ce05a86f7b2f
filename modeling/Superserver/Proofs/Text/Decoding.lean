import Superserver.Text.Utf8

/-!
Decoding undoes encoding: the bytes of a text are decoded to that text.
-/

namespace Superserver

open Utf8 Decoder

theorem bytesOf_ofList (text : List Char) :
    bytesOf (String.ofList text) = text.flatMap String.utf8EncodeChar := by
  rw [bytesOf, String.toUTF8, String.toByteArray_ofList, List.utf8Encode,
    List.toList_data_toByteArray]

theorem length_bytesOf (text : String) : (bytesOf text).length = text.utf8ByteSize := by
  rw [bytesOf, Array.length_toList]
  rfl

theorem bytesOf_of_ascii {text : List Char} (ascii : ∀ character ∈ text, character.toNat < 0x80) :
    bytesOf (String.ofList text) = text.map fun character => UInt8.ofNat character.toNat := by
  rw [bytesOf_ofList]
  induction text with
  | nil => rfl
  | cons character text ih =>
      have first : character.val.toNat ≤ 0x7F :=
        Nat.le_of_lt_succ (ascii character (List.mem_cons_self ..))
      have rest := ih fun other member => ascii other (List.mem_cons_of_mem _ member)
      rw [List.flatMap_cons, rest, String.utf8EncodeChar, if_pos first]
      rfl

/-- A text of ASCII characters has as many bytes as characters. -/
theorem utf8ByteSize_of_ascii {text : List Char}
    (ascii : ∀ character ∈ text, character.toNat < 0x80) :
    (String.ofList text).utf8ByteSize = text.length := by
  rw [← length_bytesOf, bytesOf_of_ascii ascii, List.length_map]

namespace Utf8

/-! ### Leading bytes -/

theorem lead_one {byte : UInt8} (small : byte.toNat < 0x80) :
    lead byte = .single (Char.ofNat byte.toNat) := by
  rw [lead, if_pos small]

theorem lead_two {byte : UInt8} {value : Nat} (same : byte.toNat = 0xC0 + value)
    (least : 2 ≤ value) (most : value < 32) : lead byte = .begins ⟨0x80, 0xBF, 0, value⟩ := by
  simp only [lead, same]
  rw [if_neg (by omega), if_neg (by omega), if_pos (by omega), Nat.add_sub_cancel_left]

theorem lead_three {byte : UInt8} {value : Nat} (same : byte.toNat = 0xE0 + value)
    (most : value < 16) :
    lead byte = .begins ⟨if value = 0 then 0xA0 else 0x80, if value = 0xD then 0x9F else 0xBF, 1,
      value⟩ := by
  simp only [lead, same]
  rw [if_neg (by omega), if_neg (by omega), if_neg (by omega)]
  by_cases first : value = 0
  · subst first
    rfl
  · rw [if_neg (by omega)]
    by_cases surrogate : value = 0xD
    · subst surrogate
      rfl
    · rw [if_neg (by omega), if_pos (by omega), if_neg first, if_neg surrogate,
        Nat.add_sub_cancel_left]

theorem lead_four {byte : UInt8} {value : Nat} (same : byte.toNat = 0xF0 + value)
    (most : value ≤ 4) :
    lead byte = .begins ⟨if value = 0 then 0x90 else 0x80, if value = 4 then 0x8F else 0xBF, 2,
      value⟩ := by
  simp only [lead, same]
  rw [if_neg (by omega), if_neg (by omega), if_neg (by omega), if_neg (by omega),
    if_neg (by omega), if_neg (by omega)]
  by_cases first : value = 0
  · subst first
    rfl
  · rw [if_neg (by omega)]
    by_cases last : value = 4
    · subst last
      rfl
    · rw [if_pos (by omega), if_neg first, if_neg last, Nat.add_sub_cancel_left]

namespace Decoder

/-! ### Bytes after it -/

variable {decoder : Decoder} {byte : UInt8} {low high value : Nat}

theorem step_of_lead {owed : Owed} (idle : decoder.owed = none)
    (begins : lead byte = .begins owed) :
    decoder.step byte = { decoder with owed := some owed } := by
  rw [step, idle]
  simp only [start, begins]

theorem step_more {after : Nat} (inside : low ≤ byte.toNat ∧ byte.toNat ≤ high)
    (decoded : List Char) (valid : Bool) :
    step ⟨some ⟨low, high, after + 1, value⟩, decoded, valid⟩ byte =
      ⟨some ⟨0x80, 0xBF, after, value * 64 + (byte.toNat - 0x80)⟩, decoded, valid⟩ := by
  simp only [step, if_pos inside]

theorem step_last (inside : low ≤ byte.toNat ∧ byte.toNat ≤ high) (decoded : List Char)
    (valid : Bool) :
    step ⟨some ⟨low, high, 0, value⟩, decoded, valid⟩ byte =
      ⟨none, Char.ofNat (value * 64 + (byte.toNat - 0x80)) :: decoded, valid⟩ := by
  simp only [step, if_pos inside]

/-! ### Encoded characters -/

theorem toNat_ofNat (value : Nat) (small : value < 256) : (UInt8.ofNat value).toNat = value :=
  UInt8.toNat_ofNat_of_lt' small

theorem foldl_one {code : Nat} (most : code ≤ 0x7F) (decoded : List Char) (valid : Bool) :
    [UInt8.ofNat code].foldl step ⟨none, decoded, valid⟩ =
      ⟨none, Char.ofNat code :: decoded, valid⟩ := by
  have byte := toNat_ofNat code (by omega)
  have first : lead (UInt8.ofNat code) = _ := lead_one (by omega)
  rw [byte] at first
  rw [List.foldl_cons, List.foldl_nil, step]
  simp only [start, first]

theorem foldl_two {code : Nat} (least : 0x7F < code) (most : code ≤ 0x7FF)
    (decoded : List Char) (valid : Bool) :
    [UInt8.ofNat (code / 64 % 0x20 + 0xC0), UInt8.ofNat (code % 0x40 + 0x80)].foldl step
        ⟨none, decoded, valid⟩ = ⟨none, Char.ofNat code :: decoded, valid⟩ := by
  have first := toNat_ofNat (code / 64 % 0x20 + 0xC0) (by omega)
  have second := toNat_ofNat (code % 0x40 + 0x80) (by omega)
  have begins := lead_two (first.trans (by omega : _ = 0xC0 + code / 64)) (by omega) (by omega)
  rw [List.foldl_cons, step_of_lead rfl begins, List.foldl_cons, step_last (by omega),
    List.foldl_nil, second]
  have value : code / 64 * 64 + (code % 0x40 + 0x80 - 0x80) = code := by omega
  rw [value]

theorem foldl_three {code : Nat} (least : 0x7FF < code) (most : code ≤ 0xFFFF)
    (scalar : code < 0xD800 ∨ 0xDFFF < code) (decoded : List Char) (valid : Bool) :
    [UInt8.ofNat (code / 4096 % 0x10 + 0xE0), UInt8.ofNat (code / 64 % 0x40 + 0x80),
        UInt8.ofNat (code % 0x40 + 0x80)].foldl step ⟨none, decoded, valid⟩ =
      ⟨none, Char.ofNat code :: decoded, valid⟩ := by
  have first := toNat_ofNat (code / 4096 % 0x10 + 0xE0) (by omega)
  have second := toNat_ofNat (code / 64 % 0x40 + 0x80) (by omega)
  have third := toNat_ofNat (code % 0x40 + 0x80) (by omega)
  have begins := lead_three (first.trans (by omega : _ = 0xE0 + code / 4096)) (by omega)
  have inside : (if code / 4096 = 0 then 0xA0 else 0x80) ≤ code / 64 % 0x40 + 0x80 ∧
      code / 64 % 0x40 + 0x80 ≤ if code / 4096 = 0xD then 0x9F else 0xBF := by
    constructor
    · split <;> omega
    · split <;> omega
  rw [List.foldl_cons, step_of_lead rfl begins, List.foldl_cons, step_more (by rwa [second]),
    List.foldl_cons, step_last (by omega), List.foldl_nil, second, third]
  have value : (code / 4096 * 64 + (code / 64 % 0x40 + 0x80 - 0x80)) * 64 +
      (code % 0x40 + 0x80 - 0x80) = code := by omega
  rw [value]

theorem foldl_four {code : Nat} (least : 0xFFFF < code) (most : code < 0x110000)
    (decoded : List Char) (valid : Bool) :
    [UInt8.ofNat (code / 262144 % 0x08 + 0xF0), UInt8.ofNat (code / 4096 % 0x40 + 0x80),
        UInt8.ofNat (code / 64 % 0x40 + 0x80), UInt8.ofNat (code % 0x40 + 0x80)].foldl step
        ⟨none, decoded, valid⟩ = ⟨none, Char.ofNat code :: decoded, valid⟩ := by
  have first := toNat_ofNat (code / 262144 % 0x08 + 0xF0) (by omega)
  have second := toNat_ofNat (code / 4096 % 0x40 + 0x80) (by omega)
  have third := toNat_ofNat (code / 64 % 0x40 + 0x80) (by omega)
  have fourth := toNat_ofNat (code % 0x40 + 0x80) (by omega)
  have begins := lead_four (first.trans (by omega : _ = 0xF0 + code / 262144)) (by omega)
  have inside : (if code / 262144 = 0 then 0x90 else 0x80) ≤ code / 4096 % 0x40 + 0x80 ∧
      code / 4096 % 0x40 + 0x80 ≤ if code / 262144 = 4 then 0x8F else 0xBF := by
    constructor
    · split <;> omega
    · split <;> omega
  rw [List.foldl_cons, step_of_lead rfl begins, List.foldl_cons, step_more (by rwa [second]),
    List.foldl_cons, step_more (by omega), List.foldl_cons, step_last (by omega), List.foldl_nil,
    second, third, fourth]
  have value : ((code / 262144 * 64 + (code / 4096 % 0x40 + 0x80 - 0x80)) * 64 +
      (code / 64 % 0x40 + 0x80 - 0x80)) * 64 + (code % 0x40 + 0x80 - 0x80) = code := by omega
  rw [value]

/-- The bytes of a character are decoded to it. -/
theorem foldl_encoded (character : Char) (decoded : List Char) (valid : Bool) :
    (String.utf8EncodeChar character).foldl step ⟨none, decoded, valid⟩ =
      ⟨none, character :: decoded, valid⟩ := by
  have scalar : character.val.toNat < 0xD800 ∨
      0xDFFF < character.val.toNat ∧ character.val.toNat < 0x110000 := character.valid
  have same : Char.ofNat character.val.toNat = character := Char.ofNat_toNat character
  simp only [String.utf8EncodeChar]
  by_cases one : character.val.toNat ≤ 0x7F
  · rw [if_pos one, foldl_one one, same]
  · rw [if_neg one]
    by_cases two : character.val.toNat ≤ 0x7FF
    · rw [if_pos two, foldl_two (by omega) two, same]
    · rw [if_neg two]
      by_cases three : character.val.toNat ≤ 0xFFFF
      · rw [if_pos three, foldl_three (by omega) three (by omega), same]
      · rw [if_neg three, foldl_four (by omega) (by omega), same]

theorem foldl_text (text decoded : List Char) (valid : Bool) :
    (text.flatMap String.utf8EncodeChar).foldl step ⟨none, decoded, valid⟩ =
      ⟨none, text.reverse ++ decoded, valid⟩ := by
  induction text generalizing decoded with
  | nil => rfl
  | cons character text ih =>
      rw [List.flatMap_cons, List.foldl_append, foldl_encoded, ih, List.reverse_cons,
        List.append_assoc]
      rfl

end Decoder

theorem decoder_bytesOf (text : String) :
    decoder (bytesOf text) = { decoded := text.toList.reverse } := by
  obtain ⟨characters, rfl⟩ : ∃ characters, text = String.ofList characters :=
    ⟨text.toList, String.ofList_toList.symm⟩
  rw [decoder, bytesOf_ofList, String.toList_ofList]
  have folded := Decoder.foldl_text characters [] true
  rw [List.append_nil] at folded
  rw [folded, Decoder.finish]

/-- Every text is had back from its bytes, in which nothing is replaced. -/
theorem decode_bytesOf (text : String) :
    decodeLossy (bytesOf text) = text ∧ decode? (bytesOf text) = some text := by
  constructor
  · rw [decodeLossy, decoder_bytesOf, List.reverse_reverse, String.ofList_toList]
  · rw [decode?, decoder_bytesOf]
    simp

end Utf8

end Superserver
