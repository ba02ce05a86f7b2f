/-!
Text from bytes that need not be UTF-8. Decoding never fails: every longest run of bytes that
begins a character and cannot complete it becomes one replacement character.
-/

namespace Superserver

abbrev Bytes := List UInt8

def bytesOf (text : String) : Bytes := text.toUTF8.data.toList

namespace Utf8

def replacement : Char := Char.ofNat 0xFFFD

/-- What a begun character still owes: the bounds of the next byte, the number of bytes after it
and the value read so far. -/
structure Owed where
  low : Nat
  high : Nat
  after : Nat
  value : Nat
deriving DecidableEq

inductive Lead where
  | single (character : Char)
  | begins (owed : Owed)
  | invalid

def lead (byte : UInt8) : Lead :=
  let value := byte.toNat
  if value < 0x80 then .single (Char.ofNat value)
  else if value < 0xC2 then .invalid
  else if value < 0xE0 then .begins ⟨0x80, 0xBF, 0, value - 0xC0⟩
  else if value = 0xE0 then .begins ⟨0xA0, 0xBF, 1, 0⟩
  else if value = 0xED then .begins ⟨0x80, 0x9F, 1, 0xD⟩
  else if value < 0xF0 then .begins ⟨0x80, 0xBF, 1, value - 0xE0⟩
  else if value = 0xF0 then .begins ⟨0x90, 0xBF, 2, 0⟩
  else if value < 0xF4 then .begins ⟨0x80, 0xBF, 2, value - 0xF0⟩
  else if value = 0xF4 then .begins ⟨0x80, 0x8F, 2, 4⟩
  else .invalid

/-- A decoder between two bytes; `decoded` holds the characters so far, the last one first. -/
structure Decoder where
  owed : Option Owed := none
  decoded : List Char := []
  valid : Bool := true

namespace Decoder

def fault (decoder : Decoder) : Decoder :=
  { owed := none, decoded := replacement :: decoder.decoded, valid := false }

def start (decoder : Decoder) (byte : UInt8) : Decoder :=
  match lead byte with
  | .single character => { decoder with owed := none, decoded := character :: decoder.decoded }
  | .begins owed => { decoder with owed := some owed }
  | .invalid => decoder.fault

def step (decoder : Decoder) (byte : UInt8) : Decoder :=
  match decoder.owed with
  | none => decoder.start byte
  | some owed =>
      if owed.low ≤ byte.toNat ∧ byte.toNat ≤ owed.high then
        let value := owed.value * 64 + (byte.toNat - 0x80)
        match owed.after with
        | 0 => { decoder with owed := none, decoded := Char.ofNat value :: decoder.decoded }
        | after + 1 => { decoder with owed := some ⟨0x80, 0xBF, after, value⟩ }
      else decoder.fault.start byte

def finish (decoder : Decoder) : Decoder :=
  match decoder.owed with
  | none => decoder
  | some _ => decoder.fault

end Decoder

def decoder (bytes : Bytes) : Decoder := (bytes.foldl Decoder.step {}).finish

/-- The text of `bytes`, with a replacement character for each run that is no character. -/
def decodeLossy (bytes : Bytes) : String := String.ofList (decoder bytes).decoded.reverse

def decode? (bytes : Bytes) : Option String :=
  let ended := decoder bytes
  if ended.valid then some (String.ofList ended.decoded.reverse) else none

end Utf8

end Superserver
