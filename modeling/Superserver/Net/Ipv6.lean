import Superserver.Net.Ipv4

/-!
IPv6 addresses and their text. Reading takes eight groups, or fewer around one `::`, the last two
perhaps as a dotted quad. Writing shortens the first longest run of two or more zero groups.
-/

namespace Superserver

structure Ipv6 where
  groups : List UInt16
  length_groups : groups.length = 8
deriving DecidableEq, Repr

namespace Ipv6

def ofGroups? (groups : List UInt16) : Option Ipv6 :=
  if length : groups.length = 8 then some ⟨groups, length⟩ else none

def unspecified : Ipv6 := ⟨List.replicate 8 0, rfl⟩

def hexValue? (digit : Char) : Option Nat :=
  if Text.isDigit digit then some (digit.toNat - '0'.toNat)
  else if 'a' ≤ digit && digit ≤ 'f' then some (digit.toNat - 'a'.toNat + 10)
  else if 'A' ≤ digit && digit ≤ 'F' then some (digit.toNat - 'A'.toNat + 10)
  else none

def group? (digits : List Char) : Option UInt16 :=
  if 1 ≤ digits.length && digits.length ≤ 4 then
    (digits.mapM hexValue?).map fun values =>
      UInt16.ofNat (values.foldl (fun value digit => value * 16 + digit) 0)
  else none

def ofIpv4 (address : Ipv4) : List UInt16 :=
  [address.first.toUInt16 * 256 + address.second.toUInt16,
    address.third.toUInt16 * 256 + address.fourth.toUInt16]

/-- Groups of which the last may be a dotted quad. -/
def groups? : List (List Char) → Option (List UInt16)
  | [] => some []
  | [last] =>
      match group? last with
      | some group => some [group]
      | none => (Ipv4.parse? last).map ofIpv4
  | digits :: rest => do
      let group ← group? digits
      let groups ← groups? rest
      return group :: groups

def splitGap : List Char → Option (List Char × List Char)
  | [] => none
  | ':' :: ':' :: rest => some ([], rest)
  | character :: rest => (splitGap rest).map fun sides => (character :: sides.1, sides.2)

def fields (text : List Char) : List (List Char) :=
  if text.isEmpty then [] else Text.pieces (· == ':') text

def parse? (text : List Char) : Option Ipv6 :=
  match splitGap text with
  | none => (groups? (fields text)).bind ofGroups?
  | some (before, after) => do
      let front ← (fields before).mapM group?
      let back ← groups? (fields after)
      if front.length + back.length ≤ 7 then
        ofGroups? (front ++ List.replicate (8 - front.length - back.length) 0 ++ back)
      else none

def leadingZeros (groups : List UInt16) : Nat := (groups.takeWhile (· == 0)).length

/-- Start and length of the first longest run of zero groups. -/
def zeroRun (groups : List UInt16) : Nat × Nat :=
  (List.range groups.length).foldl (fun best start =>
    let length := leadingZeros (groups.drop start)
    if best.2 < length then (start, length) else best) (0, 0)

def joined (groups : List UInt16) : List Char :=
  [':'].intercalate (groups.map fun group => Nat.toDigits 16 group.toNat)

def mapped? (address : Ipv6) : Option Ipv4 :=
  match address.groups with
  | [0, 0, 0, 0, 0, 0xFFFF, high, low] =>
      some ⟨(high / 256).toUInt8, (high % 256).toUInt8, (low / 256).toUInt8, (low % 256).toUInt8⟩
  | _ => none

def chars (address : Ipv6) : List Char :=
  match address.mapped? with
  | some quad => "::ffff:".toList ++ quad.chars
  | none =>
      let (start, length) := zeroRun address.groups
      if 1 < length then
        joined (address.groups.take start) ++ [':', ':'] ++
          joined (address.groups.drop (start + length))
      else joined address.groups

end Ipv6

instance : ToString Ipv6 := ⟨fun address => String.ofList address.chars⟩

end Superserver
