import Superserver.Text.Split
import Superserver.Text.Integer

/-!
IPv4 addresses and their dotted form: four decimal octets without leading zeros.
-/

namespace Superserver

structure Ipv4 where
  first : UInt8
  second : UInt8
  third : UInt8
  fourth : UInt8
deriving DecidableEq, Repr

namespace Ipv4

def unspecified : Ipv4 := ⟨0, 0, 0, 0⟩

def octets (address : Ipv4) : List UInt8 :=
  [address.first, address.second, address.third, address.fourth]

/-- One to three digits, no zero before another digit, at most 255. -/
def octet? (digits : List Char) : Option UInt8 :=
  if digits.all Text.isDigit && digits.length ≤ 3 && digits != [] &&
      (digits.head? != some '0' || digits.length == 1) && Text.digitsValue digits ≤ 255 then
    some (UInt8.ofNat (Text.digitsValue digits))
  else none

def parse? (text : List Char) : Option Ipv4 :=
  match (Text.pieces (· == '.') text).map octet? with
  | [some first, some second, some third, some fourth] => some ⟨first, second, third, fourth⟩
  | _ => none

def chars (address : Ipv4) : List Char :=
  ['.'].intercalate (address.octets.map fun octet => Nat.toDigits 10 octet.toNat)

end Ipv4

instance : ToString Ipv4 := ⟨fun address => String.ofList address.chars⟩

end Superserver
