/-!
The shortest decimal that reads back to a binary64 number, written without an exponent. Of the
decimals with the fewest digits among the reals that round to the number, the nearest is taken, and
of two that are equally near the one further from zero.
-/

namespace Superserver.Text

structure Binary where
  mantissa : Nat
  exponent : Int
  /-- Whether the number below is only half as far away as the one above. -/
  narrowBelow : Bool

namespace Binary

def ofBits (bits : UInt64) : Binary :=
  let exponent := ((bits >>> 52) &&& 0x7FF).toNat
  let fraction := (bits &&& 0xFFFFFFFFFFFFF).toNat
  if exponent = 0 then ⟨fraction, -1074, false⟩
  else ⟨0x10000000000000 + fraction, Int.ofNat exponent - 1075, fraction = 0 && 1 < exponent⟩

def scaled (value : Nat) (two ten : Int) : Nat × Nat :=
  (value * Nat.pow 2 two.toNat * Nat.pow 10 ten.toNat,
    Nat.pow 2 (-two).toNat * Nat.pow 10 (-ten).toNat)

def readsBack (number : Binary) (digits : Nat) (power : Int) : Bool :=
  let low := 4 * number.mantissa - if number.narrowBelow then 1 else 2
  let high := 4 * number.mantissa + 2
  let (lowTop, lowBottom) := scaled low (number.exponent - 2) (-power)
  let (highTop, highBottom) := scaled high (number.exponent - 2) (-power)
  if number.mantissa % 2 = 0 then
    lowTop ≤ digits * lowBottom && digits * highBottom ≤ highTop
  else lowTop < digits * lowBottom && digits * highBottom < highTop

def magnitude (number : Binary) : Int :=
  let (top, bottom) := scaled number.mantissa number.exponent 0
  if bottom ≤ top then Int.ofNat (Nat.toDigits 10 (top / bottom)).length
  else
    -- the leading zeros after the point
    1 - Int.ofNat (Nat.toDigits 10 ((bottom - 1) / top)).length

/-- The nearest neighbour on the grid of a power of ten that reads back, if one does. -/
def onGrid (number : Binary) (power : Int) : Option Nat :=
  let (top, bottom) := scaled number.mantissa number.exponent (-power)
  let below := top / bottom
  let lower := number.readsBack below power
  let upper := number.readsBack (below + 1) power
  if lower && (!upper || 2 * (top % bottom) < bottom) then some below
  else if upper then some (below + 1)
  else none

def search (number : Binary) : (steps : Nat) → (power : Int) → Nat × Int
  | 0, power =>
      let (top, bottom) := scaled number.mantissa number.exponent (-power)
      (top / bottom, power)
  | steps + 1, power =>
      match number.onGrid power with
      | some digits => (digits, power)
      | none => search number steps (power - 1)

def shortest (number : Binary) : Nat × Int :=
  if number.mantissa = 0 then (0, 0) else number.search 18 number.magnitude

end Binary

def pointed (digits : Nat) (power : Int) : List Char :=
  let digits := Nat.toDigits 10 digits
  if 0 ≤ power then digits ++ List.replicate power.toNat '0' ++ ['.', '0']
  else
    let places := (-power).toNat
    let filled := List.replicate (places + 1 - digits.length) '0' ++ digits
    filled.take (filled.length - places) ++ ['.'] ++ filled.drop (filled.length - places)

def floatText (bits : UInt64) : String :=
  let negative := bits >>> 63 = 1
  let sign := if negative then ['-'] else []
  if (bits >>> 52) &&& 0x7FF = 0x7FF then
    if bits &&& 0xFFFFFFFFFFFFF = 0 then String.ofList (sign ++ ['i', 'n', 'f']) else "NaN"
  else
    let (digits, power) := (Binary.ofBits bits).shortest
    String.ofList (sign ++ pointed digits power)

end Superserver.Text
