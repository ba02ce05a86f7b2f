import Superserver.Shell.Arithmetic
import Superserver.Shell.Escape
import Superserver.System.Error
import Superserver.Text.Shortest

/-!
Formatted output. A format is gone through again until the arguments are used up; each of its
directives takes one argument, and an empty one if there is none.
-/

namespace Superserver.Shell

structure Layout where
  flags : Octets := []
  width : Nat := 0
  precision : Option Nat := none

namespace Layout

def has (layout : Layout) (flag : Char) : Bool := layout.flags.contains flag

def pad (layout : Layout) (text : Octets) : Octets :=
  let filling := List.replicate (layout.width - text.length) ' '
  if layout.has '-' then text ++ filling else filling ++ text

def text (layout : Layout) (text : Octets) : Octets :=
  layout.pad ((layout.precision.map text.take).getD text)

def lead (layout : Layout) (zeros : Bool) (lead digits : Octets) : Octets :=
  if zeros && layout.has '0' && !layout.has '-' then
    lead ++ List.replicate (layout.width - lead.length - digits.length) '0' ++ digits
  else layout.pad (lead ++ digits)

def sign (layout : Layout) (negative : Bool) : Octets :=
  if negative then ['-'] else if layout.has '+' then ['+'] else if layout.has ' ' then [' '] else []

def digits (layout : Layout) (base value : Nat) : Octets :=
  let digits := if value = 0 && layout.precision = some 0 then [] else Nat.toDigits base value
  List.replicate (layout.precision.getD 0 - digits.length) '0' ++ digits

def signed (layout : Layout) (value : Int) : Octets :=
  layout.lead layout.precision.isNone (layout.sign (value < 0)) (layout.digits 10 value.natAbs)

def unsigned (layout : Layout) (letter : Char) (value : Nat) : Octets :=
  match letter with
  | 'o' =>
      let digits := layout.digits 8 value
      let digits := if layout.has '#' && digits.head? != some '0' then '0' :: digits else digits
      layout.lead layout.precision.isNone [] digits
  | 'u' => layout.lead layout.precision.isNone [] (layout.digits 10 value)
  | letter =>
      let lower := layout.digits 16 value
      let digits := if letter = 'X' then lower.map Char.toUpper else lower
      let mark := if layout.has '#' && value != 0 then ['0', letter] else []
      layout.lead layout.precision.isNone mark digits

/-! ### Numbers with a fraction -/

def rounded (top bottom : Nat) : Nat :=
  let whole := top / bottom
  let twice := 2 * (top % bottom)
  if bottom < twice || (twice = bottom && whole % 2 = 1) then whole + 1 else whole

def inUnits (number : Text.Binary) (power : Int) : Nat :=
  let (top, bottom) := Text.Binary.scaled number.mantissa number.exponent (-power)
  rounded top bottom

def pointed (layout : Layout) (places value : Nat) : Octets :=
  let digits := Nat.toDigits 10 value
  let digits := List.replicate (places + 1 - digits.length) '0' ++ digits
  let whole := digits.take (digits.length - places)
  if places = 0 && !layout.has '#' then whole
  else whole ++ '.' :: digits.drop (digits.length - places)

def positional (layout : Layout) (places : Nat) (number : Text.Binary) : Octets :=
  pointed layout places (inUnits number (-Int.ofNat places))

def leading (places : Nat) (number : Text.Binary) : Nat × Int :=
  if number.mantissa = 0 then (0, 0)
  else
    let power := number.magnitude - 1
    let digits := inUnits number (power - Int.ofNat places)
    if digits < Nat.pow 10 places then
      (inUnits number (power - 1 - Int.ofNat places), power - 1)
    else if Nat.pow 10 (places + 1) ≤ digits then (Nat.pow 10 places, power + 1)
    else (digits, power)

def exponent (power : Int) : Octets :=
  let digits := Nat.toDigits 10 power.natAbs
  ['e', if power < 0 then '-' else '+'] ++ List.replicate (2 - digits.length) '0' ++ digits

def scientific (layout : Layout) (places : Nat) (number : Text.Binary) : Octets :=
  let (digits, power) := leading places number
  pointed layout places digits ++ exponent power

def trimZeros (text : Octets) : Octets :=
  if !text.contains '.' then text
  else
    match text.reverse.dropWhile (· == '0') with
    | '.' :: whole => whole.reverse
    | kept => kept.reverse

def general (layout : Layout) (number : Text.Binary) : Octets :=
  let count := max 1 (layout.precision.getD 6)
  let (digits, power) := leading (count - 1) number
  let trim (text : Octets) : Octets := if layout.has '#' then text else trimZeros text
  if power < -4 || Int.ofNat count ≤ power then
    trim (pointed layout (count - 1) digits) ++ exponent power
  else trim (positional layout (Int.ofNat count - 1 - power).toNat number)

def real (layout : Layout) (letter : Char) (negative : Bool) (bits : UInt64) : Octets :=
  let magnitude := bits &&& 0x7FFFFFFFFFFFFFFF
  let lower :=
    if 0x7FF0000000000000 < magnitude then "nan".toList
    else if magnitude = 0x7FF0000000000000 then "inf".toList
    else
      let number := Text.Binary.ofBits magnitude
      match letter.toLower with
      | 'f' => positional layout (layout.precision.getD 6) number
      | 'e' => scientific layout (layout.precision.getD 6) number
      | _ => general layout number
  let text := if letter.isUpper then lower.map Char.toUpper else lower
  layout.lead (magnitude < 0x7FF0000000000000) (layout.sign negative) text

end Layout

/-! ### Arguments as numbers -/

structure Numeral (α : Type) where
  value : α
  rest : Octets
  outOfRange : Bool := false
  found : Bool := true

def signAt (text : Octets) : Bool × Octets :=
  match text.dropWhile Octets.isSpace with
  | '-' :: rest => (true, rest)
  | '+' :: rest => (false, rest)
  | text => (false, text)

def Numeral.ofInteger (text : Octets) : Numeral Int :=
  let (negative, digits) := signAt text
  if !Arithmetic.beginsWith 10 digits then { value := 0, rest := text, found := false }
  else
    let (size, rest) := Arithmetic.unsigned digits
    { value := if negative then -Int.ofNat size else Int.ofNat size, rest }

def exponentAt (text : Octets) : Int × Octets :=
  match text with
  | mark :: rest =>
      if mark == 'e' || mark == 'E' then
        let (negative, digits) := match rest with
          | '-' :: rest => (true, rest)
          | '+' :: rest => (false, rest)
          | rest => (false, rest)
        if Arithmetic.beginsWith 10 digits then
          let (size, after) := Arithmetic.digits 10 0 digits
          (if negative then -Int.ofNat size else Int.ofNat size, after)
        else (0, text)
      else (0, text)
  | [] => (0, text)

/-- Powers of ten beyond this one make any number of digits infinite or nothing. -/
def powerBound : Int := 100000

def nearest (digits : Nat) (power : Int) : Float :=
  let power := max (-powerBound) (min power powerBound)
  if digits = 0 then 0
  else if power < 0 then Float.ofScientific digits true power.natAbs
  else Float.ofScientific digits false power.natAbs

def Numeral.ofReal (text : Octets) : Numeral (Bool × UInt64) :=
  let (negative, start) := signAt text
  let named (name : String) (bits : UInt64) : Option (Numeral (Bool × UInt64)) :=
    if name.toList.isPrefixOf (start.map Char.toLower) then
      some { value := (negative, bits), rest := start.drop name.length }
    else none
  let whole := start.takeWhile Text.isDigit
  let after := start.drop whole.length
  let (fraction, rest) := match after with
    | '.' :: rest =>
        let fraction := rest.takeWhile Text.isDigit
        (fraction, if whole.isEmpty && fraction.isEmpty then after else rest.drop fraction.length)
    | after => ([], after)
  if whole.isEmpty && fraction.isEmpty then
    ((named "infinity" 0x7FF0000000000000).or (named "inf" 0x7FF0000000000000)).or
        (named "nan" 0x7FF8000000000000) |>.getD
      { value := (false, 0), rest := text, found := false }
  else
    let (power, rest) := exponentAt rest
    let digits := Text.digitsValue (whole ++ fraction)
    let bits := (nearest digits (power - Int.ofNat fraction.length)).toBits
    let outOfRange := digits != 0 && (bits = 0x7FF0000000000000 || bits < 0x10000000000000)
    { value := (negative, bits), rest, outOfRange }

/-! ### Formats -/

structure Printed where
  output : Octets := []
  complaints : List Octets := []
  fault : Option Octets := none
  arguments : List Octets := []
  ended : Bool := false

namespace Printed

def put (printed : Printed) (text : Octets) : Printed :=
  { printed with output := text.reverse ++ printed.output }

def next (printed : Printed) : Octets × Printed :=
  (printed.arguments.headD [], { printed with arguments := printed.arguments.tail })

def check (printed : Printed) (text : Octets) (numeral : Numeral α) : Printed :=
  let complain (message : String) : Printed :=
    { printed with
      complaints := (text ++ [':', ' '] ++ Octets.ofString message) :: printed.complaints }
  if !numeral.rest.isEmpty then
    complain (if numeral.found then "not completely converted" else "expected numeric value")
  else if numeral.outOfRange then complain (Errno.description 34)
  else printed

def code? (text : Octets) : Option Nat :=
  match text with
  | mark :: rest =>
      if mark == '"' || mark == '\'' then some ((rest.head?.map Char.toNat).getD 0) else none
  | [] => none

def signed (printed : Printed) : Int × Printed :=
  let (text, printed) := printed.next
  match code? text with
  | some code => (Int.ofNat code, printed)
  | none =>
      let numeral := Numeral.ofInteger text
      let value := max (-Arithmetic.wordMax - 1) (min numeral.value Arithmetic.wordMax)
      (value, printed.check text { numeral with outOfRange := value != numeral.value })

def unsigned (printed : Printed) : Nat × Printed :=
  let (text, printed) := printed.next
  match code? text with
  | some code => (code, printed)
  | none =>
      let numeral := Numeral.ofInteger text
      let outOfRange := UInt64.size ≤ numeral.value.natAbs
      let value := if outOfRange then UInt64.size - 1 else (UInt64.ofInt numeral.value).toNat
      (value, printed.check text { numeral with outOfRange })

def real (printed : Printed) : (Bool × UInt64) × Printed :=
  let (text, printed) := printed.next
  match code? text with
  | some code => ((false, (nearest code 0).toBits), printed)
  | none =>
      let numeral := Numeral.ofReal text
      (numeral.value, printed.check text numeral)

end Printed

def sizeAt (text : Octets) (printed : Printed) : Option Int × Octets × Printed :=
  match text with
  | '*' :: rest =>
      let (value, printed) := printed.signed
      (some value, rest, printed)
  | text =>
      let digits := text.takeWhile Text.isDigit
      (if digits.isEmpty then none else some (Int.ofNat (Text.digitsValue digits)),
        text.drop digits.length, printed)

def directive? (layout : Layout) (letter : Char) (printed : Printed) : Option Printed :=
  match letter with
  | 'b' =>
      let (text, printed) := printed.next
      let (text, ended) := Octets.unescaped text
      some { printed.put (layout.text text) with ended }
  | 'c' =>
      let (text, printed) := printed.next
      some (printed.put (layout.pad [text.headD '\x00']))
  | 's' =>
      let (text, printed) := printed.next
      some (printed.put (layout.text text))
  | 'd' | 'i' =>
      let (value, printed) := printed.signed
      some (printed.put (layout.signed value))
  | 'o' | 'u' | 'x' | 'X' =>
      let (value, printed) := printed.unsigned
      some (printed.put (layout.unsigned letter value))
  | 'e' | 'E' | 'f' | 'F' | 'g' | 'G' =>
      let ((negative, bits), printed) := printed.real
      some (printed.put (layout.real letter negative bits))
  | _ => none

def directiveAt (text : Octets) (printed : Printed) : Octets × Printed :=
  let flags := text.takeWhile fun octet => ['#', '-', '+', ' ', '0'].contains octet
  let (width, rest, printed) := sizeAt (text.drop flags.length) printed
  let (precision, rest, printed) := match rest with
    | '.' :: rest =>
        let (precision, rest, printed) := sizeAt rest printed
        (some (precision.getD 0), rest, printed)
    | rest => (none, rest, printed)
  let width := width.getD 0
  let layout : Layout :=
    { flags := if width < 0 then '-' :: flags else flags
      width := width.natAbs
      precision := precision.bind fun value => if value < 0 then none else some value.toNat }
  match rest with
  | [] => ([], { printed with fault := some (Octets.ofString "missing format character") })
  | letter :: after =>
      match directive? layout letter printed with
      | some printed => (after, printed)
      | none =>
          let directive := '%' :: text.take (text.length - after.length)
          let fault := directive ++ Octets.ofString ": invalid directive"
          (after, { printed with fault := some fault })

def pass : (count : Nat) → Octets → Printed → Printed
  | 0, _, printed | _, [], printed => printed
  | count + 1, octet :: rest, printed =>
      if octet = '\\' then
        let (octet, rest) := Octets.escape rest
        pass count rest (printed.put [octet])
      else if octet = '%' then
        match rest with
        | '%' :: rest => pass count rest (printed.put ['%'])
        | rest =>
            let (rest, printed) := directiveAt rest printed
            if printed.fault.isSome || printed.ended then printed else pass count rest printed
      else pass count rest (printed.put [octet])

/-- Goes through a format until the arguments are used up; each passage but the first takes one. -/
def passes (format : Octets) : (count : Nat) → Printed → Printed
  | 0, printed => printed
  | count + 1, printed =>
      let after := pass format.length format printed
      let taken := after.arguments.length < printed.arguments.length
      if after.fault.isSome || after.ended || after.arguments.isEmpty || !taken then after
      else passes format count after

def formatted (format : Octets) (arguments : List Octets) : Printed :=
  passes format (arguments.length + 1) { arguments }

end Superserver.Shell
