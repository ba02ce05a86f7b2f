import Superserver.Toml.Lexical

/-!
Numbers, dates and times. A value of this kind is a run of letters, digits and a few marks; a date
may be joined to a time by a space.
-/

namespace Superserver.Toml

def separated? (accepts : Char → Bool) : Chars → Option Chars
  | [] => none
  | [digit] => if accepts digit then some [digit] else none
  | digit :: '_' :: rest =>
      if accepts digit then (separated? accepts rest).map (digit :: ·) else none
  | digit :: rest =>
      if accepts digit then (separated? accepts rest).map (digit :: ·) else none

def decimal? (text : Chars) : Option Nat := do
  let digits ← separated? Text.isDigit text
  match digits with
  | '0' :: _ :: _ => none
  | _ => return Text.digitsValue digits

def based? (base : Nat) (text : Chars) : Option Nat := do
  let below (digit : Char) : Bool :=
    ((hexValue? digit).map fun value => decide (value < base)).getD false
  let digits ← separated? below text
  let values ← digits.mapM hexValue?
  return values.foldl (fun value digit => value * base + digit) 0

def integerMax : Nat := UInt64.size / 2 - 1

def signedInteger (negative : Bool) (value : Nat) : Option Int :=
  if negative then if value ≤ integerMax + 1 then some (-Int.ofNat value) else none
  else if value ≤ integerMax then some (Int.ofNat value) else none

def sign : Chars → Bool × Chars
  | '-' :: rest => (true, rest)
  | '+' :: rest => (false, rest)
  | text => (false, text)

def integer? : Chars → Option Int
  | '0' :: 'x' :: digits => (based? 16 digits).bind (signedInteger false)
  | '0' :: 'o' :: digits => (based? 8 digits).bind (signedInteger false)
  | '0' :: 'b' :: digits => (based? 2 digits).bind (signedInteger false)
  | text => (decimal? (sign text).2).bind (signedInteger (sign text).1)

/-! ### Floats -/

def exponent? (text : Chars) : Option Int := do
  let digits ← separated? Text.isDigit (sign text).2
  let value := Int.ofNat (Text.digitsValue digits)
  return if (sign text).1 then -value else value

/-- Beyond this power of ten all numbers are too large, and below its opposite all are zero. -/
def powerMax : Nat := 400

/-- The bits of the number nearest to `digits * 10 ^ power`. A number that is too large is none, but
far enough below zero it is minus infinity. -/
def nearest? (negative : Bool) (digits : Nat) (power : Int) : Option UInt64 :=
  let size := Int.ofNat (Nat.toDigits 10 digits).length + power
  let bits : UInt64 :=
    if digits = 0 || size < -Int.ofNat powerMax then 0
    else if Int.ofNat powerMax < size then 0x7FF0000000000000
    else if 0 ≤ power then (Float.ofScientific (digits * Nat.pow 10 power.toNat) false 0).toBits
    else (Float.ofScientific digits true (-power).toNat).toBits
  if bits = 0x7FF0000000000000 && !negative then none
  else some (if negative then bits ||| 0x8000000000000000 else bits)

def isExponentMark (character : Char) : Bool := character == 'e' || character == 'E'

def finiteFloat? (negative : Bool) (text : Chars) : Option UInt64 := do
  let mantissa := text.takeWhile fun character => !isExponentMark character
  let power ← match text.dropWhile fun character => !isExponentMark character with
    | [] => some 0
    | _ :: rest => exponent? rest
  let whole := mantissa.takeWhile (· != '.')
  let _ ← decimal? whole
  let wholeDigits ← separated? Text.isDigit whole
  match mantissa.dropWhile (· != '.') with
  | [] =>
      if mantissa.length = text.length then none
      else nearest? negative (Text.digitsValue wholeDigits) power
  | _ :: fraction =>
      let places ← separated? Text.isDigit fraction
      nearest? negative (Text.digitsValue (wholeDigits ++ places))
        (power - Int.ofNat places.length)

def float? (text : Chars) : Option UInt64 :=
  let (negative, rest) := sign text
  let mark : UInt64 := if negative then 0x8000000000000000 else 0
  if rest = ['i', 'n', 'f'] then some (0x7FF0000000000000 ||| mark)
  else if rest = ['n', 'a', 'n'] then some (0x7FF8000000000000 ||| mark)
  else finiteFloat? negative rest

/-! ### Dates and times -/

def digitsAt? (count : Nat) (text : Chars) : Option (Nat × Chars) :=
  let digits := text.take count
  if digits.length = count && digits.all Text.isDigit then
    some (Text.digitsValue digits, text.drop count)
  else none

def after? (mark : Char) : Chars → Option Chars
  | first :: rest => if first = mark then some rest else none
  | [] => none

def isLeapYear (year : Nat) : Bool := year % 4 = 0 && (year % 100 != 0 || year % 400 = 0)

def daysOf (year month : Nat) : Nat :=
  if month = 2 then if isLeapYear year then 29 else 28
  else if [4, 6, 9, 11].contains month then 30
  else 31

def date? (text : Chars) : Option Chars := do
  let (year, rest) ← digitsAt? 4 text
  let (month, rest) ← digitsAt? 2 (← after? '-' rest)
  let (day, rest) ← digitsAt? 2 (← after? '-' rest)
  if 1 ≤ month && month ≤ 12 && 1 ≤ day && day ≤ daysOf year month then some rest else none

def fraction? : Chars → Option Chars
  | '.' :: digit :: rest => if Text.isDigit digit then some (rest.dropWhile Text.isDigit) else none
  | '.' :: [] => none
  | text => some text

/-- The text after a time of day; a minute may have a leap second. -/
def time? (text : Chars) : Option Chars := do
  let (hour, rest) ← digitsAt? 2 text
  let (minute, rest) ← digitsAt? 2 (← after? ':' rest)
  let (second, rest) ← digitsAt? 2 (← after? ':' rest)
  if hour ≤ 23 && minute ≤ 59 && second ≤ 60 then fraction? rest else none

def isOffset : Chars → Bool
  | [] | ['Z'] | ['z'] => true
  | mark :: rest =>
      (mark == '+' || mark == '-') &&
        match digitsAt? 2 rest with
        | some (hour, ':' :: rest) =>
            match digitsAt? 2 rest with
            | some (minute, []) => hour ≤ 23 && minute ≤ 59
            | _ => false
        | _ => false

def isDatetime (text : Chars) : Bool :=
  match date? text with
  | some [] => true
  | some (mark :: rest) =>
      (mark == 'T' || mark == 't' || mark == ' ') && ((time? rest).map isOffset).getD false
  | none => time? text == some []

/-! ### Any of them -/

def isScalar (character : Char) : Bool :=
  character.isAlphanum || character == '+' || character == '-' || character == '_' ||
    character == '.' || character == ':'

def scalarRun (text : Chars) : Chars × Chars :=
  let first := text.takeWhile isScalar
  let rest := text.dropWhile isScalar
  match rest with
  | ' ' :: after =>
      let second := after.takeWhile isScalar
      if date? first = some [] && (second.head?.map Text.isDigit).getD false then
        (first ++ [' '] ++ second, after.dropWhile isScalar)
      else (first, rest)
  | _ => (first, rest)

def scalar? (text : Chars) : Option Value :=
  if text = ['t', 'r', 'u', 'e'] then some (.boolean true)
  else if text = ['f', 'a', 'l', 's', 'e'] then some (.boolean false)
  else match integer? text with
    | some value => some (.integer value)
    | none =>
        match float? text with
        | some bits => some (.float bits)
        | none => if isDatetime text then some .datetime else none

end Superserver.Toml
