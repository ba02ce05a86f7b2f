/-!
Decimal integers of bounded size. Digits are read from the left and the first fault decides, so a
number that has grown too large is reported before a bad digit after it.
-/

namespace Superserver.Text

inductive IntegerError where
  | empty
  | invalidDigit
  | tooLarge
  | tooSmall
deriving DecidableEq

def IntegerError.message : IntegerError → String
  | .empty => "cannot parse integer from empty string"
  | .invalidDigit => "invalid digit found in string"
  | .tooLarge => "number too large to fit in target type"
  | .tooSmall => "number too small to fit in target type"

def isDigit (character : Char) : Bool := '0' ≤ character && character ≤ '9'

def digitValue (digit : Char) : Nat := digit.toNat - '0'.toNat

def digitsValue (digits : List Char) : Nat :=
  digits.foldl (fun value digit => value * 10 + digitValue digit) 0

/-- Reads digits after `value`; `overflow` is the fault of passing `bound`. -/
def readDigits (bound : Nat) (overflow : IntegerError) :
    Nat → List Char → Except IntegerError Nat
  | value, [] => .ok value
  | value, digit :: rest =>
      if isDigit digit then
        let next := value * 10 + digitValue digit
        if next ≤ bound then readDigits bound overflow next rest else .error overflow
      else .error .invalidDigit

def readUnsigned (bound : Nat) : List Char → Except IntegerError Nat
  | [] => .error .empty
  | ['+'] => .error .invalidDigit
  | '+' :: digits => readDigits bound .tooLarge 0 digits
  | digits => readDigits bound .tooLarge 0 digits

def readSigned (bound : Nat) : List Char → Except IntegerError Int
  | [] => .error .empty
  | ['+'] | ['-'] => .error .invalidDigit
  | '+' :: digits => (readDigits bound .tooLarge 0 digits).map Int.ofNat
  | '-' :: digits => (readDigits (bound + 1) .tooSmall 0 digits).map fun value => -Int.ofNat value
  | digits => (readDigits bound .tooLarge 0 digits).map Int.ofNat

end Superserver.Text
