import Superserver.Text.Integer
import Superserver.Text.Utf8

/-!
Runs of bytes, each byte held as the character of the same code, so that scripts and what they work
on can be read by their marks.
-/

namespace Superserver.Shell

abbrev Octets := List Char

namespace Octets

def ofBytes (bytes : Bytes) : Octets := bytes.map fun byte => Char.ofNat byte.toNat

def toBytes (octets : Octets) : Bytes := octets.map fun octet => UInt8.ofNat octet.toNat

def ofString (text : String) : Octets := ofBytes (bytesOf text)

def toString (octets : Octets) : String := Utf8.decodeLossy (toBytes octets)

def isBlank (octet : Char) : Bool := octet == ' ' || octet == '\t'

def isSpace (octet : Char) : Bool := octet == ' ' || ('\t' ≤ octet && octet ≤ '\r')

def isNameStart (octet : Char) : Bool := octet.isAlpha || octet == '_'

def isNamePart (octet : Char) : Bool := octet.isAlphanum || octet == '_'

def isName : Octets → Bool
  | [] => false
  | first :: rest => isNameStart first && rest.all isNamePart

def isNumber (octets : Octets) : Bool := !octets.isEmpty && octets.all Text.isDigit

def number? (octets : Octets) : Option Nat :=
  if isNumber octets then some (Text.digitsValue octets) else none

def split (mark : Char) (octets : Octets) : List Octets :=
  octets.foldr
    (fun octet pieces =>
      match pieces with
      | piece :: others => if octet = mark then [] :: pieces else (octet :: piece) :: others
      | [] => [[octet]])
    [[]]

def lines (octets : Octets) : List Octets :=
  match (split '\n' octets).reverse with
  | [] :: earlier => earlier.reverse
  | pieces => pieces.reverse

/-- A time in milliseconds; it is given in seconds or in the unit after it. -/
def milliseconds? (octets : Octets) : Option Nat := do
  let whole := octets.takeWhile Text.isDigit
  let (fraction, unit) := match octets.drop whole.length with
    | '.' :: rest => (rest.takeWhile Text.isDigit, rest.dropWhile Text.isDigit)
    | rest => ([], rest)
  let seconds ← [([], 1), (['s'], 1), (['m'], 60), (['h'], 3600), (['d'], 86400)].lookup unit
  if whole.isEmpty && fraction.isEmpty then none
  return Text.digitsValue (whole ++ (fraction ++ ['0', '0', '0']).take 3) * seconds

def trimNewlines (octets : Octets) : Octets := (octets.reverse.dropWhile (· == '\n')).reverse

end Octets

end Superserver.Shell
