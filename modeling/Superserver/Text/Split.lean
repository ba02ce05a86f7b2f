/-!
Cutting text at separators.
-/

namespace Superserver.Text

def splitFirst (separator : Char) (text : List Char) : Option (List Char × List Char) :=
  match text.dropWhile (· != separator) with
  | [] => none
  | _ :: rest => some (text.takeWhile (· != separator), rest)

def pieces (separates : Char → Bool) : List Char → List (List Char)
  | [] => [[]]
  | character :: rest =>
      if separates character then [] :: pieces separates rest
      else match pieces separates rest with
        | [] => [[character]]
        | piece :: others => (character :: piece) :: others

theorem pieces_ne_nil (separates : Char → Bool) (text : List Char) :
    pieces separates text ≠ [] := by
  cases text with
  | nil => simp [pieces]
  | cons character rest =>
      simp only [pieces]
      split
      · simp
      · split <;> simp

/-- The first line without its end, be it a newline or a carriage return and a newline. -/
def firstLine (text : List Char) : List Char :=
  match splitFirst '\n' text with
  | none => text
  | some (line, _) => if line.getLast? = some '\r' then line.dropLast else line

def isBlank (character : Char) : Bool :=
  let code := character.toNat
  (9 ≤ code && code ≤ 13) || code == 0x20 || code == 0x85 || code == 0xA0 || code == 0x1680 ||
    (0x2000 ≤ code && code ≤ 0x200A) || code == 0x2028 || code == 0x2029 || code == 0x202F ||
    code == 0x205F || code == 0x3000

def words (text : List Char) : List (List Char) :=
  (pieces isBlank text).filter (!·.isEmpty)

end Superserver.Text
