import Superserver.Shell.Arithmetic
import Superserver.Shell.Pattern
import Superserver.Shell.State

/-!
Conditions of the `test` command: texts, numbers and files are compared, and the results combined.
-/

namespace Superserver.Shell

namespace Condition

inductive Operator where
  | unary (letter : Char)
  | binary (text : String)
  | negation
  | conjunction
  | disjunction
  | opening
  | closing
deriving DecidableEq

def operator? (text : Octets) : Option Operator :=
  match text with
  | ['!'] => some .negation
  | ['('] => some .opening
  | [')'] => some .closing
  | ['-', 'a'] => some .conjunction
  | ['-', 'o'] => some .disjunction
  | ['-', letter] =>
      if "rwxefdcbpugkstznhLOGS".toList.contains letter then some (.unary letter) else none
  | text =>
      let text := String.ofList text
      let comparisons :=
        ["=", "!=", "<", ">", "-eq", "-ne", "-ge", "-gt", "-le", "-lt", "-nt", "-ot", "-ef"]
      if comparisons.contains text then some (.binary text) else none

def Operator.isBinary : Operator → Bool
  | .binary _ => true
  | _ => false

def number (text : Octets) : Except Octets Int :=
  let illegal : Except Octets Int := .error (Octets.ofString "Illegal number: " ++ text)
  let start := text.dropWhile Octets.isSpace
  let (negative, digits) := match start with
    | '-' :: rest => (true, rest)
    | '+' :: rest => (false, rest)
    | start => (false, start)
  let (size, rest) := Arithmetic.digits 10 0 digits
  let value := if negative then -Int.ofNat size else Int.ofNat size
  if !Arithmetic.beginsWith 10 digits || !(rest.all Octets.isSpace) then illegal
  else if value < -Arithmetic.wordMax - 1 || Arithmetic.wordMax < value then illegal
  else .ok value

structure Files where
  find? : (follow : Bool) → Octets → Option Node
  place? : Octets → Option Path

def Files.ask (files : Files) (letter : Char) (path : Octets) : Bool :=
  match letter with
  | 'h' | 'L' => match files.find? false path with
    | some (.link _) => true
    | _ => false
  | letter =>
      match letter, files.find? true path with
      | _, none => false
      | 'e', some _ | 'r', some _ | 'O', some _ | 'G', some _ => true
      | 'f', some (.file _) | 'd', some (.directory _) | 'S', some (.socket _) => true
      | 'c', some .nullDevice => true
      | 's', some (.file content) => !content.isEmpty
      | 's', some (.directory _) | 'x', some (.directory _) => true
      | 'w', some (.directory writable) => writable
      | 'w', some _ => true
      | _, _ => false

def unary (files : Files) (letter : Char) (operand : Octets) : Except Octets Bool :=
  match letter with
  | 'z' => .ok operand.isEmpty
  | 'n' => .ok !operand.isEmpty
  | 't' => do
      let _ ← number operand
      return false
  | letter => .ok (files.ask letter operand)

def compare (files : Files) (operator : String) (left right : Octets) : Except Octets Bool :=
  let numbers (holds : Int → Int → Bool) : Except Octets Bool := do
    return holds (← number left) (← number right)
  match operator with
  | "=" => .ok (left = right)
  | "!=" => .ok (left != right)
  | "<" => .ok (Pattern.comesBefore left right)
  | ">" => .ok (Pattern.comesBefore right left)
  | "-eq" => numbers fun left right => left = right
  | "-ne" => numbers fun left right => left != right
  | "-ge" => numbers fun left right => right ≤ left
  | "-gt" => numbers fun left right => right < left
  | "-le" => numbers fun left right => left ≤ right
  | "-lt" => numbers fun left right => left < right
  | "-ef" => .ok ((files.place? left).isSome && files.place? left = files.place? right)
  | "-nt" => .ok ((files.place? left).isSome && (files.place? right).isNone)
  | "-ot" => .ok ((files.place? left).isNone && (files.place? right).isSome)
  | _ => .ok false

/-- What a word is where a condition is read: an operator that needs an operand and has none, or
one that a comparison follows, is a plain word. -/
def token? : List Octets → Option Operator
  | [] => none
  | text :: rest =>
      match operator? text, rest with
      | some .opening, [] => none
      | some (.unary _), [] => none
      | some (.unary letter), next :: _ :: _ =>
          if ((operator? next).map Operator.isBinary).getD false then none
          else some (.unary letter)
      | operator, _ => operator

def missing (operator : Octets) : Octets := operator ++ Octets.ofString ": argument expected"

mutual

def alternatives (files : Files) : (fuel : Nat) → List Octets → Except Octets (Bool × List Octets)
  | 0, _ => .error []
  | fuel + 1, words => do
      let (left, words) ← conjunctions files fuel words
      if token? words.tail = some .disjunction then
        let (right, words) ← alternatives files fuel words.tail.tail
        return (left || right, words)
      return (left, words)
termination_by structural fuel => fuel

def conjunctions (files : Files) : (fuel : Nat) → List Octets → Except Octets (Bool × List Octets)
  | 0, _ => .error []
  | fuel + 1, words => do
      let (left, words) ← negations files fuel words
      if token? words.tail = some .conjunction then
        let (right, words) ← conjunctions files fuel words.tail.tail
        return (left && right, words)
      return (left, words)
termination_by structural fuel => fuel

def negations (files : Files) : (fuel : Nat) → List Octets → Except Octets (Bool × List Octets)
  | 0, _ => .error []
  | fuel + 1, words => do
      if token? words = some .negation then
        match words with
        | [only] => return (true, [only])
        | words =>
            let (value, words) ← negations files fuel words.tail
            return (!value, words)
      primary files fuel words
termination_by structural fuel => fuel

def primary (files : Files) : (fuel : Nat) → List Octets → Except Octets (Bool × List Octets)
  | 0, _ => .error []
  | _, [] => return (false, [])
  | fuel + 1, first :: rest => do
      match token? (first :: rest), rest with
      | some .opening, rest =>
          if token? rest = some .closing then return (false, rest)
          let (value, words) ← alternatives files fuel rest
          if token? words.tail != some .closing then
            .error (Octets.ofString "closing paren expected")
          return (value, words.tail)
      | some (.unary letter), operand :: _ => return (← unary files letter operand, rest)
      | some (.unary _), [] => .error (missing first)
      | _, operator :: others =>
          match token? rest, others with
          | some (.binary text), right :: _ => return (← compare files text first right, others)
          | some (.binary _), [] => .error (missing operator)
          | _, _ => return (!first.isEmpty, first :: rest)
      | _, [] => return (!first.isEmpty, [first])
termination_by structural fuel => fuel

end

def whole (files : Files) (words : List Octets) : Except Octets Bool := do
  let (value, words) ← alternatives files (8 * (words.length + 2)) words
  match words with
  | first :: _ :: _ =>
      let lead := if first.isEmpty then [] else first ++ [':', ' ']
      .error (lead ++ Octets.ofString "unexpected operator")
  | _ => return value

/-- Looks at conditions of three or four words as a whole first. However many negations are taken
off one after another, they count as one. -/
def short (files : Files) : (fuel : Nat) → (negated : Bool) → List Octets → Except Octets Bool
  | 0, _, _ => .ok false
  | fuel + 1, negated, words => do
      let value (words : List Octets) : Except Octets Bool :=
        (whole files words).map (· != negated)
      let other (words : List Octets) : Except Octets Bool :=
        if words.head? = some ['('] && words.getLast? = some [')'] then value words.tail.dropLast
        else if words.head? = some ['!'] then short files fuel true words.tail
        else value words
      match words with
      | [left, operator, right] =>
          match operator? operator with
          | some (.binary text) => (compare files text left right).map (· != negated)
          | _ => other words
      | [_, _, _, _] => other words
      | words => value words

def holds (files : Files) (words : List Octets) : Except Octets Bool :=
  if words.isEmpty then .ok false else short files (words.length + 1) false words

end Condition

end Superserver.Shell
