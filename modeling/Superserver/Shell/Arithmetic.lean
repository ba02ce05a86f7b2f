import Superserver.Shell.Octets

/-!
Expressions over words of 64 bits. An expression may read variables and give them values; where an
operator decides by its left side, the right one has no effects.
-/

namespace Superserver.Shell

inductive SumToken where
  | number (value : Int)
  | name (name : String)
  | mark (text : String)
  | unknown
deriving DecidableEq

namespace Arithmetic

def word (value : Int) : Int := Int.bmod value UInt64.size

def wordMax : Int := Int.ofNat (UInt64.size / 2) - 1

/-! ### Numbers -/

def digitValue? (octet : Char) : Option Nat :=
  if Text.isDigit octet then some (Text.digitValue octet)
  else if octet.isLower then some (octet.toNat - 'a'.toNat + 10)
  else if octet.isUpper then some (octet.toNat - 'A'.toNat + 10)
  else none

def digits (base : Nat) (value : Nat) : Octets → Nat × Octets
  | [] => (value, [])
  | octet :: rest =>
      match digitValue? octet with
      | some digit =>
          if digit < base then digits base (value * base + digit) rest else (value, octet :: rest)
      | none => (value, octet :: rest)

def beginsWith (base : Nat) (text : Octets) : Bool :=
  ((text.head?.bind digitValue?).map fun digit => decide (digit < base)).getD false

def unsigned (text : Octets) : Nat × Octets :=
  match text with
  | '0' :: mark :: rest =>
      if (mark == 'x' || mark == 'X') && beginsWith 16 rest then digits 16 0 rest
      else digits 8 0 text
  | text => digits 10 0 text

def number? (text : Octets) : Option Int :=
  let text := text.dropWhile Octets.isSpace
  let (negative, text) := match text with
    | '-' :: rest => (true, rest)
    | '+' :: rest => (false, rest)
    | text => (false, text)
  if !beginsWith 10 text then none
  else
    let (value, rest) := unsigned text
    if !(rest.all Octets.isSpace) then none
    else if negative then some (max (-Int.ofNat value) (-wordMax - 1))
    else some (min (Int.ofNat value) wordMax)

/-! ### Tokens -/

def marks : List String :=
  ["<<=", ">>=", "<<", ">>", "<=", ">=", "==", "!=", "&&", "||", "&=", "|=", "^=", "*=", "/=",
    "%=", "+=", "-=", "<", ">", "=", "!", "&", "|", "^", "*", "/", "%", "+", "-", "~", "(", ")",
    "?", ":"]

def tokens : (count : Nat) → Octets → List SumToken
  | 0, _ => []
  | count + 1, text =>
      match text.dropWhile Octets.isSpace with
      | [] => []
      | octet :: rest =>
          let text := octet :: rest
          if Text.isDigit octet then
            let (value, rest) := unsigned text
            .number (min (Int.ofNat value) wordMax) :: tokens count rest
          else if Octets.isNameStart octet then
            let name := text.takeWhile Octets.isNamePart
            .name (String.ofList name) :: tokens count (text.drop name.length)
          else match marks.find? fun mark => mark.toList.isPrefixOf text with
            | some mark => .mark mark :: tokens count (text.drop mark.length)
            | none => [.unknown]

/-! ### Values -/

structure Reading where
  rest : List SumToken
  lookup : String → Option Octets
  given : List (String × Int) := []

inductive Fault where
  | form (text : String)
  | illegal (value : Octets)

abbrev Reader := StateT Reading (Except Fault)

def peek : Reader (Option SumToken) := do return (← get).rest.head?

def advance : Reader Unit := modify fun reading => { reading with rest := reading.rest.tail }

def accept (text : String) : Reader Bool := do
  if (← peek) == some (.mark text) then
    advance
    return true
  else return false

def valueOf (name : String) : Reader Int := do
  let reading ← get
  match reading.given.lookup name with
  | some value => return value
  | none =>
      match reading.lookup name with
      | none | some [] => return 0
      | some text =>
          match number? text with
          | some value => return value
          | none => throw (.illegal text)

def give (name : String) (value : Int) : Reader Unit := modify fun reading =>
  { reading with given := (name, value) :: reading.given }

def levels : List (List String) :=
  [["|"], ["^"], ["&"], ["==", "!="], ["<", "<=", ">", ">="], ["<<", ">>"], ["+", "-"],
    ["*", "/", "%"]]

def ofBool (value : Bool) : Int := if value then 1 else 0

def distance (value : Int) : Nat := (value % 64).toNat

def bitwise (combine : UInt64 → UInt64 → UInt64) (left right : Int) : Int :=
  word (Int.ofNat (combine (UInt64.ofInt left) (UInt64.ofInt right)).toNat)

def apply (operator : String) (left right : Int) : Except Fault Int :=
  match operator with
  | "|" => .ok (bitwise (· ||| ·) left right)
  | "^" => .ok (bitwise (· ^^^ ·) left right)
  | "&" => .ok (bitwise (· &&& ·) left right)
  | "==" => .ok (ofBool (left = right))
  | "!=" => .ok (ofBool (left != right))
  | "<" => .ok (ofBool (left < right))
  | "<=" => .ok (ofBool (left ≤ right))
  | ">" => .ok (ofBool (right < left))
  | ">=" => .ok (ofBool (right ≤ left))
  | "<<" => .ok (word (left * Int.ofNat (Nat.pow 2 (distance right))))
  | ">>" => .ok (Int.fdiv left (Int.ofNat (Nat.pow 2 (distance right))))
  | "+" => .ok (word (left + right))
  | "-" => .ok (word (left - right))
  | "*" => .ok (word (left * right))
  | "/" => if right = 0 then .error (.form "division by zero") else .ok (word (left.tdiv right))
  | _ => if right = 0 then .error (.form "division by zero") else .ok (left.tmod right)

def assigning : List String := ["<<=", ">>=", "&=", "|=", "^=", "*=", "/=", "%=", "+=", "-="]

mutual

/-- A value that may be given to a variable; without effects if `idle`. -/
def assignment : (fuel : Nat) → (idle : Bool) → Reader Int
  | 0, _ => throw (.form "expecting primary")
  | fuel + 1, idle => do
      match (← get).rest with
      | .name name :: .mark "=" :: rest =>
          modify fun reading => { reading with rest }
          let value ← assignment fuel idle
          if !idle then give name value
          return value
      | .name name :: .mark mark :: rest =>
          if assigning.contains mark then
            modify fun reading => { reading with rest }
            let right ← assignment fuel idle
            if idle then return right
            let operation := (mark.dropEnd 1).toString
            let value ← (apply operation (← valueOf name) right : Except Fault Int)
            give name value
            return value
          else conditional fuel idle
      | _ => conditional fuel idle
termination_by structural fuel => fuel

def conditional : (fuel : Nat) → (idle : Bool) → Reader Int
  | 0, _ => throw (.form "expecting primary")
  | fuel + 1, idle => do
      let condition ← disjunction fuel idle
      if !(← accept "?") then return condition
      let chosen ← assignment fuel (idle || condition = 0)
      if !(← accept ":") then throw (.form "expecting ':'")
      let other ← conditional fuel (idle || condition != 0)
      return if condition = 0 then other else chosen
termination_by structural fuel => fuel

def disjunction : (fuel : Nat) → (idle : Bool) → Reader Int
  | 0, _ => throw (.form "expecting primary")
  | fuel + 1, idle => do
      let left ← conjunction fuel idle
      if !(← accept "||") then return left
      let right ← disjunction fuel (idle || left != 0)
      return ofBool (left != 0 || right != 0)
termination_by structural fuel => fuel

def conjunction : (fuel : Nat) → (idle : Bool) → Reader Int
  | 0, _ => throw (.form "expecting primary")
  | fuel + 1, idle => do
      let left ← binary fuel idle levels
      if !(← accept "&&") then return left
      let right ← conjunction fuel (idle || left = 0)
      return ofBool (left != 0 && right != 0)
termination_by structural fuel => fuel

def binary : (fuel : Nat) → (idle : Bool) → List (List String) → Reader Int
  | 0, _, _ => throw (.form "expecting primary")
  | fuel + 1, idle, [] => primary fuel idle
  | fuel + 1, idle, level :: tighter => do
      let left ← binary fuel idle tighter
      operations fuel idle level tighter left
termination_by structural fuel => fuel

def operations : (fuel : Nat) → (idle : Bool) → List String → List (List String) → Int → Reader Int
  | 0, _, _, _, _ => throw (.form "expecting primary")
  | fuel + 1, idle, level, tighter, left => do
      match ← peek with
      | some (.mark operator) =>
          if level.contains operator then
            advance
            let right ← binary fuel idle tighter
            let value ←
              (if idle then .ok right else apply operator left right : Except Fault Int)
            operations fuel idle level tighter value
          else return left
      | _ => return left
termination_by structural fuel => fuel

def primary : (fuel : Nat) → (idle : Bool) → Reader Int
  | 0, _ => throw (.form "expecting primary")
  | fuel + 1, idle => do
      match ← peek with
      | some (.number value) =>
          advance
          return value
      | some (.name name) =>
          advance
          if idle then return 0 else valueOf name
      | some (.mark "(") =>
          advance
          let value ← assignment fuel idle
          if !(← accept ")") then throw (.form "expecting ')'")
          return value
      | some (.mark "+") =>
          advance
          primary fuel idle
      | some (.mark "-") =>
          advance
          return word (-(← primary fuel idle))
      | some (.mark "!") =>
          advance
          return ofBool ((← primary fuel idle) = 0)
      | some (.mark "~") =>
          advance
          return -(← primary fuel idle) - 1
      | _ => throw (.form "expecting primary")
termination_by structural fuel => fuel

end

def Fault.message (expression : Octets) : Fault → Octets
  | .form text =>
      Octets.ofString s!"arithmetic expression: {text}: \"" ++ expression ++ ['"']
  | .illegal value => Octets.ofString "Illegal number: " ++ value

def evaluate (lookup : String → Option Octets) (expression : Octets) :
    Except Octets (Int × List (String × Int)) :=
  let rest := tokens expression.length expression
  let whole : Reader Int := do
    let value ← assignment (16 * (rest.length + 2)) false
    if (← peek).isSome then throw (.form "expecting EOF")
    return value
  match whole.run { rest, lookup } with
  | .ok (value, reading) => .ok (value, reading.given.reverse)
  | .error fault => .error (fault.message expression)

end Arithmetic

end Superserver.Shell
