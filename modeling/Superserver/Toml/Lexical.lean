import Superserver.Text.Integer
import Superserver.Toml.Value

/-!
The smallest parts of a TOML document: blanks, comments, strings and simple keys. Each reader gives
what it read and the text after it, and nothing if the text does not begin with what it reads.
-/

namespace Superserver.Toml

def isBlank (character : Char) : Bool := character == ' ' || character == '\t'

def skipBlanks (text : Chars) : Chars := text.dropWhile isBlank

def newline? : Chars → Option Chars
  | '\n' :: rest => some rest
  | '\r' :: '\n' :: rest => some rest
  | _ => none

def isControl (character : Char) : Bool := character.toNat < 0x20 || character.toNat = 0x7F

def isPlain (character : Char) : Bool := character == '\t' || !isControl character

def skipComment : Chars → Chars
  | '#' :: rest => rest.dropWhile isPlain
  | text => text

def lineEnd? (text : Chars) : Option Chars :=
  match skipComment (skipBlanks text) with
  | [] => some []
  | rest => newline? rest

def skipLines : (lines : Nat) → Chars → Chars
  | 0, text => text
  | lines + 1, text =>
      let rest := skipComment (skipBlanks text)
      match newline? rest with
      | some rest => skipLines lines rest
      | none => rest

def skipSpace (text : Chars) : Chars := skipLines text.length text

/-! ### Strings -/

def hexValue? (digit : Char) : Option Nat :=
  if Text.isDigit digit then some (digit.toNat - '0'.toNat)
  else if 'a' ≤ digit && digit ≤ 'f' then some (digit.toNat - 'a'.toNat + 10)
  else if 'A' ≤ digit && digit ≤ 'F' then some (digit.toNat - 'A'.toNat + 10)
  else none

def coded? (digits : Chars) : Option Char := do
  let values ← digits.mapM hexValue?
  let code := values.foldl (fun code digit => code * 16 + digit) 0
  if code.isValidChar then some (Char.ofNat code) else none

def escaped? : Char → Option Char
  | 'b' => some '\x08'
  | 't' => some '\t'
  | 'n' => some '\n'
  | 'f' => some '\x0c'
  | 'r' => some '\r'
  | '"' => some '"'
  | '\\' => some '\\'
  | _ => none

def withChar (character : Option Char) (rest : Option (Chars × Chars)) : Option (Chars × Chars) :=
  do
    let character ← character
    let (text, after) ← rest
    return (character :: text, after)

def basicBody : Chars → Option (Chars × Chars)
  | [] => none
  | '"' :: rest => some ([], rest)
  | '\\' :: 'u' :: a :: b :: c :: d :: rest => withChar (coded? [a, b, c, d]) (basicBody rest)
  | '\\' :: 'U' :: a :: b :: c :: d :: e :: f :: g :: h :: rest =>
      withChar (coded? [a, b, c, d, e, f, g, h]) (basicBody rest)
  | '\\' :: mark :: rest => withChar (escaped? mark) (basicBody rest)
  | character :: rest =>
      if isPlain character && character != '\\' then withChar (some character) (basicBody rest)
      else none

def literalBody : Chars → Option (Chars × Chars)
  | [] => none
  | '\'' :: rest => some ([], rest)
  | character :: rest =>
      if isPlain character then withChar (some character) (literalBody rest) else none

def endsLine (text : Chars) : Bool := (newline? (skipBlanks text)).isSome

/-- The rest of a string in three double quotes. Up to two quotes may stand right before the
closing ones. After a backslash at the end of a line, `skipping` passes over white space. -/
def multilineBody (skipping : Bool) : Chars → Option (Chars × Chars)
  | [] => none
  | '"' :: '"' :: '"' :: '"' :: '"' :: rest => some (['"', '"'], rest)
  | '"' :: '"' :: '"' :: '"' :: rest => some (['"'], rest)
  | '"' :: '"' :: '"' :: rest => some ([], rest)
  | '\r' :: '\n' :: rest =>
      if skipping then multilineBody true rest
      else withChar (some '\n') (multilineBody false rest)
  | '\n' :: rest =>
      if skipping then multilineBody true rest
      else withChar (some '\n') (multilineBody false rest)
  | '\\' :: 'u' :: a :: b :: c :: d :: rest =>
      withChar (coded? [a, b, c, d]) (multilineBody false rest)
  | '\\' :: 'U' :: a :: b :: c :: d :: e :: f :: g :: h :: rest =>
      withChar (coded? [a, b, c, d, e, f, g, h]) (multilineBody false rest)
  | '\\' :: mark :: rest =>
      if endsLine (mark :: rest) then multilineBody true (mark :: rest)
      else withChar (escaped? mark) (multilineBody false rest)
  | character :: rest =>
      if skipping && isBlank character then multilineBody true rest
      else if isPlain character && character != '\\' then
        withChar (some character) (multilineBody false rest)
      else none

def multilineLiteralBody : Chars → Option (Chars × Chars)
  | [] => none
  | '\'' :: '\'' :: '\'' :: '\'' :: '\'' :: rest => some (['\'', '\''], rest)
  | '\'' :: '\'' :: '\'' :: '\'' :: rest => some (['\''], rest)
  | '\'' :: '\'' :: '\'' :: rest => some ([], rest)
  | '\r' :: '\n' :: rest => withChar (some '\n') (multilineLiteralBody rest)
  | '\n' :: rest => withChar (some '\n') (multilineLiteralBody rest)
  | character :: rest =>
      if isPlain character then withChar (some character) (multilineLiteralBody rest) else none

def trimNewline (text : Chars) : Chars := (newline? text).getD text

def string? : Chars → Option (Chars × Chars)
  | '"' :: '"' :: '"' :: rest => multilineBody false (trimNewline rest)
  | '"' :: rest => basicBody rest
  | '\'' :: '\'' :: '\'' :: rest => multilineLiteralBody (trimNewline rest)
  | '\'' :: rest => literalBody rest
  | _ => none

/-! ### Keys -/

def isBareKey (character : Char) : Bool :=
  character.isAlphanum || character == '_' || character == '-'

def simpleKey? : Chars → Option (Chars × Chars)
  | '"' :: rest => basicBody rest
  | '\'' :: rest => literalBody rest
  | text =>
      let key := text.takeWhile isBareKey
      if key.isEmpty then none else some (key, text.dropWhile isBareKey)

/-- Nothing may nest deeper than this, nor may a key have more parts. -/
def depthMax : Nat := 80

def keyParts? : (parts : Nat) → Chars → Option (List Key × Chars)
  | 0, _ => none
  | parts + 1, text => do
      let here := skipBlanks text
      let (name, after) ← simpleKey? here
      let key : Key := { name := String.ofList name, place := { here, after } }
      match skipBlanks after with
      | '.' :: rest =>
          let (others, rest) ← keyParts? parts rest
          return (key :: others, rest)
      | rest => return ([key], rest)

def key? (text : Chars) : Option (List Key × Chars) := keyParts? (depthMax - 1) text

end Superserver.Toml
