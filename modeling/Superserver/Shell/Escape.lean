import Superserver.Shell.Octets

/-!
Backslashes in texts that are printed: letters for control characters, and octal numbers.
-/

namespace Superserver.Shell

namespace Octets

def octalDigit? (octet : Char) : Option Nat :=
  if '0' ≤ octet && octet ≤ '7' then some (octet.toNat - '0'.toNat) else none

def octal (text : Octets) : Char × Octets :=
  let digits := (text.take 3).takeWhile fun octet => (octalDigit? octet).isSome
  let value := digits.foldl (fun value digit => value * 8 + (octalDigit? digit).getD 0) 0
  (Char.ofNat (value % 256), text.drop digits.length)

def escapes : List (Char × Char) :=
  [('\\', '\\'), ('a', '\x07'), ('b', '\x08'), ('e', '\x1b'), ('f', '\x0c'), ('n', '\n'),
    ('r', '\r'), ('t', '\t'), ('v', '\x0b')]

def escape (text : Octets) : Char × Octets :=
  match text with
  | [] => ('\\', [])
  | octet :: rest =>
      match escapes.lookup octet with
      | some control => (control, rest)
      | none => if (octalDigit? octet).isSome then octal text else ('\\', text)

/-- A text with its backslashes replaced, in which a zero may lead an octal number. A `\c` ends the
text and all that was to come after it, which the flag tells. -/
def unescape : (count : Nat) → Octets → Octets × Bool
  | 0, _ | _, [] => ([], false)
  | count + 1, '\\' :: rest =>
      match rest with
      | 'c' :: _ => ([], true)
      | rest =>
          let led := match rest with
            | '0' :: digit :: after => if (octalDigit? digit).isSome then digit :: after else rest
            | rest => rest
          let (octet, rest) := escape led
          let (others, ended) := unescape count rest
          (octet :: others, ended)
  | count + 1, octet :: rest =>
      let (others, ended) := unescape count rest
      (octet :: others, ended)

def unescaped (text : Octets) : Octets × Bool := unescape text.length text

end Octets

def echoed (arguments : List Octets) : Octets :=
  match arguments with
  | ['-', 'n'] :: words => printed true words
  | words => printed false words
where
  printed (bare : Bool) : List Octets → Octets
    | [] => if bare then [] else ['\n']
    | word :: rest =>
        let (text, ended) := Octets.unescaped word
        if ended then text
        else if rest.isEmpty then text ++ if bare then [] else ['\n']
        else text ++ ' ' :: printed bare rest

end Superserver.Shell
