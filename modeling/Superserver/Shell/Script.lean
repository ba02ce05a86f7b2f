import Superserver.Shell.Octets

/-!
Shell scripts: words with what is to be put in for parts of them, and the commands made of words.
-/

namespace Superserver.Shell

inductive FileMode where
  | read
  | write
  /-- Writes over a file even if files are protected. -/
  | overwrite
  | append
  | readWrite
deriving DecidableEq

mutual

inductive Fragment where
  | text (quoted : Bool) (octets : Octets)
  | parameter (quoted : Bool) (name : String) (use : ParameterUse)
  | output (quoted : Bool) (command : Command)
  | sum (quoted : Bool) (expression : List Fragment)

/-- What is put in for a parameter. The flag tells whether an empty value counts as none. -/
inductive ParameterUse where
  | value
  | size
  | otherwise (orEmpty : Bool) (word : List Fragment)
  | assign (orEmpty : Bool) (word : List Fragment)
  | demand (orEmpty : Bool) (word : List Fragment)
  | instead (orEmpty : Bool) (word : List Fragment)
  | trim (atEnd longest : Bool) (pattern : List Fragment)
  | malformed

inductive Redirection where
  | file (stream : Nat) (mode : FileMode) (path : List Fragment)
  | copy (stream : Nat) (other : List Fragment)
  | document (stream : Nat) (number : Nat)

inductive Command where
  | nothing
  | simple (line : Nat) (assignments : List (String × List Fragment))
      (words : List (List Fragment)) (redirections : List Redirection)
  | pipeline (commands : List Command)
  | negated (command : Command)
  | both (first second : Command)
  | either (first second : Command)
  | sequence (first second : Command)
  | background (command : Command)
  | redirected (line : Nat) (command : Command) (redirections : List Redirection)
  | subshell (line : Nat) (command : Command) (redirections : List Redirection)
  | choice (condition chosen other : Command)
  | loop (untilTrue : Bool) (condition body : Command)
  | forEach (line : Nat) (name : String) (words : Option (List (List Fragment))) (body : Command)
  | cases (line : Nat) (subject : List Fragment)
      (branches : List (List (List Fragment) × Command))
  | function (name : String) (body : Command)

end

abbrev Word := List Fragment

instance : Inhabited Command := ⟨.nothing⟩

def Word.isQuoted (word : Word) : Bool :=
  word.any fun
    | .text quoted _ => quoted
    | _ => false

def Word.plain? : Word → Option Octets
  | [.text false octets] => some octets
  | _ => none

/-- For how many milliseconds a command of some words sleeps; a time that is not known counts as a
second. -/
def sleepTime : List Octets → Nat
  | [] => 0
  | name :: times =>
      if name != "sleep".toList then 0
      else times.foldl (fun sum time => sum + (Octets.milliseconds? time).getD 1000) 0

def Command.delay : Command → Nat
  | .simple _ _ words _ => sleepTime (words.map fun word => (Word.plain? word).getD [])
  | .negated command | .redirected _ command _ | .subshell _ command _ => command.delay
  | .both first _ | .either first _ | .sequence first _ => first.delay
  | .choice condition _ _ | .loop _ condition _ => condition.delay
  | _ => 0

/-- Commands of the shell whose names no function may have, and whose errors end the shell. -/
def specialBuiltins : List String :=
  [".", ":", "break", "continue", "eval", "exec", "exit", "export", "local", "readonly", "return",
    "set", "shift", "times", "trap", "unset"]

structure ScriptError where
  line : Nat
  text : String
deriving DecidableEq

def ScriptError.message (error : ScriptError) : String := s!"Syntax error: {error.text}"

end Superserver.Shell
