import Superserver.Shell.State

/-!
Arguments of the shell's own commands: options, numbers and names.
-/

namespace Superserver.Shell

def lettersOf (accepted : Octets) : Octets → Except Char (List (Char × Octets) × Option Char)
  | [] => .ok ([], none)
  | letter :: rest =>
      let after := (accepted.dropWhile (· != letter)).tail
      if !accepted.contains letter || letter = ':' then .error letter
      else if after.head? = some ':' then
        if rest.isEmpty then .ok ([], some letter) else .ok ([(letter, rest)], none)
      else do
        let (others, waiting) ← lettersOf accepted rest
        return ((letter, []) :: others, waiting)

/-- The options of a command and the arguments after them. A colon follows the letter of an option
that has a value. -/
def readOptions (accepted : Octets) : List Octets → Run (List (Char × Octets) × List Octets)
  | [] => return ([], [])
  | word :: rest =>
      match word with
      | ['-', '-'] => return ([], rest)
      | '-' :: first :: letters =>
          match lettersOf accepted (first :: letters) with
          | .error letter => failWith s!"Illegal option -{letter}"
          | .ok (found, none) => do
              let (others, arguments) ← readOptions accepted rest
              return (found ++ others, arguments)
          | .ok (found, some letter) =>
              match rest with
              | [] => failWith s!"No arg for -{letter} option"
              | value :: rest => do
                  let (others, arguments) ← readOptions accepted rest
                  return (found ++ (letter, value) :: others, arguments)
      | word => return ([], word :: rest)

def optionsOf (accepted : String) (arguments : List Octets) :
    Run (List (Char × Octets) × List Octets) :=
  readOptions accepted.toList arguments

def numberMax : Nat := 2147483647

def illegalNumber (text : Octets) : Run α := fail (Octets.ofString "Illegal number: " ++ text)

def number (text : Octets) : Run Nat :=
  match Octets.number? text with
  | some value => if value ≤ numberMax then return value else illegalNumber text
  | none => illegalNumber text

def nameOf (argument : Octets) : Octets := argument.takeWhile (· != '=')

def variableName (argument : Octets) : Run String := do
  let name := nameOf argument
  if !Octets.isName name then fail (name ++ Octets.ofString ": bad variable name")
  return String.ofList name

def assignChecked (name value : Octets) : Run Unit := do assign (← variableName name) value

def print (text : Octets) : Run Unit := do
  if text.isEmpty then return
  if !(← write 1 text) then
    let name := ((← get).running.getD "").toList
    complain (name ++ Octets.ofString ": I/O error")
    setStatus 1

def printLine (text : Octets) : Run Unit := print (text ++ ['\n'])

def quotedText (text : Octets) : Octets :=
  let pieces := Octets.split '\'' text
  let between := "'\"'\"'".toList
  ['\''] ++ between.intercalate pieces ++ ['\'']

end Superserver.Shell
