import Superserver.Shell.Process

/-!
How a shell starts: what it takes from those that start it, and what its arguments ask for.
-/

namespace Superserver.Shell

/-- Values that a shell gives to variables whatever those have said that started it. -/
def ownValues (parent : Nat) : List (String × Octets) :=
  [("IFS", defaultSeparators), ("OPTIND", ['1']), ("PPID", (toString parent).toList)]

def defaultVariables : List (String × Variable) :=
  [("IFS", {}), ("OPTIND", {}), ("PATH", { value := some standardPath.toList }),
    ("PS1", { value := some ['$', ' '] }), ("PS2", { value := some ['>', ' '] }),
    ("PS4", { value := some ['+', ' '] })]

def firstPlace (shell : Shell) (told : Option Octets) : Octets :=
  let spelled := Octets.ofBytes (FileTree.spell shell.directory)
  match told with
  | none => spelled
  | some place =>
      let same := (shell.locate place).toOption = some shell.directory
      if place.head? = some '/' && same then place else spelled

def started (shell : Shell) (environment : List (String × Octets)) : Shell :=
  let given := environment.foldl
    (fun slots (name, value) =>
      if !Octets.isName name.toList then slots
      else withSlot name { value := some value, exported := true } slots)
    defaultVariables
  let slots := (ownValues shell.parent).foldl
    (fun slots (name, value) =>
      let old := (slots.lookup name).getD {}
      withSlot name { old with value := some value } slots)
    given
  let place := shell.firstPlace ((given.lookup "PWD").bind (·.value))
  { shell with
    place
    slots := withSlot "PWD" { value := some place, exported := true } slots }

structure Invocation where
  isText : Bool := false
  isInput : Bool := false
  arguments : List Octets := []

def invocation : (count : Nat) → Invocation → List Octets → Run Invocation
  | 0, invocation, arguments => return { invocation with arguments }
  | _, invocation, [] => return invocation
  | count + 1, known, word :: rest => do
      let set (value : Bool) (letters : Octets) : Run (List Octets) :=
        setLetters value (letters.filter fun letter => letter != 'c' && letter != 's') rest
      match word with
      | ['-'] | ['-', '-'] => return { known with arguments := rest }
      | '-' :: letters =>
          let known :=
            { known with
              isText := known.isText || letters.contains 'c'
              isInput := known.isInput || letters.contains 's' }
          invocation count known (← set true letters)
      | '+' :: letters => invocation count known (← set false letters)
      | word => return { known with arguments := word :: rest }

end Superserver.Shell
