import Superserver.Shell.Builtin.Arguments
import Superserver.Shell.Expansion

/-!
Commands that change what the shell knows: variables, positional parameters and options.
-/

namespace Superserver.Shell

/-! ### Lists of variables -/

def shown (lead : String) (entry : String × Variable) : Octets :=
  let value := match entry.2.value with
    | some value => '=' :: quotedText value
    | none => []
  lead.toList ++ entry.1.toList ++ value ++ ['\n']

def sorted (entries : List (String × Variable)) : List (String × Variable) :=
  entries.mergeSort fun one other => !Pattern.comesBefore other.1.toList one.1.toList

def showVariables (lead : String) (belongs : Variable → Bool) : Run Unit := do
  let entries := (← get).slots.filter fun entry => belongs entry.2
  print ((sorted entries).flatMap (shown lead))

def markVariables (lead : String) (belongs : Variable → Bool) (mark : Variable → Variable)
    (arguments : List Octets) : Run Unit := do
  let (options, arguments) ← optionsOf "p" arguments
  if !options.isEmpty || arguments.isEmpty then showVariables lead belongs
  for argument in arguments do
    let name ← variableName argument
    if argument.contains '=' then assign name ((argument.dropWhile (· != '=')).drop 1)
    putSlot name (mark ((← get).slot name))

def exportVariables : List Octets → Run Unit :=
  markVariables "export " (·.exported) fun slot => { slot with exported := true }

def protectVariables : List Octets → Run Unit :=
  markVariables "readonly " (·.readOnly) fun slot => { slot with readOnly := true }

def unsetNames (arguments : List Octets) : Run Unit := do
  let (options, arguments) ← optionsOf "vf" arguments
  let functions := (options.getLast?.map (·.1)) == some 'f'
  for argument in arguments do
    if functions then
      let name := String.ofList argument
      modify fun shell =>
        { shell with functions := shell.functions.filter fun entry => entry.1 != name }
    else
      let name ← variableName argument
      if ((← get).slot name).readOnly then fail (argument ++ Octets.ofString ": is read only")
      dropSlot name

def makeLocal (name : String) : Run Unit := modify fun shell =>
  match shell.locals with
  | [] => shell
  | frame :: outer =>
      if (frame.lookup name).isSome then shell
      else { shell with locals := ((name, shell.slots.lookup name) :: frame) :: outer }

def localVariables (arguments : List Octets) : Run Unit := do
  if (← get).locals.isEmpty then failWith "not in a function"
  for argument in arguments do
    let name ← variableName argument
    makeLocal name
    if argument.contains '=' then assign name ((argument.dropWhile (· != '=')).drop 1)

/-! ### Parameters and options -/

def shift (arguments : List Octets) : Run Unit := do
  let count ← match arguments with
    | [] => pure 1
    | text :: _ => number text
  let shell ← get
  if shell.positional.length < count then failWith "can't shift that many"
  set { shell with positional := shell.positional.drop count }

def optionNames : List (String × Char) :=
  [("errexit", 'e'), ("noglob", 'f'), ("ignoreeof", 'I'), ("interactive", 'i'), ("monitor", 'm'),
    ("noexec", 'n'), ("stdin", 's'), ("xtrace", 'x'), ("verbose", 'v'), ("vi", 'V'),
    ("emacs", 'E'), ("noclobber", 'C'), ("allexport", 'a'), ("notify", 'b'), ("nounset", 'u'),
    ("privileged", 'p'), ("nolog", 'L'), ("debug", 'D')]

def lettered : List Char :=
  ['e', 'f', 'I', 'i', 'm', 'n', 's', 'x', 'v', 'V', 'E', 'C', 'a', 'b', 'u', 'p']

def setOption (value : Bool) (letter : Char) : Run Unit := modify fun shell =>
  let others := shell.options.filter (· != letter)
  { shell with options := if value then letter :: others else others }

def setLetter (value : Bool) (letter : Char) : Run Unit :=
  if lettered.contains letter then setOption value letter
  else failWith s!"Illegal option -{letter}"

def showOptions (asCommands : Bool) : Run Unit := do
  let shell ← get
  let line (entry : String × Char) : Octets :=
    let isOn := shell.isSet entry.2
    let padding := List.replicate (16 - entry.1.length) ' '
    let mark := if isOn then "-o" else "+o"
    if asCommands then Octets.ofString s!"set {mark} {entry.1}\n"
    else entry.1.toList ++ padding ++ (if isOn then "on" else "off").toList ++ ['\n']
  let lead := if asCommands then [] else "Current option settings\n".toList
  print (lead ++ optionNames.flatMap line)

def setNamed (value : Bool) (name : Octets) : Run Unit :=
  match optionNames.lookup (String.ofList name) with
  | some letter => setOption value letter
  | none => fail (Octets.ofString "Illegal option -o " ++ name)

/-- Sets the options in a word; the result says how many names were taken from the words after
it. -/
def setLetters (value : Bool) : Octets → List Octets → Run (List Octets)
  | [], rest => return rest
  | 'o' :: letters, rest => do
      match rest with
      | [] => showOptions (!value)
      | name :: _ => setNamed value name
      setLetters value letters rest.tail
  | letter :: letters, rest => do
      setLetter value letter
      setLetters value letters rest

def setArguments : (count : Nat) → List Octets → Run Unit
  | 0, _ | _, [] => return
  | count + 1, word :: rest => do
      match word with
      | ['-'] =>
          setOption false 'x'
          setOption false 'v'
          if !rest.isEmpty then modify fun shell => { shell with positional := rest }
      | ['-', '-'] => modify fun shell => { shell with positional := rest }
      | '-' :: letters => setArguments count (← setLetters true letters rest)
      | '+' :: letters => setArguments count (← setLetters false letters rest)
      | word => modify fun shell => { shell with positional := word :: rest }

def setCommand (arguments : List Octets) : Run Unit :=
  if arguments.isEmpty then showVariables "" fun slot => slot.value.isSome
  else setArguments (arguments.length + 1) arguments

def getOptions (arguments : List Octets) : Run Unit := do
  let (_, arguments) ← optionsOf "" arguments
  match arguments with
  | accepted :: name :: given =>
      let shell ← get
      let words := if given.isEmpty then shell.positional else given
      let index := ((shell.lookup? "OPTIND").bind Octets.number?).getD 1
      let offset := if index = shell.optionPlace.1 then shell.optionPlace.2 else 0
      let finish (index offset : Nat) (letter : Octets) (value : Option Octets) (status : Nat) :
          Run Unit := do
        assign "OPTIND" (toString index).toList
        modify fun shell => { shell with optionPlace := (index, offset) }
        match value with
        | some value => assign "OPTARG" value
        | none => if status = 0 then dropSlot "OPTARG"
        assignChecked name letter
        setStatus status
      let silent := accepted.head? == some ':'
      let say (text : String) : Run Unit := if silent then return else writeLine 2 text
      let ends := finish index 0 ['?'] none 1
      match words[index - 1]? with
      | none => ends
      | some word =>
          if word.length < 2 || word.head? != some '-' then ends
          else if word = ['-', '-'] then finish (index + 1) 0 ['?'] none 1
          else
            let place := max 1 offset
            let letter := (word[place]?).getD '?'
            let isLast := word.length ≤ place + 1
            let (nextIndex, nextOffset) := if isLast then (index + 1, 0) else (index, place + 1)
            let after := (accepted.dropWhile (· != letter)).tail
            if letter = ':' || !accepted.contains letter then do
              say s!"Illegal option -{letter}"
              finish nextIndex nextOffset ['?'] (if silent then some [letter] else none) 0
            else if after.head? != some ':' then finish nextIndex nextOffset [letter] (some []) 0
            else if !isLast then finish (index + 1) 0 [letter] (some (word.drop (place + 1))) 0
            else match words[index]? with
              | some value => finish (index + 2) 0 [letter] (some value) 0
              | none =>
                  say s!"No arg for -{letter} option"
                  finish (index + 1) 0 [if silent then ':' else '?']
                    (if silent then some [letter] else none) 0
  | _ => failWith "Usage: getopts optstring var [arg...]"

/-! ### Lines into variables -/

/-- Characters of a line, where a backslash quotes the next one unless the line is `raw`: how many
are read, those that count, and whether the line has an end. -/
def lineMarked (raw : Bool) : (count : Nat) → Octets → Nat × List Marked × Bool
  | 0, _ | _, [] => (0, [], false)
  | count + 1, '\\' :: rest =>
      if raw then
        let (size, marked, ended) := lineMarked raw count rest
        (size + 1, ⟨'\\', false⟩ :: marked, ended)
      else match rest with
        | [] => (1, [], false)
        | octet :: rest =>
            let (size, marked, ended) := lineMarked raw count rest
            (size + 2, if octet = '\n' then marked else ⟨octet, true⟩ :: marked, ended)
  | _, '\n' :: _ => (1, [], true)
  | count + 1, octet :: rest =>
      let (size, marked, ended) := lineMarked raw count rest
      (size + 1, if octet = '\x00' then marked else ⟨octet, false⟩ :: marked, ended)

def separates (separators : Octets) (marked : Marked) : Bool :=
  !marked.quoted && separators.contains marked.octet

def separatesAsBlank (separators : Octets) (marked : Marked) : Bool :=
  separates separators marked && defaultSeparators.contains marked.octet

def firstField (separators : Octets) (text : List Marked) : List Marked × List Marked :=
  let field := text.takeWhile fun marked => !separates separators marked
  let rest := (text.drop field.length).dropWhile (separatesAsBlank separators)
  let rest := match rest with
    | marked :: after => if separates separators marked then after else rest
    | [] => []
  (field, rest.dropWhile (separatesAsBlank separators))

/-- Gives fields of a text to variables. The last one gets all that is left, without its separator
if that is one field. -/
def assignFields (separators : Octets) : List Octets → List Marked → Run Unit
  | [], _ => return
  | [name], text =>
      let (field, rest) := firstField separators text
      let trimmed := (text.reverse.dropWhile (separatesAsBlank separators)).reverse
      assignChecked name ((if rest.isEmpty then field else trimmed).map (·.octet))
  | name :: names, text => do
      let (field, rest) := firstField separators text
      assignChecked name (field.map (·.octet))
      assignFields separators names rest

def readLine (arguments : List Octets) : Run Unit := do
  let (options, names) ← optionsOf "p:r" arguments
  if names.isEmpty then failWith "arg count"
  let input := (← readable? 0).getD []
  let (count, marked, ended) := lineMarked ((options.lookup 'r').isSome) input.length input
  consume 0 count
  let separators := (← get).separators
  setStatus (if ended then 0 else 1)
  assignFields separators names (marked.dropWhile (separatesAsBlank separators))

end Superserver.Shell
