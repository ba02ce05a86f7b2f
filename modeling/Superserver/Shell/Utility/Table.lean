import Superserver.Shell.Builtin.Control
import Superserver.Shell.Builtin.Place
import Superserver.Shell.Utility.Translate

/-!
The other programs by name. Those are here that the commands of workers are made of; a name that is
not in the table is one of a program that is not installed.
-/

namespace Superserver.Shell

namespace Utility

def echo : Utility := fun _ arguments => do
  let isOption (word : Octets) : Bool :=
    1 < word.length && word.head? == some '-' && word.tail.all ['n', 'e', 'E'].contains
  let options := arguments.takeWhile isOption
  let words := arguments.drop options.length
  let letters := options.flatten
  let text := [' '].intercalate words
  let marks := letters.filter fun letter => letter == 'e' || letter == 'E'
  let (text, ended) :=
    if marks.getLast? == some 'e' then Octets.unescaped text else (text, false)
  put (if ended || letters.contains 'n' then text else text ++ ['\n'])

def sleep : Utility := fun name arguments => do
  let given ← given name { letters := "" } arguments
  if given.operands.isEmpty then misuse name (Octets.ofString "missing operand")
  for word in given.operands do
    if (Octets.milliseconds? word).isNone then
      misuse name (Octets.ofString "invalid time interval " ++ inQuotes word)

def visible (octet : Char) : Octets :=
  let low (octet : Char) : Octets :=
    if octet = '\x7f' then ['^', '?']
    else if octet < ' ' then ['^', Char.ofNat (octet.toNat + 64)]
    else [octet]
  if octet.toNat < 128 then low octet else 'M' :: '-' :: low (Char.ofNat (octet.toNat - 128))

structure Showing where
  numbered : Bool
  filledOnly : Bool
  squeezed : Bool
  ends : Bool
  tabs : Bool
  control : Bool

def shownLines (showing : Showing) :
    (number : Nat) → (afterEmpty : Bool) → List Octets → List Octets
  | _, _, [] => []
  | number, afterEmpty, line :: rest =>
      let isEmpty := line == ['\n']
      if showing.squeezed && isEmpty && afterEmpty then shownLines showing number true rest
      else
        let counts := showing.numbered && !(showing.filledOnly && isEmpty)
        let lead := if counts then column 6 (number + 1) ++ ['\t'] else []
        let shown := line.flatMap fun octet =>
          if octet = '\n' then if showing.ends then ['$', '\n'] else ['\n']
          else if octet = '\t' then if showing.tabs then ['^', 'I'] else ['\t']
          else if showing.control then visible octet
          else [octet]
        (lead ++ shown) :: shownLines showing (if counts then number + 1 else number) isEmpty rest

def cat : Utility := fun name arguments => do
  let given ← given name { letters := "AbeEnstTuv" } arguments
  let all := given.has 'A'
  let showing : Showing :=
    { numbered := given.has 'n' || given.has 'b'
      filledOnly := given.has 'b'
      squeezed := given.has 's'
      ends := all || given.has 'E' || given.has 'e'
      tabs := all || given.has 'T' || given.has 't'
      control := all || given.has 'v' || given.has 'e' || given.has 't' }
  if given.options.all fun option => option.1 == 'u' then
    for path in sources given.operands do
      if let some content ← content? name path then put content
  else
    let text ← allContents name given.operands
    put (shownLines showing 0 false (endedLines text)).flatten

/-- Runs a program whose output may be closed; then it fails if it has anything to write. -/
def guarded (program : String) (name : Octets) (action : Run Unit) : Run Unit := do
  let shell ← get
  if (shell.stream? 1).isSome then action
  else
    let reason := ": " ++ Errno.description Errno.badDescriptor
    if program = "cat" then refuse name (Octets.ofString ("standard output" ++ reason))
    let (number, world) := shell.world.newPipe []
    set { shell with world }
    setStream 1 (some (.pipe number))
    action
    if ((← get).world.pipes.lookup number) != some [] then
      refuse name (Octets.ofString ("write error" ++ reason))

end Utility

def utility? (name : String) : Option Utility :=
  match name with
  | "[" => some fun _ => test true
  | "cat" => some Utility.cat
  | "echo" => some Utility.echo
  | "false" => some fun _ _ => setStatus 1
  | "kill" => some fun _ => kill
  | "printf" => some fun _ => printFormatted
  | "pwd" => some fun _ => showDirectory
  | "sleep" => some Utility.sleep
  | "test" => some fun _ => test false
  | "tr" => some Utility.tr
  | "true" => some fun _ _ => return
  | _ => none

end Superserver.Shell
