import Superserver.Shell.Builtin.Arguments
import Superserver.System.Error

/-!
Programs other than the shell: how they read their arguments, what they read and what they say.
-/

namespace Superserver.Shell

abbrev Utility := (name : Octets) → List Octets → Run Unit

namespace Utility

def say (name text : Octets) : Run Unit := do
  let _ ← write 2 (name ++ [':', ' '] ++ text ++ ['\n'])

def put (text : Octets) : Run Unit := do
  let _ ← write 1 text

def refuse (name text : Octets) (status : Nat := 1) : Run α := do
  say name text
  setStatus status
  throw .exit

def seeHelp (name : Octets) (status : Nat := 1) : Run α := do
  let _ ← write 2 (Octets.ofString "Try '" ++ name ++
    Octets.ofString " --help' for more information.\n")
  setStatus status
  throw .exit

def misuse (name text : Octets) (status : Nat := 1) : Run α := do
  say name text
  seeHelp name status

def inQuotes (text : Octets) : Octets := ['\''] ++ text ++ ['\'']

/-! ### Options -/

structure Known where
  /-- Letters, each with a colon after it if it has a value. -/
  letters : String
  long : List (String × Char) := []
  status : Nat := 1

def Known.takesValue (known : Known) (letter : Char) : Bool :=
  ((known.letters.toList.dropWhile (· != letter)).tail).head? == some ':'

structure Given where
  options : List (Char × Octets) := []
  operands : List Octets := []

def Given.has (given : Given) (letter : Char) : Bool := (given.options.lookup letter).isSome

def Given.value? (given : Given) (letter : Char) : Option Octets :=
  (given.options.reverse.lookup letter)

def Given.withOption (given : Given) (letter : Char) (value : Octets) : Given :=
  { given with options := (letter, value) :: given.options }

/-- The letter that a long name stands for; the beginning of one name is enough. -/
def Known.letter? (known : Known) (text : Octets) : Option Char :=
  match known.long.lookup (String.ofList text) with
  | some letter => some letter
  | none =>
      match known.long.filter fun entry => text.isPrefixOf entry.1.toList with
      | [entry] => some entry.2
      | _ => none

def given (name : Octets) (known : Known) : List Octets → Run Given
  | [] => return {}
  | word :: rest =>
      match word with
      | ['-', '-'] => return { operands := rest }
      | '-' :: '-' :: text =>
          let key := text.takeWhile (· != '=')
          match known.letter? key with
          | none =>
              misuse name (Octets.ofString "unrecognized option " ++ inQuotes word) known.status
          | some letter =>
              if !known.takesValue letter then do
                return (← given name known rest).withOption letter []
              else if key.length < text.length then do
                let value := text.drop (key.length + 1)
                return (← given name known rest).withOption letter value
              else match rest with
                | value :: rest => do return (← given name known rest).withOption letter value
                | [] =>
                    let text := Octets.ofString "option " ++ inQuotes word
                    misuse name (text ++ Octets.ofString " requires an argument") known.status
      | '-' :: first :: letters =>
          match lettersOf known.letters.toList (first :: letters) with
          | .error letter =>
              misuse name (Octets.ofString "invalid option -- " ++ inQuotes [letter]) known.status
          | .ok (found, none) => do
              let others ← given name known rest
              return { others with options := found ++ others.options }
          | .ok (found, some letter) =>
              match rest with
              | [] =>
                  misuse name (Octets.ofString "option requires an argument -- " ++
                    inQuotes [letter]) known.status
              | value :: rest => do
                  let others ← given name known rest
                  return { others with options := found ++ (letter, value) :: others.options }
      | word => do
          let others ← given name known rest
          return { others with operands := word :: others.operands }

/-! ### Files -/

def contentAt (path : Octets) : Run (Except Nat Octets) := do
  let shell ← get
  if path = ['-'] then
    match ← readable? 0 with
    | none => return .error Errno.badDescriptor
    | some text =>
        consume 0 text.length
        return .ok text
  else if let some reopened := shell.reopened? path then
    match reopened with
    | .error number => return .error number
    | .ok stream =>
        let content := (shell.world.readable? stream).getD []
        set { shell with world := shell.world.advance stream content.length }
        return .ok content
  else return (shell.world.tree.read shell.directory (Octets.toBytes path)).map Octets.ofBytes

def content? (name path : Octets) : Run (Option Octets) := do
  match ← contentAt path with
  | .ok content => return some content
  | .error number =>
      say name (path ++ Octets.ofString (": " ++ Errno.description number))
      setStatus 1
      return none

def sources (operands : List Octets) : List Octets :=
  if operands.isEmpty then [['-']] else operands

def allContents (name : Octets) (operands : List Octets) : Run Octets := do
  let contents ← (sources operands).mapM (content? name)
  return (contents.map (·.getD [])).flatten

def endedLines (text : Octets) : List Octets :=
  text.foldr
    (fun octet lines =>
      match lines with
      | line :: others => if octet = '\n' then ['\n'] :: lines else (octet :: line) :: others
      | [] => [[octet]])
    []

def column (width value : Nat) : Octets :=
  let digits := (toString value).toList
  List.replicate (width - digits.length) ' ' ++ digits

end Utility

end Superserver.Shell
