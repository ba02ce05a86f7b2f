import Superserver.Shell.Builtin.Arguments

/-!
The working directory, and what new files and descriptors are bound by.
-/

namespace Superserver.Shell

def namedFrom (place path : Octets) : Octets :=
  let start := if path.head? = some '/' then [] else place
  let names := (Octets.split '/' (start ++ '/' :: path)).filter fun name =>
    !name.isEmpty && name != ['.']
  let kept := names.foldl
    (fun kept name => if name = ['.', '.'] then kept.tail else name :: kept) []
  if kept.isEmpty then ['/'] else kept.reverse.flatMap fun name => '/' :: name

def enter (physically : Bool) (path : Octets) : Run Bool := do
  let shell ← get
  let named := namedFrom shell.place path
  let target := if physically then path else named
  match shell.world.tree.directory shell.directory (Octets.toBytes target) with
  | .error _ => return false
  | .ok directory =>
      let place :=
        if physically then Octets.ofBytes (FileTree.spell directory) else named
      set { shell with directory, place }
      putSlot "OLDPWD" { (← get).slot "OLDPWD" with value := some shell.place, exported := true }
      putSlot "PWD" { (← get).slot "PWD" with value := some place, exported := true }
      return true

def changeDirectory (arguments : List Octets) : Run Unit := do
  let (options, arguments) ← optionsOf "LP" arguments
  let physically := (options.getLast?.map (·.1)) == some 'P'
  let shell ← get
  let target := match arguments with
    | [] => (shell.lookup? "HOME").getD []
    | ['-'] :: _ => (shell.lookup? "OLDPWD").getD []
    | path :: _ => path
  let target := if target.isEmpty then ['.'] else target
  if !(← enter physically target) then fail (Octets.ofString "can't cd to " ++ target)
  if arguments.head? = some ['-'] then printLine (← get).place

def showDirectory (arguments : List Octets) : Run Unit := do
  let (options, _) ← optionsOf "LP" arguments
  let shell ← get
  let physical := Octets.ofBytes (FileTree.spell shell.directory)
  printLine (if (options.getLast?.map (·.1)) == some 'P' then physical else shell.place)

/-! ### Bounds -/

def maskText (mask : Nat) : Octets :=
  let part (name : Char) (shift : Nat) : Octets :=
    let bits := mask / shift % 8
    let letter (weight : Nat) (letter : Char) : Octets :=
      if bits / weight % 2 = 0 then [letter] else []
    name :: '=' :: letter 4 'r' ++ letter 2 'w' ++ letter 1 'x'
  part 'u' 64 ++ ',' :: part 'g' 8 ++ ',' :: part 'o' 1

def fileMask (arguments : List Octets) : Run Unit := do
  let (options, arguments) ← optionsOf "S" arguments
  match arguments with
  | [] =>
      let mask := (← get).mask
      let digits := Nat.toDigits 8 mask
      let octal := List.replicate (4 - digits.length) '0' ++ digits
      printLine (if options.isEmpty then octal else maskText mask)
  | text :: _ =>
      if text.all fun octet => '0' ≤ octet && octet ≤ '7' then
        let value := text.foldl (fun value octet => value * 8 + Text.digitValue octet) 0
        modify fun shell => { shell with mask := value % 512 }
      else if (text.head?.map Text.isDigit).getD true then illegalNumber text
      else fail (Octets.ofString "Illegal mode: " ++ text)

def limit (arguments : List Octets) : Run Unit := do
  let (options, arguments) ← optionsOf "HSatfdsmcnpvlewr" arguments
  let kind := ((options.map (·.1)).filter fun letter => letter != 'H' && letter != 'S').getLast?
  match arguments with
  | [] =>
      let limit := (← get).descriptorLimit
      printLine (if kind == some 'n' then (toString limit).toList
        else if kind == some 'c' then ['0'] else "unlimited".toList)
  | [text] =>
      match Octets.number? text with
      | some value =>
          if kind == some 'n' then modify fun shell => { shell with descriptorLimit := value }
      | none => if text != "unlimited".toList then failWith "bad number"
  | _ => failWith "too many arguments"

end Superserver.Shell
