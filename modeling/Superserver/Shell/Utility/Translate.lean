import Superserver.Shell.Escape
import Superserver.Shell.Pattern
import Superserver.Shell.Utility.Basic

/-!
Translating, deleting and squeezing characters.
-/

namespace Superserver.Shell.Utility

inductive SetPart where
  | octets (octets : Octets)
  | named (name : String)
  /-- A character over and over, as often as the set needs it if no number is given. -/
  | repeated (octet : Char) (count : Nat)

def setOctet? (text : Octets) : Option (Char × Octets) :=
  match text with
  | [] => none
  | '\\' :: [] => some ('\\', [])
  | '\\' :: octet :: rest =>
      if octet = 'e' then some ('e', rest)
      else
        let (control, after) := Octets.escape (octet :: rest)
        if control = '\\' && octet != '\\' && (Octets.octalDigit? octet).isNone then
          some (octet, rest)
        else some (control, after)
  | octet :: rest => some (octet, rest)

def repetition? (digits : Octets) : Option Nat :=
  if digits.isEmpty then some 0
  else if !digits.all Text.isDigit then none
  else if digits.head? = some '0' then
    some (digits.foldl (fun value digit => value * 8 + Text.digitValue digit) 0)
  else some (Text.digitsValue digits)

def setParts : (count : Nat) → Octets → Except Octets (List SetPart)
  | 0, _ | _, [] => .ok []
  | count + 1, text => do
      if let '[' :: ':' :: rest := text then
        let name := rest.takeWhile Char.isAlpha
        if let ':' :: ']' :: after := rest.drop name.length then
          if !Octets.classNames.contains (String.ofList name) then
            .error (Octets.ofString "invalid character class " ++ inQuotes name)
          return .named (String.ofList name) :: (← setParts count after)
      if let '[' :: '=' :: octet :: '=' :: ']' :: after := text then
        return .octets [octet] :: (← setParts count after)
      if let '[' :: rest := text then
        if let some (octet, '*' :: rest) := setOctet? rest then
          let digits := rest.takeWhile Text.isDigit
          if let ']' :: after := rest.drop digits.length then
            if let some times := repetition? digits then
              return .repeated octet times :: (← setParts count after)
      match setOctet? text with
      | none => return []
      | some (first, rest) =>
          match rest with
          | '-' :: more@(_ :: _) =>
              match setOctet? more with
              | none => return .octets [first] :: (← setParts count rest)
              | some (last, after) =>
                  if last < first then
                    .error (Octets.ofString "range-endpoints of " ++
                      inQuotes [first, '-', last] ++
                      Octets.ofString " are in reverse collating sequence order")
                  else
                    let octets := (List.range (last.toNat + 1 - first.toNat)).map fun offset =>
                      Char.ofNat (first.toNat + offset)
                    return .octets octets :: (← setParts count after)
          | rest => return .octets [first] :: (← setParts count rest)

def everyOctet : Octets := (List.range 256).map Char.ofNat

def SetPart.members : SetPart → Octets
  | .octets given => given
  | .named name => everyOctet.filter (Octets.isOfClass name)
  | .repeated octet count => List.replicate count octet

/-- The characters of a set that should have `size` of them if it can. -/
def membersOf (size : Nat) (parts : List SetPart) : Octets :=
  let fixed := (parts.flatMap SetPart.members).length
  parts.flatMap fun part =>
    match part with
    | .repeated octet 0 => List.replicate (size - fixed) octet
    | part => part.members

def squeeze (set : Octets) (text : Octets) : Octets :=
  (text.foldl
    (fun done octet =>
      if done.head? == some octet && set.contains octet then done else octet :: done)
    []).reverse

/-- Each character of one set becomes the one at its place in the other, whose last character goes
on; of two places the later one counts. -/
def translate (source replacement : Octets) (octet : Char) : Char :=
  match source.reverse.idxOf? octet with
  | none => octet
  | some place => (replacement[source.length - 1 - place]?.or replacement.getLast?).getD octet

def setsOf (name : Octets) (text : Octets) : Run (List SetPart) := do
  match setParts text.length text with
  | .ok parts => return parts
  | .error fault => refuse name fault

def tr : Utility := fun name arguments => do
  let known : Known :=
    { letters := "cCdst"
      long := [("complement", 'c'), ("delete", 'd'), ("squeeze-repeats", 's'),
        ("truncate-set1", 't')] }
  let given ← given name known arguments
  let deleting := given.has 'd'
  let squeezing := given.has 's'
  let wanted := if deleting = squeezing then 2 else 1
  let missing := match given.operands with
    | [] => true
    | _ => false
  if missing then misuse name (Octets.ofString "missing operand")
  let first := given.operands.headD []
  let second := given.operands[1]?
  if wanted = 2 && second.isNone then
    let reason :=
      if deleting then "Two strings must be given when both deleting and squeezing repeats."
      else "Two strings must be given when translating."
    say name (Octets.ofString "missing operand after " ++ inQuotes first)
    let _ ← write 2 (Octets.ofString (reason ++ "\nTry '") ++ name ++
      Octets.ofString " --help' for more information.\n")
    setStatus 1
    throw .exit
  let allowed := if deleting && !squeezing then 1 else 2
  if let some extra := given.operands[allowed]? then
    say name (Octets.ofString "extra operand " ++ inQuotes extra)
    if allowed = 1 then
      let _ ← write 2 (Octets.ofString
        "Only one string may be given when deleting without squeezing repeats.\n")
    let _ ← write 2 (Octets.ofString "Try '" ++ name ++
      Octets.ofString " --help' for more information.\n")
    setStatus 1
    throw .exit
  let complement (set : Octets) : Octets :=
    if given.has 'c' || given.has 'C' then everyOctet.filter fun octet => !set.contains octet
    else set
  let sourceParts ← setsOf name first
  let isRepeated : SetPart → Bool
    | .repeated .. => true
    | _ => false
  if sourceParts.any isRepeated then
    refuse name (Octets.ofString "the [c*] repeat construct may not appear in string1")
  let source := complement (membersOf 0 sourceParts)
  let other ← match second with
    | none => pure none
    | some text => do pure (some (← setsOf name text))
  let input ← readAll 0
  if deleting then
    let kept := input.filter fun octet => !source.contains octet
    put (match other with
      | some parts => squeeze (membersOf 0 parts) kept
      | none => kept)
  else match other with
    | none => put (squeeze source input)
    | some parts =>
        let replacement := membersOf source.length parts
        if replacement.isEmpty && !given.has 't' then
          refuse name (Octets.ofString "when not truncating set1, string2 must be non-empty")
        let source := if given.has 't' then source.take replacement.length else source
        let table := everyOctet.map (translate source replacement)
        let translated := input.map fun octet => (table[octet.toNat]?).getD octet
        put (if squeezing then squeeze replacement translated else translated)

end Superserver.Shell.Utility
