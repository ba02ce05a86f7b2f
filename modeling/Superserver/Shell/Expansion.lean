import Superserver.Shell.Arithmetic
import Superserver.Shell.Pattern
import Superserver.Shell.State

/-!
What words stand for: parameters, the output of commands and sums are put in, and what was put in
outside of quotations is cut into fields and taken for patterns of paths.
-/

namespace Superserver.Shell

inductive Piece where
  | octet (marked : Marked) (cuttable : Bool)
  | quotation
  /-- Here begins something that was put in; `whole` if it is a list of fields already. -/
  | region (whole : Bool)
  | boundary

namespace Piece

def ofOctets (quoted cuttable : Bool) (octets : Octets) : List Piece :=
  octets.map fun octet => .octet ⟨octet, quoted⟩ cuttable

def marked? : Piece → Option Marked
  | .octet marked _ => some marked
  | _ => none

end Piece

/-! ### Fields -/

def defaultSeparators : Octets := [' ', '\t', '\n']

structure Cutting where
  separators : Octets
  fields : List (List Marked) := []
  current : List Marked := []
  begun : Bool := false
  whole : Bool := false
  afterWhole : Bool := false
  /-- After a separator, more white space is passed over, and one separator that is none if the
  flag says so. -/
  passing : Option Bool := none

namespace Cutting

def close (cutting : Cutting) : Cutting :=
  { cutting with
    fields := cutting.current.reverse :: cutting.fields, current := [], begun := false }

def separate (cutting : Cutting) (blank : Bool) : Cutting :=
  if cutting.whole then cutting.close
  else
    let blanks := blank && !cutting.afterWhole
    let fresh : Cutting :=
      if !cutting.begun && blanks then { cutting with passing := none }
      else { cutting.close with passing := some blanks }
    match cutting.passing with
    | none => fresh
    | some another =>
        if blank then cutting
        else if another then { cutting with passing := some false }
        else fresh

def step (cutting : Cutting) : Piece → Cutting
  | .region whole => { cutting with whole, afterWhole := cutting.whole, passing := none }
  | .quotation => { cutting with begun := true, passing := none }
  | .boundary => cutting.separate true
  | .octet marked cuttable =>
      if cuttable && !cutting.whole && cutting.separators.contains marked.octet then
        cutting.separate (defaultSeparators.contains marked.octet)
      else
        { cutting with current := marked :: cutting.current, begun := true, passing := none }

end Cutting

def fieldsOf (separators : Octets) (pieces : List Piece) : List (List Marked) :=
  let cutting := pieces.foldl Cutting.step { separators }
  (if cutting.begun || cutting.whole then cutting.close else cutting).fields.reverse

/-! ### Parameters -/

def optionLetters : List Char := ['u', 'b', 'a', 'C', 'v', 'x', 'n', 'm', 'f', 'e']

def parameter? (shell : Shell) (name : String) : Option Octets :=
  let number (value : Nat) : Option Octets := some (toString value).toList
  match name with
  | "$" => number shell.pid
  | "?" => number shell.status
  | "#" => number shell.positional.length
  | "!" => shell.jobs.head?.bind fun job => number job.pid
  | "-" => some (optionLetters.filter shell.isSet)
  | "0" => some shell.name
  | name =>
      match Octets.number? name.toList with
      | some index => if index = 0 then none else shell.positional[index - 1]?
      | none => shell.lookup? name

def isList (name : String) : Bool := name == "@" || name == "*"

def separators (shell : Shell) : Octets := (shell.lookup? "IFS").getD defaultSeparators

def joint (shell : Shell) : Octets :=
  match shell.lookup? "IFS" with
  | none => [' ']
  | some marks => marks.take 1

def joined (shell : Shell) : Octets := (shell.joint).intercalate shell.positional

/-! ### Words -/

structure Purpose where
  fields : Bool := false
  cuttable : Bool := false
  assignment : Bool := false

def valuePieces (purpose : Purpose) (quoted : Bool) (value : Octets) : List Piece :=
  if quoted then Piece.ofOctets true false value
  else .region false :: Piece.ofOctets false purpose.fields value

def listPieces (shell : Shell) (purpose : Purpose) (quoted : Bool) (name : String) : List Piece :=
  let each (between : List Piece) : List Piece :=
    between.intercalate (shell.positional.map (Piece.ofOctets quoted (purpose.fields && !quoted)))
  if purpose.fields && quoted && name == "@" then
    if shell.positional.isEmpty then [] else .region true :: each [.boundary]
  else if purpose.fields && !quoted then
    let between :=
      if (shell.lookup? "IFS").isSome then Piece.boundary else .octet ⟨' ', false⟩ true
    .region false :: each [between]
  else valuePieces purpose quoted shell.joined

def home? (shell : Shell) (user : Octets) : Option Octets :=
  match String.ofList user with
  | "" => shell.lookup? "HOME"
  | "root" => some "/root".toList
  | _ => none

def tildes (shell : Shell) (purpose : Purpose) (last : Bool) (octets : Octets) : List Piece :=
  let parts := if purpose.assignment then Octets.split ':' octets else [octets]
  let count := parts.length
  let plain (octets : Octets) : List Piece := Piece.ofOctets false purpose.cuttable octets
  let one (index : Nat) (part : Octets) : List Piece :=
    match part with
    | '~' :: rest =>
        let user := rest.takeWhile (· != '/')
        let ends := last || user.length < rest.length || index + 1 < count
        match if ends then shell.home? user else none with
        | some home => Piece.ofOctets true false home ++ plain (rest.drop user.length)
        | none => plain part
    | part => plain part
  [Piece.octet ⟨':', false⟩ purpose.cuttable].intercalate
    (parts.zipIdx.map fun (part, index) => one index part)

def unsetParameter (name : String) (orEmpty : Bool) (message : Octets) : Run α := do
  let default := "parameter not set" ++ if orEmpty then " or null" else ""
  let message := if message.isEmpty then Octets.ofString default else message
  fail (name.toList ++ [':', ' '] ++ message)

def counts (orEmpty : Bool) : Option Octets → Bool
  | none => false
  | some value => !(orEmpty && value.isEmpty)

def textPieces (shell : Shell) (purpose : Purpose) (first last : Bool) (octets : Octets) :
    List Piece :=
  let text :=
    if first then shell.tildes purpose last octets
    else match purpose.assignment, Octets.split ':' octets with
      | true, part :: _ =>
          Piece.ofOctets false purpose.cuttable (octets.take (part.length + 1)) ++
            shell.tildes purpose last (octets.drop (part.length + 1))
      | _, _ => Piece.ofOctets false purpose.cuttable octets
  if purpose.cuttable then .region false :: text else text

mutual

def pieces (substitute : Command → Run Octets) :
    (fuel : Nat) → Purpose → (first : Bool) → Word → Run (List Piece)
  | 0, _, _, _ => throw .exit
  | _, _, _, [] => return []
  | fuel + 1, purpose, first, fragment :: rest => do
      let own ← match fragment with
        | .text true octets =>
            let bare := octets.isEmpty && match rest with
              | [.parameter true "@" .value] => true
              | .parameter true "@" .value :: .text _ _ :: _ => true
              | .parameter true "@" .value :: .parameter false _ _ :: _ => true
              | _ => false
            pure ((if bare then [] else [Piece.quotation]) ++ Piece.ofOctets true false octets)
        | .text false octets =>
            pure ((← get).textPieces purpose first rest.isEmpty octets)
        | .parameter quoted name use => used substitute fuel purpose quoted name use
        | .output quoted command =>
            let output ← substitute command
            let kept := Octets.trimNewlines (output.filter (· != '\x00'))
            pure (valuePieces purpose quoted kept)
        | .sum quoted expression =>
            let text := (← pieces substitute fuel {} false expression).filterMap Piece.marked?
            let shell ← get
            match Arithmetic.evaluate shell.lookup? (text.map (·.octet)) with
            | .error message => fail message
            | .ok (value, given) =>
                for (name, value) in given do
                  assign name (toString value).toList
                pure (valuePieces purpose quoted (toString value).toList)
      return own ++ (← pieces substitute fuel purpose false rest)
termination_by structural fuel => fuel

def used (substitute : Command → Run Octets) :
    (fuel : Nat) → Purpose → (quoted : Bool) → String → ParameterUse → Run (List Piece)
  | 0, _, _, _, _ => throw .exit
  | fuel + 1, purpose, quoted, name, use => do
      let shell ← get
      let value : Option Octets :=
        if isList name then some shell.joined else shell.parameter? name
      let demanded : Run Octets :=
        match value with
        | some value => return value
        | none => if shell.isSet 'u' then unsetParameter name false [] else return []
      let inserted (value : Octets) : List Piece :=
        if isList name then shell.listPieces purpose quoted name
        else valuePieces purpose quoted value
      let inner := { purpose with cuttable := purpose.fields, assignment := false }
      match use with
      | .malformed => failWith "Bad substitution"
      | .value => return inserted (← demanded)
      | .size => return valuePieces purpose quoted (toString (← demanded).length).toList
      | .otherwise orEmpty word =>
          match value, counts orEmpty value with
          | some value, true => return inserted value
          | _, _ => pieces substitute fuel inner true word
      | .instead orEmpty word =>
          if counts orEmpty value then pieces substitute fuel inner true word else return []
      | .assign orEmpty word =>
          match value, counts orEmpty value with
          | some value, true => return inserted value
          | _, _ =>
              let text := (← pieces substitute fuel {} true word).filterMap Piece.marked?
              let text := text.map (·.octet)
              if !Octets.isName name.toList then
                fail (name.toList ++ Octets.ofString ": bad variable name")
              assign name text
              return valuePieces purpose quoted text
      | .demand orEmpty word =>
          match value, counts orEmpty value with
          | some value, true => return inserted value
          | _, _ =>
              let text := (← pieces substitute fuel {} true word).filterMap Piece.marked?
              unsetParameter name orEmpty (text.map (·.octet))
      | .trim atEnd longest pattern =>
          let value ← demanded
          let text := (← pieces substitute fuel {} true pattern).filterMap Piece.marked?
          let kept := Pattern.trim (Pattern.ofMarked text) atEnd longest value
          return valuePieces purpose quoted kept
termination_by structural fuel => fuel

end

def markedText (substitute : Command → Run Octets) (fuel : Nat) (word : Word)
    (assignment : Bool := false) : Run (List Marked) := do
  return (← pieces substitute fuel { assignment } true word).filterMap Piece.marked?

def plainText (substitute : Command → Run Octets) (fuel : Nat) (word : Word)
    (assignment : Bool := false) : Run Octets := do
  return (← markedText substitute fuel word assignment).map (·.octet)

def fields (substitute : Command → Run Octets) (fuel : Nat) (word : Word) : Run (List Octets) := do
  let pieces ← pieces substitute fuel { fields := true } true word
  let shell ← get
  let tree := shell.world.tree
  return (fieldsOf shell.separators pieces).flatMap fun field =>
    let plain := field.map (·.octet)
    if shell.isSet 'f' || !Pattern.isMagic field then [plain]
    else match Pattern.paths tree shell.directory field with
      | [] => [plain]
      | paths => paths

end Superserver.Shell
