import Superserver.Log.Record
import Superserver.Text.Alphanumeric
import Superserver.Text.Integer
import Superserver.Text.Split
import Superserver.Text.Utf8

/-!
Which records a log shows. A directive sets how much of some records is let through: of those whose
target begins with its own and that have the fields it names. Of the directives that speak of a
record, the one with the longest target decides, among those the one with the most fields, and
among those the last one in the order of dictionaries.
-/

namespace Superserver

inductive DirectiveError where
  | malformed
  | unknownLevel
deriving DecidableEq

def DirectiveError.message : DirectiveError → String
  | .malformed => "invalid filter directive"
  | .unknownLevel =>
      "error parsing level filter: expected one of \"off\", \"error\", \"warn\", \"info\", " ++
        "\"debug\", \"trace\", or a number 0-5"

structure Directive where
  target : Option String
  fields : List String := []
  /-- Whether it speaks only of what happens within a named stretch of work. -/
  bounded : Bool := false
  threshold : Nat
deriving DecidableEq

namespace Directive

def allShown : Nat := Level.trace.verbosity

def levelNames : List (String × Nat) :=
  [("off", 0), ("error", Level.error.verbosity), ("warn", Level.warn.verbosity),
    ("info", Level.info.verbosity), ("debug", Level.debug.verbosity),
    ("trace", Level.trace.verbosity)]

def threshold? (text : List Char) : Option Nat :=
  match Text.readUnsigned allShown text with
  | .ok number => some number
  | .error _ => levelNames.lookup (String.ofList (text.map Char.toLower))

def levelPart (text : String) : Except DirectiveError Nat :=
  if text.isEmpty then .ok allShown
  else match threshold? text.toList with
    | some threshold => .ok threshold
    | none => .error .unknownLevel

def withField (directive : Directive) (text : String) : Except DirectiveError Directive :=
  if text.isEmpty then .error .malformed
  else
    let name := String.ofList (text.toList.takeWhile (· != '='))
    .ok { directive with
      fields := directive.fields ++ [name]
      bounded := directive.bounded || text.toList.contains '=' }

inductive Reader where
  | start
  | name (first : Nat)
  | stretch (first : Nat)
  | field (first : Nat)
  | closedField
  | closedBracket
  | level (first : Nat)

def startsName (character : Char) : Bool :=
  Text.isAlphanumeric character || ['-', ':', '_'].contains character

/-- Takes the character at a position; `cut` gives the text between two positions. -/
def Reader.next (cut : Nat → Nat → String) (position : Nat) (character : Char) :
    Reader × Directive → Except DirectiveError (Reader × Directive)
  | (.start, directive) =>
      if character = '[' then .ok (.stretch (position + 1), directive)
      else if startsName character then .ok (.name position, directive)
      else .error .malformed
  | (.name first, directive) =>
      let named := { directive with target := some (cut first position) }
      if character = '=' then .ok (.level (position + 1), named)
      else if character = '[' then .ok (.stretch (position + 1), named)
      else .ok (.name first, directive)
  | (.stretch first, directive) =>
      if character = ']' then .ok (.closedBracket, { directive with bounded := true })
      else if character = '\x7b' then
        .ok (.field (position + 1), { directive with bounded := !(cut first position).isEmpty })
      else .ok (.stretch first, directive)
  | (.field first, directive) =>
      if character = '\x7d' then do
        return (.closedField, ← directive.withField (cut first position))
      else .ok (.field first, directive)
  | (.closedField, directive) =>
      if character = ']' then .ok (.closedBracket, directive) else .error .malformed
  | (.closedBracket, directive) =>
      if character = '=' then .ok (.level (position + 1), directive) else .error .malformed
  | (.level first, directive) => .ok (.level first, directive)

def Reader.finish (cut : Nat → Nat → String) (size : Nat) (position : Nat)
    (read : Reader × Directive) : List Char → Except DirectiveError Directive
  | character :: rest => do
      let read ← Reader.next cut position character read
      Reader.finish cut size (position + character.utf8Size) read rest
  | [] =>
      match read with
      | (.name first, directive) =>
          let text := cut first size
          match threshold? text.toList with
          | some threshold => .ok { directive with threshold }
          | none => .ok { directive with target := some text }
      | (.level first, directive) => do
          return { directive with threshold := ← levelPart (cut first size) }
      | (.closedBracket, directive) => .ok directive
      | _ => .error .malformed

/-- A directive: a level, a target, or a target with a level, and perhaps brackets before it. The
marks between its parts are counted without the blanks around it, but the parts are cut from the
text as it stands, so that a blank in front moves all of them. -/
def parse (text : String) : Except DirectiveError Directive :=
  let bytes := bytesOf text
  let cut (first last : Nat) : String := Utf8.decodeLossy ((bytes.take last).drop first)
  let inner := ((text.toList.dropWhile Text.isBlank).reverse.dropWhile Text.isBlank).reverse
  Reader.finish cut bytes.length 0 (.start, { target := none, threshold := allShown }) inner

def ofTarget (target : String) (level : Level) : Directive :=
  { target := some target, threshold := level.verbosity }

/-- Whether the directive speaks of a record; its message counts as a field. -/
def covers (directive : Directive) (record : Record) : Bool :=
  !directive.bounded &&
    (directive.target.map fun target => target.toList.isPrefixOf record.target.toList).getD true &&
    directive.fields.all fun name =>
      name == "message" || record.fields.any fun field => field.name == name

def replaces (later earlier : Directive) : Bool :=
  later.target == earlier.target && later.fields == earlier.fields &&
    later.bounded == earlier.bounded

/-- The codes of a text, so that of two lists of texts the shorter one comes first. -/
def codes (text : String) : List Nat := text.toList.map (·.toNat + 1) ++ [0]

def rank (directive : Directive) : List Nat :=
  let size := (directive.target.map fun target => target.utf8ByteSize + 1).getD 0
  [size, directive.fields.length] ++ codes (directive.target.getD "") ++
    directive.fields.flatMap codes

def comesBefore : List Nat → List Nat → Bool
  | _, [] => false
  | [], _ :: _ => true
  | first :: rest, other :: others =>
      first < other || first == other && comesBefore rest others

def outranks (one other : Directive) : Bool := comesBefore other.rank one.rank

end Directive

structure LogFilter where
  directives : List Directive := []

namespace LogFilter

def add (filter : LogFilter) (directive : Directive) : LogFilter :=
  ⟨directive :: filter.directives.filter fun earlier => !directive.replaces earlier⟩

def decisive? (filter : LogFilter) (record : Record) : Option Directive :=
  (filter.directives.filter fun directive => directive.covers record).foldl
    (fun best directive =>
      match best with
      | some best => if directive.outranks best then some directive else some best
      | none => some directive)
    none

def shows (filter : LogFilter) (record : Record) : Bool :=
  match filter.decisive? record with
  | some directive => record.level.verbosity ≤ directive.threshold
  | none => false

def ofText (text : String) : LogFilter × List (String × DirectiveError) :=
  let pieces := ((Text.pieces (· == ',') text.toList).filter (!·.isEmpty)).map String.ofList
  pieces.foldl
    (fun (filter, refused) piece =>
      match Directive.parse piece with
      | .ok directive => (filter.add directive, refused)
      | .error error => (filter, refused ++ [(piece, error)]))
    ({}, [])

end LogFilter

end Superserver
