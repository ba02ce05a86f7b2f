import Superserver.Log.Record
import Superserver.Text.Printable

/-!
Records as lines of a log. The message stands as it is, except that characters by which a terminal
could be told to do something are spelled out.
-/

namespace Superserver

inductive LogStyle where
  | plain
  | verbose
deriving DecidableEq

namespace LogStyle

/-- Characters that begin commands to a terminal, and how they are spelled. -/
def tamed (character : Char) : List Char :=
  match character with
  | '\x1b' => ['\\', 'x', '1', 'b']
  | '\x07' => ['\\', 'x', '0', '7']
  | '\x08' => ['\\', 'x', '0', '8']
  | '\x0c' => ['\\', 'x', '0', 'c']
  | '\x7f' => ['\\', 'x', '7', 'f']
  | _ =>
      if 0x80 ≤ character.toNat && character.toNat ≤ 0x9F then Text.codeEscape character
      else [character]

def fieldText (field : Field) : String :=
  let value := if field.quoted then Text.quoted field.value else field.value
  s!" {field.name}={value}"

def levelColumn (level : Level) : String :=
  String.ofList (List.replicate (5 - level.name.length) ' ') ++ level.name

def line (style : LogStyle) (record : Record) : String :=
  let lead := match style with
    | .plain => ""
    | .verbose => s!"{levelColumn record.level} {record.target}: "
  let message := String.ofList (record.message.toList.flatMap tamed)
  lead ++ message ++ String.join (record.fields.map fieldText) ++ "\n"

end LogStyle

end Superserver
