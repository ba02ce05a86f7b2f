import Superserver.Text.Utf8

/-!
Commands to a terminal in a text, most of which an escape character begins, and what is left of the
text without them. White space may stand within a command, and what follows it is shown as if the
command were over; it is taken up again at the next character that is not shown.
-/

namespace Superserver.Text

inductive CommandState where
  | text
  | escape
  | markedEscape
  | sequence
  | device
  | numberedDevice
  | markedDevice
  | string
  | title
deriving DecidableEq

namespace CommandState

def escapeByte : UInt8 := 0x1B

/-- What the next byte is part of. A cancelling byte ends, and an escape character begins a
command wherever it stands. -/
def next (state : CommandState) (byte : UInt8) : CommandState :=
  if byte = 0x18 || byte = 0x1A then .text
  else if byte = escapeByte then .escape
  else match state with
    | .text => .text
    | .escape =>
        if byte < 0x20 || 0x7E < byte then .escape
        else if byte < 0x30 then .markedEscape
        else if byte = 0x5B then .sequence
        else if byte = 0x5D then .title
        else if byte = 0x50 then .device
        else if byte = 0x58 || byte = 0x5E || byte = 0x5F then .string
        else .text
    | .markedEscape => if 0x30 ≤ byte && byte ≤ 0x7E then .text else .markedEscape
    | .sequence => if 0x40 ≤ byte && byte ≤ 0x7E then .text else .sequence
    | .device =>
        if byte < 0x20 || 0x7E < byte then .device
        else if byte < 0x30 then .markedDevice
        else if byte < 0x40 then .numberedDevice
        else .string
    | .numberedDevice =>
        if byte < 0x20 || 0x7E < byte then .numberedDevice
        else if byte < 0x30 then .markedDevice
        else if byte < 0x3C then .numberedDevice
        else .string
    | .markedDevice => if 0x30 ≤ byte && byte ≤ 0x7E then .string else .markedDevice
    | .string => if byte = 0x9C then .text else .string
    | .title => if byte = 0x07 then .text else .title

def isWhite (byte : UInt8) : Bool := byte = 9 || byte = 10 || byte = 12 || byte = 13

def shows (state : CommandState) (byte : UInt8) : Bool :=
  match state with
  | .text => isWhite byte || (0x20 ≤ byte && byte < 0x7F) || (0xC2 ≤ byte && byte ≤ 0xF4)
  | .escape | .markedEscape | .sequence => isWhite byte
  | _ => false

def following (byte : UInt8) : Nat :=
  if byte < 0xC2 then 0 else if byte < 0xE0 then 1 else if byte < 0xF0 then 2 else 3

end CommandState

/-- The bytes that are shown. While bytes are being shown the state stands still, and the next
`owed` bytes belong to the character before them. -/
def shownBytes (state : CommandState) (showing : Bool) (owed : Nat) : Bytes → Bytes
  | [] => []
  | byte :: rest =>
      if 0 < owed then byte :: shownBytes .text true (owed - 1) rest
      else if (if showing then .text else state).shows byte then
        let count := CommandState.following byte
        byte :: shownBytes (if 0 < count then .text else state) true count rest
      else shownBytes (state.next byte) false 0 rest

def withoutCommands (text : String) : String :=
  Utf8.decodeLossy (shownBytes .text false 0 (bytesOf text))

end Superserver.Text
