import Superserver.System.Error
import Superserver.Text.Utf8

/-!
Reassembly of lines from a stream that arrives in chunks. The search for the end of a line resumes
where the last one stopped. A line that outgrows the buffer is refused before any more is read.
-/

namespace Superserver

/-- A source of bytes: asked for at most `count` of them it gives some, or none at its end. -/
abbrev Reader (σ : Type) :=
  (count : Nat) → σ → Except SystemError { chunk : Bytes // chunk.length ≤ count } × σ

/-- A stretch of the stream that is reported as one line. -/
structure Piece where
  bytes : Bytes
  terminated : Bool
deriving DecidableEq

namespace Piece

def text (piece : Piece) : String := Utf8.decodeLossy piece.bytes

def newline : UInt8 := 10

def source (piece : Piece) : Bytes :=
  if piece.terminated then piece.bytes ++ [newline] else piece.bytes

end Piece

inductive ForwardError where
  | read (error : SystemError)
  | lineTooLong (limit : Nat)
  | outOfMemory (error : MemoryError)
deriving DecidableEq, Repr

namespace ForwardError

def message : ForwardError → String
  | .read error => error.message
  | .lineTooLong limit => s!"Diagnostic line exceeds {limit} bytes"
  | .outOfMemory error => s!"Cannot allocate memory for diagnostic line: {error}"

instance : ToString ForwardError := ⟨message⟩

end ForwardError

structure LineBuffer where
  bytes : Bytes := []
  /-- Leading bytes that are known to hold no newline. -/
  scanned : Nat := 0
deriving DecidableEq

namespace LineBuffer

def readChunk : Nat := 128

def maxLine : Nat := 65534

def length (buffer : LineBuffer) : Nat := buffer.bytes.length

def isEmpty (buffer : LineBuffer) : Bool := buffer.bytes.isEmpty

def isFull (buffer : LineBuffer) : Bool := maxLine - readChunk < buffer.length

def append (buffer : LineBuffer) (chunk : Bytes) : LineBuffer :=
  { buffer with bytes := buffer.bytes ++ chunk }

/-- Appends one chunk and gives its length, 0 at the end of the stream. A full buffer does not
ask the reader. The memory for a chunk that was read is taken to be had: no fill ends with
`ForwardError.outOfMemory`, which the reports of errors know all the same. -/
def fill (reader : Reader σ) (buffer : LineBuffer) (state : σ) :
    Except ForwardError Nat × LineBuffer × σ :=
  if buffer.isFull then (.error (.lineTooLong maxLine), buffer, state)
  else
    let (result, state) := reader readChunk state
    match result with
    | .error error => (.error (.read error), buffer, state)
    | .ok chunk => (.ok chunk.val.length, buffer.append chunk.val, state)

def unscanned (buffer : LineBuffer) : Bytes := buffer.bytes.drop buffer.scanned

def nextLine? (buffer : LineBuffer) : Option Bytes × LineBuffer :=
  match buffer.unscanned.dropWhile (· != Piece.newline) with
  | [] => (none, { buffer with scanned := buffer.bytes.length })
  | _ :: rest =>
      (some (buffer.bytes.take buffer.scanned ++
          buffer.unscanned.takeWhile (· != Piece.newline)),
        { bytes := rest, scanned := 0 })

theorem length_nextLine?_lt {buffer after : LineBuffer} {line : Bytes}
    (found : buffer.nextLine? = (some line, after)) : after.bytes.length < buffer.bytes.length := by
  unfold nextLine? at found
  split at found
  · simp at found
  · rename_i first rest split_eq
    have shorter : (buffer.unscanned.dropWhile (· != Piece.newline)).length ≤
        buffer.unscanned.length := (List.dropWhile_suffix _).length_le
    have part : buffer.unscanned.length ≤ buffer.bytes.length := by simp [unscanned]
    rw [split_eq, List.length_cons] at shorter
    simp only [Prod.mk.injEq] at found
    rw [← found.2]
    simp only
    omega

def lines (buffer : LineBuffer) : List Bytes × LineBuffer :=
  match _found : buffer.nextLine? with
  | (none, after) => ([], after)
  | (some line, after) =>
      let (others, last) := after.lines
      (line :: others, last)
termination_by buffer.bytes.length
decreasing_by exact length_nextLine?_lt ‹_›

def takeRemainder (buffer : LineBuffer) : Option Bytes × LineBuffer :=
  if buffer.bytes.isEmpty then (none, buffer) else (some buffer.bytes, {})

end LineBuffer

end Superserver
