import Superserver.Host.FileTree
import Superserver.Shell.Octets

/-!
What a shell and all that it starts share: the connection with the client, the error stream, files,
and pipes. A pipe holds all that is written into it until somebody reads it, for commands that are
joined by one are run one after another.
-/

namespace Superserver.Shell

inductive Stream where
  | connection
  | diagnostics
  | nowhere
  | pipe (number : Nat)
  | file (number : Nat)
deriving DecidableEq

structure OpenedFile where
  path : Path
  position : Nat := 0
  appends : Bool := false
  readable : Bool := false
  writable : Bool := false

structure World where
  tree : FileTree := {}
  input : Octets := []
  /-- What goes to the client, backwards. -/
  output : Octets := []
  diagnostics : Octets := []
  pipes : List (Nat × Octets) := []
  files : List (Nat × OpenedFile) := []
  nextNumber : Nat := 0
  nextPid : Nat := 0
  signals : List (Nat × Nat) := []

namespace World

def content (world : World) (file : OpenedFile) : Octets :=
  match world.tree.node? file.path with
  | some (.file content) => Octets.ofBytes content
  | _ => []

def setFile (world : World) (number : Nat) (file : OpenedFile) : World :=
  { world with
    files := (number, file) :: world.files.filter fun entry => entry.1 != number }

def setPipe (world : World) (number : Nat) (held : Octets) : World :=
  { world with
    pipes := (number, held) :: world.pipes.filter fun entry => entry.1 != number }

def newPipe (world : World) (held : Octets) : Nat × World :=
  (world.nextNumber,
    { world with
      pipes := (world.nextNumber, held) :: world.pipes
      nextNumber := world.nextNumber + 1 })

def written (content : Octets) (position : Nat) (text : Octets) : Octets :=
  let filled := content ++ List.replicate (position - content.length) '\x00'
  filled.take position ++ text ++ filled.drop (position + text.length)

def write (world : World) (stream : Stream) (text : Octets) : Bool × World :=
  match stream with
  | .connection => (true, { world with output := text.reverse ++ world.output })
  | .diagnostics => (true, { world with diagnostics := text.reverse ++ world.diagnostics })
  | .nowhere => (true, world)
  | .pipe number =>
      match world.pipes.lookup number with
      | some held => (true, world.setPipe number (held ++ text))
      | none => (false, world)
  | .file number =>
      match world.files.lookup number with
      | none => (false, world)
      | some file =>
          if !file.writable then (false, world)
          else
            let content := world.content file
            let position := if file.appends then content.length else file.position
            let bytes := Octets.toBytes (written content position text)
            let world := { world with tree := world.tree.put file.path (.file bytes) }
            (true, world.setFile number { file with position := position + text.length })

def readable? (world : World) : Stream → Option Octets
  | .connection => some world.input
  | .diagnostics => none
  | .nowhere => some []
  | .pipe number => world.pipes.lookup number
  | .file number => do
      let file ← world.files.lookup number
      if file.readable then return (world.content file).drop file.position else none

def advance (world : World) (stream : Stream) (count : Nat) : World :=
  match stream with
  | .connection => { world with input := world.input.drop count }
  | .diagnostics | .nowhere => world
  | .pipe number => world.setPipe number (((world.pipes.lookup number).getD []).drop count)
  | .file number =>
      match world.files.lookup number with
      | none => world
      | some file => world.setFile number { file with position := file.position + count }

end World

end Superserver.Shell
