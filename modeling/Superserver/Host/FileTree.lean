import Superserver.System.Error
import Superserver.Text.Utf8

/-!
A tree of files. Paths are looked up name by name, and symbolic links are followed on the way. New
entries may be made only in directories that are open for it.
-/

namespace Superserver

abbrev Path := List Bytes

inductive Node where
  | directory (writable : Bool)
  | file (content : Bytes)
  | link (target : Bytes)
  | socket (number : Nat)
  | nullDevice
deriving DecidableEq

structure FileTree where
  entries : List (Path × Node) := []

namespace FileTree

def slash : UInt8 := 47

def dot : Bytes := [46]

def dotDot : Bytes := [46, 46]

def nameMax : Nat := 255

def pathMax : Nat := 4096

def linkMax : Nat := 40

def splitNames : Bytes → List Bytes
  | [] => [[]]
  | byte :: rest =>
      if byte = slash then [] :: splitNames rest
      else match splitNames rest with
        | [] => [[byte]]
        | name :: names => (byte :: name) :: names

def isAbsolute (path : Bytes) : Bool := path.head? == some slash

def endsInSlash (path : Bytes) : Bool := path.getLast? == some slash

def names (path : Bytes) : List Bytes := (splitNames path).filter (!·.isEmpty)

/-- The names of a path that has to be a directory if a slash ends it. -/
def strictNames (path : Bytes) : List Bytes :=
  names path ++ if endsInSlash path then [dot] else []

/-- An entry of the tree; the root is a directory that takes no new entries. -/
def node? (tree : FileTree) (path : Path) : Option Node :=
  if path.isEmpty then some (.directory false) else tree.entries.lookup path

def spell (path : Path) : Bytes :=
  if path.isEmpty then [slash] else path.flatMap fun name => slash :: name

/-- Where names lead from the directory `here`. Only the last name may be missing. A link at the end
is followed only if `follow` says so; from a link on the way it is for `jump` to say where the rest
leads. -/
def walkFrom (tree : FileTree) (follow : Bool) (jump : Path → List Bytes → Except Nat Path)
    (here : Path) : List Bytes → Except Nat Path
  | [] => .ok here
  | name :: rest =>
      if name = dot then walkFrom tree follow jump here rest
      else if name = dotDot then walkFrom tree follow jump here.dropLast rest
      else if nameMax < name.length then .error Errno.nameTooLong
      else
        let next := here ++ [name]
        match tree.node? next with
        | none => if rest.isEmpty then .ok next else .error Errno.noEntry
        | some (.directory _) => walkFrom tree follow jump next rest
        | some (.link target) =>
            if rest.isEmpty && !follow then .ok next
            else jump (if isAbsolute target then [] else here) (strictNames target ++ rest)
        | some _ => if rest.isEmpty then .ok next else .error Errno.notDirectory

def walk (tree : FileTree) (follow : Bool) : (links : Nat) → Path → List Bytes → Except Nat Path
  | 0 => walkFrom tree follow fun _ _ => .error Errno.linkLoop
  | links + 1 => walkFrom tree follow (walk tree follow links)

def locate (tree : FileTree) (follow : Bool) (here : Path) (path : Bytes) : Except Nat Path :=
  if path.isEmpty then .error Errno.noEntry
  else if pathMax ≤ path.length then .error Errno.nameTooLong
  else tree.walk follow linkMax (if isAbsolute path then [] else here) (strictNames path)

def find (tree : FileTree) (follow : Bool) (here : Path) (path : Bytes) : Except Nat Node := do
  match tree.node? (← tree.locate follow here path) with
  | some node => .ok node
  | none => .error Errno.noEntry

def put (tree : FileTree) (path : Path) (node : Node) : FileTree :=
  ⟨(path, node) :: tree.entries.filter fun entry => entry.1 != path⟩

def drop (tree : FileTree) (path : Path) : FileTree :=
  ⟨tree.entries.filter fun entry => entry.1 != path⟩

def parentWritable (tree : FileTree) (path : Path) : Bool :=
  tree.node? path.dropLast == some (.directory true)

def create (tree : FileTree) (here : Path) (path : Bytes) (node : Node) :
    Except Nat FileTree := do
  if path.isEmpty then throw Errno.noEntry
  if pathMax ≤ path.length then throw Errno.nameTooLong
  let parts := names path
  let start := if isAbsolute path then [] else here
  match parts.getLast? with
  | none => throw Errno.exists_
  | some last =>
      let directory ← tree.walk true linkMax start (parts.dropLast ++ [dot])
      if last = dot || last = dotDot then throw Errno.exists_
      if nameMax < last.length then throw Errno.nameTooLong
      let target := directory ++ [last]
      if (tree.node? target).isSome then throw Errno.exists_
      let isDirectory := match node with
        | .directory _ => true
        | _ => false
      if endsInSlash path && !isDirectory then throw Errno.noEntry
      if tree.parentWritable target then return tree.put target node
      throw Errno.accessDenied

def read (tree : FileTree) (here : Path) (path : Bytes) : Except Nat Bytes := do
  match ← tree.find true here path with
  | .file content => .ok content
  | .nullDevice => .ok []
  | .directory _ => .error Errno.isDirectory
  | _ => .error Errno.noDevice

def write (tree : FileTree) (here : Path) (path : Bytes) (content : Bytes) :
    Except Nat FileTree := do
  let target ← tree.locate true here path
  match tree.node? target with
  | some (.file _) => .ok (tree.put target (.file content))
  | some .nullDevice => .ok tree
  | some (.directory _) => .error Errno.isDirectory
  | some _ => .error Errno.noDevice
  | none =>
      if endsInSlash path then .error Errno.isDirectory
      else if tree.parentWritable target then .ok (tree.put target (.file content))
      else .error Errno.accessDenied

/-- Removes an entry that is no directory; a link is removed itself. -/
def remove (tree : FileTree) (here : Path) (path : Bytes) : Except Nat FileTree := do
  let target ← tree.locate false here path
  match tree.node? target with
  | none => .error Errno.noEntry
  | some (.directory _) => .error Errno.isDirectory
  | some _ =>
      if tree.parentWritable target then .ok (tree.drop target) else .error Errno.accessDenied

def directory (tree : FileTree) (here : Path) (path : Bytes) : Except Nat Path := do
  let target ← tree.locate true here path
  match tree.node? target with
  | some (.directory _) => .ok target
  | some _ => .error Errno.notDirectory
  | none => .error Errno.noEntry

/-- Makes a directory, and where a parent is missing the parents first; the paths go from the
directory up. A directory that is there already is as good. What has been made by then stays when
something else fails. -/
def createUpward (tree : FileTree) (here : Path) : List Bytes → Except Nat Unit × FileTree
  | [] => (.ok (), tree)
  | path :: parents =>
      let standing (tree : FileTree) (error : Nat) : Except Nat Unit × FileTree :=
        (if (tree.directory here path).isOk then .ok () else .error error, tree)
      match tree.create here path (.directory true) with
      | .ok tree => (.ok (), tree)
      | .error error =>
          if error != Errno.noEntry then standing tree error
          else match createUpward tree here parents with
            | (.error error, tree) => (.error error, tree)
            | (.ok (), tree) =>
                match tree.create here path (.directory true) with
                | .ok tree => (.ok (), tree)
                | .error error => standing tree error

def leadingParts (path : Bytes) : List Bytes :=
  let parts := names path
  (List.range parts.length).map fun count =>
    let text := [slash].intercalate (parts.take (count + 1))
    if isAbsolute path then slash :: text else text

def createAll (tree : FileTree) (here : Path) (path : Bytes) : Except Nat Unit × FileTree :=
  tree.createUpward here (leadingParts path).reverse

end FileTree

end Superserver
