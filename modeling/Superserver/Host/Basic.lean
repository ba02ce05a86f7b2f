import Superserver.Host.FileTree
import Superserver.Host.Pipe
import Superserver.Host.Registry
import Superserver.System.Kernel
import Superserver.Text.Split

/-!
A model of the system: open files and the descriptors that name them, pipes, sockets, a tree of
files and processes. A pipe has a writer as long as a descriptor or a process keeps its write end.
-/

namespace Superserver

namespace SocketType

def stream : Nat := 1
def datagram : Nat := 2
def raw : Nat := 3
def seqpacket : Nat := 5
def packet : Nat := 10

def count : Nat := 11

def mask : UInt32 := 0xF

def descriptorFlags : UInt32 := 0x800 ||| 0x80000

end SocketType

inductive Resource where
  | pipeReader (pipe : Nat)
  | pipeWriter (pipe : Nat)
  | socket (number : Nat)
  | directory
  | regular
  | pathOnly
deriving DecidableEq

structure OpenFile where
  resource : Resource
  nonblocking : Bool

/-- What a descriptor names; descriptors may share an open file. -/
structure Handle where
  file : Nat
  closeOnExec : Bool

structure Pending where
  peer : RawAddress
  client : Nat

structure Socket where
  domain : Nat
  type : Nat
  name : Option RawAddress := none
  listening : Bool := false
  /-- A connection is refused for now while more than this many wait. -/
  backlog : Nat := 0
  shut : Bool := false
  pending : List Pending := []
  client : Option Nat := none

inductive ProcessState where
  | running
  | ended (status : Int)
  /-- Somebody else has collected the status. -/
  | stolen
deriving DecidableEq

structure Process where
  request : SpawnRequest
  errorPipe : Nat
  errorOpen : Bool := true
  /-- Whether another process keeps the write end of the pipe. -/
  held : Bool := false
  client : Option Nat := none
  state : ProcessState := .running

structure Host where
  tree : FileTree := {}
  directory : Path := []
  environment : List (String × String) := []
  handles : Registry Handle := {}
  files : Registry OpenFile := {}
  pipes : Registry Pipe := {}
  sockets : Registry Socket := {}
  processes : Registry Process := {}
  nextDescriptor : Nat := 3
  nextNumber : Nat := 1
  nextPid : Pid := 1
  /-- How many descriptors may be open at once, the three standard ones included. -/
  descriptorLimit : Nat := 1024
  hasShell : Bool := true
  /-- Whether a poll had to be interrupted because nothing would ever have happened. -/
  interrupted : Bool := false

namespace Host

def standardDirectories : List String :=
  ["bin", "boot", "dev", "etc", "home", "lib", "lib64", "media", "mnt", "opt", "proc", "root",
    "run", "sbin", "srv", "sys", "tmp", "usr", "var"]

def standardEntries : List (Path × Node) :=
  standardDirectories.map (fun name => ([bytesOf name], .directory false)) ++
    [([bytesOf "usr", bytesOf "bin"], .directory false),
      ([bytesOf "usr", bytesOf "lib"], .directory false),
      ([bytesOf "var", bytesOf "tmp"], .directory true),
      ([bytesOf "dev", bytesOf "null"], .nullDevice)]

/-- A host on which nothing but a directory and those above it is open for new entries; it is the
working directory. -/
def workingIn (directory : Path) : Host :=
  let writable := (List.range directory.length).map fun count =>
    (directory.take (count + 1), .directory true)
  { tree := ⟨writable ++ standardEntries⟩, directory }

def withTree (host : Host) (change : Except Nat FileTree) : Host :=
  match change with
  | .ok tree => { host with tree }
  | .error _ => host

def makeDirectory (host : Host) (path : Bytes) : Except Nat Unit × Host :=
  let (result, tree) := host.tree.createAll host.directory path
  (result, { host with tree })

def makeParent (host : Host) (path : Bytes) : Except Nat Unit × Host :=
  let (result, tree) :=
    host.tree.createUpward host.directory (FileTree.leadingParts path).reverse.tail
  (result, { host with tree })

def withFile (host : Host) (path content : Bytes) : Host :=
  let parents := (host.makeParent path).2
  parents.withTree (parents.tree.write host.directory path content)

def shellDirectories : List String := ["/bin", "/usr/bin"]

def withEnvironment (host : Host) (environment : List (String × String)) : Host :=
  let leads (path : String) : Bool :=
    (Text.pieces (· == ':') path.toList).any fun directory =>
      shellDirectories.contains (String.ofList directory)
  { host with environment, hasShell := ((environment.lookup "PATH").map leads).getD true }

def standardStreams : Nat := 3

def openCount (host : Host) : Nat := standardStreams + host.handles.size

def hasRoom (host : Host) (count : Nat) : Bool := host.openCount + count ≤ host.descriptorLimit

def withSpare (host : Host) (count : Nat) : Host :=
  { host with descriptorLimit := host.openCount + count }

def resource? (host : Host) (descriptor : Descriptor) : Option Resource := do
  let handle ← host.handles.get? descriptor
  let file ← host.files.get? handle.file
  return file.resource

def openHandle (host : Host) (file : Nat) (closeOnExec : Bool) : Descriptor × Host :=
  (host.nextDescriptor,
    { host with
      handles := host.handles.insert host.nextDescriptor { file, closeOnExec }
      nextDescriptor := host.nextDescriptor + 1 })

def openFile (host : Host) (resource : Resource) (nonblocking : Bool) : Descriptor × Host :=
  openHandle
    { host with
      files := host.files.insert host.nextNumber { resource, nonblocking }
      nextNumber := host.nextNumber + 1 }
    host.nextNumber true

def close (descriptor : Descriptor) (host : Host) : Host :=
  match host.handles.get? descriptor with
  | none => host
  | some handle =>
      let handles := host.handles.erase descriptor
      if handles.any fun other => other.file = handle.file then { host with handles }
      else
        let sockets := match host.files.get? handle.file with
          | some { resource := .socket number, .. } => host.sockets.erase number
          | _ => host.sockets
        { host with handles, sockets, files := host.files.erase handle.file }

/-! ### Descriptor flags -/

def nonblocking (descriptor : Descriptor) (host : Host) : Except SystemError Bool × Host :=
  match (host.handles.get? descriptor).bind fun handle => host.files.get? handle.file with
  | none => (.error (.numbered Errno.badDescriptor), host)
  | some file => (.ok file.nonblocking, host)

def changeNonblocking (descriptor : Descriptor) (wanted : Bool) (host : Host) :
    Except SystemError Unit × Host :=
  match host.handles.get? descriptor, host.resource? descriptor with
  | some handle, some resource =>
      if resource = .pathOnly then (.error (.numbered Errno.badDescriptor), host)
      else
        (.ok (),
          { host with
            files := host.files.modify handle.file fun file =>
              { file with nonblocking := wanted } })
  | _, _ => (.error (.numbered Errno.badDescriptor), host)

def closeOnExec (descriptor : Descriptor) (host : Host) : Except SystemError Bool :=
  match host.handles.get? descriptor with
  | none => .error (.numbered Errno.badDescriptor)
  | some handle => .ok handle.closeOnExec

def setCloseOnExec (descriptor : Descriptor) (host : Host) : Except SystemError Unit × Host :=
  match host.handles.get? descriptor with
  | none => (.error (.numbered Errno.badDescriptor), host)
  | some _ =>
      (.ok (),
        { host with
          handles := host.handles.modify descriptor fun handle =>
            { handle with closeOnExec := true } })

/-! ### Opening -/

def pipe (host : Host) : Except SystemError (Descriptor × Descriptor) × Host :=
  if host.hasRoom 2 then
    let number := host.nextNumber
    let host := { host with
      pipes := host.pipes.insert number {}, nextNumber := host.nextNumber + 1 }
    let (readEnd, host) := host.openFile (.pipeReader number) false
    let (writeEnd, host) := host.openFile (.pipeWriter number) false
    (.ok (readEnd, writeEnd), host)
  else (.error (.numbered Errno.tooManyDescriptors), host)

/-- A second descriptor for an open file; `closeOnExec` is its own. -/
def duplicate (closeOnExec : Bool) (descriptor : Descriptor) (host : Host) :
    Except SystemError Descriptor × Host :=
  match host.handles.get? descriptor with
  | none => (.error (.numbered Errno.badDescriptor), host)
  | some handle =>
      if host.hasRoom 1 then
        let (copy, host) := host.openHandle handle.file closeOnExec
        (.ok copy, host)
      else (.error (.numbered Errno.tooManyDescriptors), host)

/-! ### Pipes -/

def hasWriter (host : Host) (pipe : Nat) : Bool :=
  (host.files.any fun file => file.resource = .pipeWriter pipe) ||
    host.processes.any fun process =>
      process.errorPipe = pipe && (process.errorOpen || process.held)

def hasReader (host : Host) (pipe : Nat) : Bool :=
  host.files.any fun file => file.resource = .pipeReader pipe

def writePipe (host : Host) (number : Nat) (data : Bytes) : Except SystemError Nat × Host :=
  if data.isEmpty then (.ok 0, host)
  else if !host.hasReader number then (.error (.numbered Errno.brokenPipe), host)
  else match host.pipes.get? number with
    | none => (.error (.numbered Errno.brokenPipe), host)
    | some pipe =>
        let (count, pipe) := pipe.write data
        if count = 0 then (.error (.numbered Errno.again), host)
        else (.ok count, { host with pipes := host.pipes.modify number fun _ => pipe })

/-! ### Reading and writing -/

def unconnectedRead (socket : Socket) : Nat :=
  if socket.type = SocketType.datagram then Errno.again
  else if socket.domain = Family.unix && socket.type = SocketType.stream then Errno.invalid
  else Errno.notConnected

def unconnectedWrite (socket : Socket) : Nat :=
  if socket.domain = Family.unix then Errno.notConnected
  else if socket.type = SocketType.datagram then Errno.noDestination
  else Errno.brokenPipe

def read (descriptor : Descriptor) : Reader Host := fun count host =>
  let refuse (number : Nat) :
      Except SystemError { chunk : Bytes // chunk.length ≤ count } × Host :=
    (.error (.numbered number), host)
  match host.resource? descriptor with
  | some (.pipeReader number) =>
      match host.pipes.get? number with
      | none => refuse Errno.badDescriptor
      | some pipe =>
          if pipe.isEmpty && count != 0 && host.hasWriter number then refuse Errno.again
          else
            (.ok ⟨(pipe.read count).1, pipe.length_read_le count⟩,
              { host with pipes := host.pipes.modify number fun _ => (pipe.read count).2 })
  | some (.socket number) =>
      if count = 0 then (.ok ⟨[], Nat.zero_le count⟩, host)
      else match host.sockets.get? number with
        | none => refuse Errno.badDescriptor
        | some socket => refuse (unconnectedRead socket)
  | some .directory => refuse Errno.isDirectory
  | _ => refuse Errno.badDescriptor

def write (descriptor : Descriptor) (data : Bytes) (host : Host) :
    Except SystemError Nat × Host :=
  match host.resource? descriptor with
  | some (.pipeWriter number) => host.writePipe number data
  | some (.socket number) =>
      match host.sockets.get? number with
      | none => (.error (.numbered Errno.badDescriptor), host)
      | some socket => (.error (.numbered (unconnectedWrite socket)), host)
  | _ => (.error (.numbered Errno.badDescriptor), host)

def fillUp (descriptor : Descriptor) (host : Host) : Option SystemError × Host :=
  let page : Bytes := List.replicate Pipe.pageSize 0x78
  let rec pages : Nat → Host → Option SystemError × Host
    | 0, host => (none, host)
    | count + 1, host =>
        match host.write descriptor page with
        | (.ok _, host) => pages count host
        | (.error error, host) => (some error, host)
  pages 1024 host

end Host

end Superserver
