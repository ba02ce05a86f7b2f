import Superserver.Config.Error
import Superserver.Host.Basic

/-!
Where the configuration file is looked for, and loading one.
-/

namespace Superserver

def joinPath (directory name : Bytes) : Bytes :=
  if FileTree.endsInSlash directory then directory ++ name
  else directory ++ [FileTree.slash] ++ name

namespace Host

def setting? (host : Host) (name : String) : Option Bytes :=
  (host.environment.lookup name).map bytesOf

def home? (host : Host) : Option Bytes :=
  match host.setting? "HOME" with
  | some path => if path.isEmpty then none else some path
  | none => none

/-- A directory for one kind of files: where the variable says, if that is an absolute path, else
at a place below the home directory. -/
def baseDirectory? (host : Host) (name : String) (below : List String) : Option Bytes :=
  match (host.setting? name).filter FileTree.isAbsolute with
  | some path => some path
  | none => host.home?.map fun home =>
      below.foldl (fun path name => joinPath path (bytesOf name)) home

end Host

namespace Config

/-- What is done to a path in the file tree fails if the path has a NUL in it. -/
def unusablePath : SystemError :=
  .described .invalidInput "file name contained an unexpected NUL byte"

def readText (host : Host) (path : Bytes) : Except SystemError String :=
  if path.contains 0 then .error unusablePath
  else if !host.hasRoom 1 then .error (.numbered Errno.tooManyDescriptors)
  else match host.tree.read host.directory path with
    | .error number => .error (.numbered number)
    | .ok content =>
        match Utf8.decode? content with
        | some text => .ok text
        | none => .error (.described .invalidData "stream did not contain valid UTF-8")

def load (host : Host) (path : Bytes) : Except ConfigError Config := do
  let text ← (readText host path).mapError (.unreadable path)
  (Config.parse text).mapError (.text path)

def defaultPath? (host : Host) : Option Bytes :=
  (host.baseDirectory? "XDG_CONFIG_HOME" [".config"]).map fun directory =>
    joinPath (joinPath directory (bytesOf "serve")) (bytesOf "serve.toml")

def isRegularFile (host : Host) (path : Bytes) : Bool :=
  match host.tree.find true host.directory path with
  | .ok (.file _) => true
  | _ => false

def loadDefault (host : Host) : Except ConfigError Config :=
  match defaultPath? host with
  | some path => if isRegularFile host path then load host path else .ok {}
  | none => .ok {}

end Config

end Superserver
