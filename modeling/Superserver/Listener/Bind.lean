import Superserver.Host.Kernel
import Superserver.Listener.Basic
import Superserver.Log.Record

/-!
Setting up a listener and dropping it. A unix socket that was left behind at the path is removed
first, any other file stays and makes the binding fail. The listener removes its socket file again.
-/

namespace Superserver

namespace Listener

def target : String := "served::listener"

def socketField (path : Bytes) : Field := { name := "socket", value := Utf8.decodeLossy path }

def errorField (number : Nat) : Field :=
  { name := "error", value := (SystemError.numbered number).message }

def socketType : SocketKind → Nat
  | .stream => SocketType.stream
  | .seqpacket => SocketType.seqpacket

def removeStale (path : Bytes) (host : Host) : List Record × Host :=
  match host.tree.find false host.directory path with
  | .ok (.socket _) =>
      match host.tree.remove host.directory path with
      | .ok tree =>
          ([{ level := .debug, target, message := "Removed stale socket file",
              fields := [socketField path] }], { host with tree })
      | .error error =>
          ([{ level := .warn, target, message := "Failed to remove stale socket",
              fields := [socketField path, errorField error] }], host)
  | _ => ([], host)

/-- The path from the root, so that it stays right when the working directory changes. -/
def absolute (path : Bytes) (host : Host) : Bytes :=
  if FileTree.isAbsolute path then path
  else
    let directory := FileTree.spell host.directory
    if FileTree.endsInSlash directory then directory ++ path
    else directory ++ [FileTree.slash] ++ path

def drop (listener : Listener) (host : Host) : List Record × Host :=
  match listener.socketPath with
  | none => ([], host.close listener.descriptor)
  | some path =>
      match host.tree.remove host.directory path with
      | .ok tree =>
          ([{ level := .debug, target, message := "Removed socket file",
              fields := [socketField path] }], { host with tree }.close listener.descriptor)
      | .error error =>
          ([{ level := .warn, target, message := "Failed to remove socket file",
              fields := [socketField path, errorField error] }], host.close listener.descriptor)

def readyRecord (address : ListenAddress) (kind : SocketKind) (backlog : Int) : Record :=
  { level := .info, target, message := "Listener ready",
    fields :=
      [{ name := "address", value := toString address },
        { name := "socket_type", value := toString kind },
        { name := "backlog", value := toString backlog }] }

def bind (address : ListenAddress) (kind : SocketKind) (backlog : Int) (host : Host) :
    List Record × Except ListenerError Listener × Host :=
  match RawAddress.encode address with
  | .error error => ([], .error (.address address error), host)
  | .ok raw =>
      match host.openSocket (Int.ofNat raw.family) (Int.ofNat (socketType kind)) with
      | (.error error, host) => ([], .error (.socket address error), host)
      | (.ok descriptor, host) =>
          let (cleared, socketPath, host) : List Record × Option Bytes × Host :=
            match address with
            | .unix path =>
                let (records, host) := removeStale path host
                (records, some (absolute path host), host)
            | _ => ([], none, host)
          match host.bind descriptor raw with
          | (.error error, host) =>
              (cleared, .error (.bind address error), host.close descriptor)
          | (.ok (), host) =>
              let listener : Listener := { descriptor, address, socketPath }
              match host.listen descriptor backlog with
              | (.error error, host) =>
                  let (dropped, host) := listener.drop host
                  (cleared ++ dropped, .error (.listen address error), host)
              | (.ok (), host) =>
                  (cleared ++ [readyRecord address kind backlog], .ok listener, host)

def localAddress (listener : Listener) (host : Host) : Except SystemError PeerAddress := do
  (← host.localName listener.descriptor).decode

end Listener

end Superserver
