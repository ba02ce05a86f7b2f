import Superserver.System.Kernel

/-!
The listening socket, and what can go wrong while it is set up.
-/

namespace Superserver

inductive ListenerError where
  | address (address : ListenAddress) (error : SystemError)
  | socket (address : ListenAddress) (error : SystemError)
  | bind (address : ListenAddress) (error : SystemError)
  | listen (address : ListenAddress) (error : SystemError)
deriving DecidableEq, Repr

namespace ListenerError

def cause : ListenerError → SystemError
  | .address _ error | .socket _ error | .bind _ error | .listen _ error => error

def message : ListenerError → String
  | .address wanted error => s!"Could not encode listening address {wanted}: {error}"
  | .socket wanted error => s!"Could not create listener socket for {wanted}: {error}"
  | .bind wanted error => s!"Could not assign address {wanted} to listener socket: {error}"
  | .listen wanted error => s!"Could not mark {wanted} as accepting connections: {error}"

def sources (error : ListenerError) : List String := [error.cause.message]

end ListenerError

structure Listener where
  descriptor : Descriptor
  address : ListenAddress
  /-- Where the file of a unix socket stands, from the root on; the listener removes it. -/
  socketPath : Option Bytes
deriving DecidableEq, Repr

namespace Listener

def maxBacklog : Int := 4096

def clampBacklog (wanted : Int) : Int := max 0 (min wanted maxBacklog)

end Listener

end Superserver
