import Superserver.Net.Ipv6
import Superserver.Text.Utf8

/-!
Addresses to listen on, written as a family word, perhaps followed by one space and the rest:
`inet 127.0.0.1 8080`, `inet6 ::1 8080`, `unix /run/x.sock`, `vsock 8080 3`, `x25 1234567`.
The first three families have a default for a missing rest.
-/

namespace Superserver

inductive ListenAddress where
  | inet (ip : Ipv4) (port : UInt16)
  | inet6 (ip : Ipv6) (port : UInt16) (flowInfo scopeId : UInt32)
  | unix (path : Bytes)
  | vsock (port cid : UInt32)
  | x25 (digits : String)
deriving DecidableEq, Repr

inductive AddressError where
  | unsupportedFamily (family : String)
  | invalidInet (input : String)
  | invalidInet6 (input : String)
  | portNotNumeric (input : String)
  | portOutOfRange
  | unixPathTooLong (path : String) (max : Nat)
  | vsockEmpty
  | vsockPort
  | vsockCid
  | x25TooLong (input : String)
  | x25Forbidden (input : String)
  | unsupportedSocketType (input : String)
deriving DecidableEq, Repr

def AddressError.message : AddressError → String
  | .unsupportedFamily family => s!"Unsupported address family '{family}'"
  | .invalidInet input => s!"Invalid inet address '{input}'"
  | .invalidInet6 input => s!"Invalid inet6 address '{input}'"
  | .portNotNumeric input => s!"Port contains non-digit character in '{input}'"
  | .portOutOfRange => "Port number exceeds 65535"
  | .unixPathTooLong path max => s!"Unix socket path '{path}' is too long (max {max} bytes)"
  | .vsockEmpty => "VSOCK address string has no data"
  | .vsockPort => "Could not parse VSOCK address port number"
  | .vsockCid => "Could not parse VSOCK context identifier"
  | .x25TooLong input => s!"X25 address '{input}' is too long"
  | .x25Forbidden input => s!"X25 address '{input}' has forbidden characters"
  | .unsupportedSocketType input => s!"Unsupported socket type '{input}'"

namespace ListenAddress

def defaultPort : UInt16 := 4869

def defaultPath : String := "serve.sock"

/-- Room for a unix path in the kernel's form, its closing NUL included. -/
def pathRoom : Nat := 108

def ipv6TextMax : Nat := 45

def x25DigitsMax : Nat := 15

instance : Inhabited ListenAddress := ⟨.inet Ipv4.unspecified defaultPort⟩

def family : ListenAddress → String
  | .inet .. => "inet"
  | .inet6 .. => "inet6"
  | .unix .. => "unix"
  | .vsock .. => "vsock"
  | .x25 .. => "x25"

def parsePort (digits : List Char) : Except AddressError UInt16 :=
  if digits.isEmpty || !digits.all Text.isDigit then
    .error (.portNotNumeric (String.ofList digits))
  else if Text.digitsValue digits ≤ 65535 then .ok (UInt16.ofNat (Text.digitsValue digits))
  else .error .portOutOfRange

def parseInet : List Char → Except AddressError ListenAddress
  | [] => .ok default
  | rest =>
      let invalid := AddressError.invalidInet (String.ofList rest)
      match Text.splitFirst ' ' rest with
      | none => .error invalid
      | some (host, port) =>
          match Ipv4.parse? host with
          | none => .error invalid
          | some ip => (parsePort port).map (.inet ip)

def parseInet6 : List Char → Except AddressError ListenAddress
  | [] => .ok (.inet6 Ipv6.unspecified defaultPort 0 0)
  | rest =>
      let invalid := AddressError.invalidInet6 (String.ofList rest)
      match Text.splitFirst ' ' rest with
      | none => .error invalid
      | some (host, port) =>
          if ipv6TextMax < (String.ofList host).utf8ByteSize then .error invalid
          else match Ipv6.parse? host with
            | none => .error invalid
            | some ip => (parsePort port).map fun port => .inet6 ip port 0 0

def parseUnix (rest : List Char) : Except AddressError ListenAddress :=
  let path := if rest.isEmpty then defaultPath else String.ofList rest
  if pathRoom ≤ path.utf8ByteSize then .error (.unixPathTooLong path (pathRoom - 1))
  else .ok (.unix (bytesOf path))

/-- Port and context identifier between white space; what follows them is not looked at. -/
def parseVsock (rest : List Char) : Except AddressError ListenAddress :=
  match Text.words rest with
  | [] => .error .vsockEmpty
  | port :: others =>
      match Text.readUnsigned (UInt32.size - 1) port with
      | .error _ => .error .vsockPort
      | .ok port =>
          match others.head?.map (Text.readUnsigned (UInt32.size - 1)) with
          | some (.ok cid) => .ok (.vsock (UInt32.ofNat port) (UInt32.ofNat cid))
          | _ => .error .vsockCid

def parseX25 (rest : List Char) : Except AddressError ListenAddress :=
  let digits := String.ofList rest
  if x25DigitsMax < digits.utf8ByteSize then .error (.x25TooLong digits)
  else if rest.all Text.isDigit then .ok (.x25 digits)
  else .error (.x25Forbidden digits)

def parse (text : String) : Except AddressError ListenAddress :=
  let (family, rest) := (Text.splitFirst ' ' text.toList).getD (text.toList, [])
  match String.ofList family with
  | "inet" => parseInet rest
  | "inet6" => parseInet6 rest
  | "unix" => parseUnix rest
  | "vsock" => parseVsock rest
  | "x25" => parseX25 rest
  | other => .error (.unsupportedFamily other)

def text : ListenAddress → String
  | .inet ip port => s!"inet {ip} {port}"
  | .inet6 ip port _ _ => s!"inet6 {ip} {port}"
  | .unix path => s!"unix {Utf8.decodeLossy path}"
  | .vsock port cid => s!"vsock {port} {cid}"
  | .x25 digits => s!"x25 {digits}"

instance : ToString ListenAddress := ⟨text⟩

end ListenAddress

inductive SocketKind where
  | stream
  | seqpacket
deriving DecidableEq, Repr

namespace SocketKind

instance : Inhabited SocketKind := ⟨.stream⟩

def parse : String → Except AddressError SocketKind
  | "stream" => .ok .stream
  | "seqpacket" => .ok .seqpacket
  | other => .error (.unsupportedSocketType other)

def text : SocketKind → String
  | .stream => "stream"
  | .seqpacket => "seqpacket"

instance : ToString SocketKind := ⟨text⟩

end SocketKind

end Superserver
