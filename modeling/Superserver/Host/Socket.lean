import Superserver.Host.Basic

/-!
Sockets of the modelled system. The network has no way to any internet address, not even its own:
sockets can be bound and listen, but no internet client gets through.
-/

namespace Superserver

namespace Host

def familyCount : Nat := 46

/-- The type in a word that may also ask for what every new descriptor has anyway; other bits are
refused. -/
def plainType? (word : UInt32) : Option Nat :=
  let flags := word &&& ~~~ SocketType.mask
  if flags &&& ~~~ SocketType.descriptorFlags = 0 then some (word &&& SocketType.mask).toNat
  else none

def socketFault? (domain type : Nat) : Option Nat :=
  if familyCount ≤ domain then some Errno.familyUnsupported
  else if SocketType.count ≤ type then some Errno.invalid
  else if domain = Family.unix then
    if [SocketType.stream, SocketType.datagram, SocketType.raw, SocketType.seqpacket].contains
        type then none
    else some Errno.socketTypeUnsupported
  else if domain = Family.inet || domain = Family.inet6 then
    if type = SocketType.stream || type = SocketType.datagram then none
    else if type = SocketType.raw then some Errno.protocolUnsupported
    else if type = SocketType.packet && domain = Family.inet then some Errno.notPermitted
    else some Errno.socketTypeUnsupported
  else some Errno.familyUnsupported

/-- The type that a socket gets: a raw unix socket is one for datagrams. -/
def givenType (domain type : Nat) : Nat :=
  if domain = Family.unix && type = SocketType.raw then SocketType.datagram else type

def enterSocket (host : Host) (socket : Socket) : Nat × Host :=
  (host.nextNumber,
    { host with
      sockets := host.sockets.insert host.nextNumber socket
      nextNumber := host.nextNumber + 1 })

/-- A new socket, on which no operation waits. Family and type are read as words of 32 bits. -/
def openSocket (domain type : Int) (host : Host) : Except SystemError Descriptor × Host :=
  let domain := (UInt32.ofInt domain).toNat
  match plainType? (UInt32.ofInt type) with
  | none => (.error (.numbered Errno.invalid), host)
  | some type =>
      match socketFault? domain type with
      | some number => (.error (.numbered number), host)
      | none =>
          if host.hasRoom 1 then
            let (number, host) := host.enterSocket { domain, type := givenType domain type }
            let (descriptor, host) := host.openFile (.socket number) true
            (.ok descriptor, host)
          else (.error (.numbered Errno.tooManyDescriptors), host)

def socket? (descriptor : Descriptor) (host : Host) : Except SystemError (Nat × Socket) :=
  match host.resource? descriptor with
  | none => .error (.numbered Errno.badDescriptor)
  | some (.socket number) =>
      match host.sockets.get? number with
      | none => .error (.numbered Errno.badDescriptor)
      | some socket => .ok (number, socket)
  | some _ => .error (.numbered Errno.notSocket)

/-! ### Names -/

def pathName (path : Bytes) : RawAddress :=
  .ofParts Family.unix path (2 + path.length + 1)

def noName : RawAddress := .ofParts Family.unix [] 2

def abstractName (name : Bytes) : RawAddress := .ofParts Family.unix name (2 + name.length)

/-- The IPv4 address that an internet address stands for, and whether it stands for every one. -/
def reach : PeerAddress → Option (Option Ipv4 × Bool × UInt16)
  | .inet ip port => some (some ip, ip = Ipv4.unspecified, port)
  | .inet6 ip port _ _ => some (ip.mapped?, ip = Ipv6.unspecified, port)
  | _ => none

def clashes (one other : PeerAddress) : Bool :=
  match reach one, reach other with
  | some (ip, every, port), some (otherIp, otherEvery, otherPort) =>
      port = otherPort && (every || otherEvery || ip = otherIp)
  | _, _ => false

def firstFreePort : UInt16 := 1024

def firstGivenPort : Nat := 32768

def isLinkLocal (ip : Ipv6) : Bool :=
  match ip.groups with
  | group :: _ => group &&& 0xFFC0 = 0xFE80
  | [] => false

def isMulticast (ip : Ipv6) : Bool :=
  match ip.groups with
  | group :: _ => group &&& 0xFF00 = 0xFF00
  | [] => false

def bindFault? : PeerAddress → Option Nat
  | .inet _ port => if 0 < port && port < firstFreePort then some Errno.accessDenied else none
  | .inet6 ip port _ scope =>
      if isMulticast ip then some Errno.invalid
      else if 0 < port && port < firstFreePort then some Errno.accessDenied
      else if isLinkLocal ip && scope = 0 then some Errno.invalid
      else if ip = Ipv6.unspecified || ip.mapped?.isSome then none
      else some Errno.addressNotAvailable
  | _ => some Errno.familyUnsupported

def withPort (port : UInt16) : PeerAddress → ListenAddress
  | .inet ip given => .inet ip (if given = 0 then port else given)
  | .inet6 ip given flow scope => .inet6 ip (if given = 0 then port else given) flow scope
  | .unix path => .unix (path.getD [])
  | .vsock cid port => .vsock port cid
  | .x25 digits => .x25 digits

def nameSocket (host : Host) (number : Nat) (name : RawAddress) : Host :=
  { host with
    sockets := host.sockets.modify number fun socket => { socket with name := some name } }

def bindInternet (host : Host) (number : Nat) (address : PeerAddress) : Except Nat Host :=
  match bindFault? address with
  | some fault => .error fault
  | none =>
      let taken := host.sockets.any fun socket =>
        match socket.name.map RawAddress.decode with
        | some (.ok other) => clashes address other
        | _ => false
      if taken then .error Errno.addressInUse
      else
        let port := UInt16.ofNat (firstGivenPort + number % (65536 - firstGivenPort))
        match RawAddress.encode (withPort port address) with
        | .ok name => .ok (host.nameSocket number name)
        | .error _ => .error Errno.invalid

def bindPath (host : Host) (number : Nat) (path : Bytes) : Except Nat Host :=
  match host.tree.create host.directory path (.socket number) with
  | .ok tree => .ok (nameSocket { host with tree } number (pathName path))
  | .error error => .error (if error = Errno.exists_ then Errno.addressInUse else error)

/-- Whether a socket of a type has a name that is no path; each type has names of its own. -/
def hasAbstractName (socket : Socket) (type : Nat) (name : Bytes) : Bool :=
  match socket.name with
  | some other =>
      socket.type = type && other.family = Family.unix && other.bytes = (abstractName name).bytes
  | none => false

def bindAbstract (host : Host) (number : Nat) (name : Bytes) : Except Nat Host :=
  let type := ((host.sockets.get? number).map (·.type)).getD SocketType.stream
  if host.sockets.any fun socket => hasAbstractName socket type name
  then .error Errno.addressInUse
  else .ok (host.nameSocket number (abstractName name))

def bind (descriptor : Descriptor) (raw : RawAddress) (host : Host) :
    Except SystemError Unit × Host :=
  let result : Except SystemError Host := do
    let (number, _) ← host.socket? descriptor
    let bound : Except Nat Host := match raw.decode with
      | .ok (.unix (some path)) => host.bindPath number path
      | .ok (.unix none) => .error Errno.invalid
      | .ok address => host.bindInternet number address
      | .error _ => .error Errno.familyUnsupported
    bound.mapError fun (number : Nat) => SystemError.numbered number
  match result with
  | .ok host => (.ok (), host)
  | .error error => (.error error, host)

/-- The longest queue of connections that wait, also where less than none is asked for. -/
def maxBacklog : Nat := 4096

def listen (descriptor : Descriptor) (backlog : Int) (host : Host) :
    Except SystemError Unit × Host :=
  match host.socket? descriptor with
  | .error error => (.error error, host)
  | .ok (number, _) =>
      let backlog := if backlog < 0 then maxBacklog else min backlog.toNat maxBacklog
      (.ok (),
        { host with
          sockets := host.sockets.modify number fun socket =>
            { socket with listening := true, backlog } })

def localName (descriptor : Descriptor) (host : Host) : Except SystemError RawAddress := do
  let (_, socket) ← host.socket? descriptor
  return socket.name.getD (.ofParts socket.domain [] 2)

/-! ### Connections -/

/-- Takes the first pending connection. Room for its descriptor is sought before anything else. -/
def accept (descriptor : Descriptor) (host : Host) :
    Except SystemError (Descriptor × RawAddress) × Host :=
  if (host.handles.get? descriptor).isNone then (.error (.numbered Errno.badDescriptor), host)
  else if !host.hasRoom 1 then (.error (.numbered Errno.tooManyDescriptors), host)
  else match host.socket? descriptor with
    | .error error => (.error error, host)
    | .ok (number, socket) =>
        if !socket.listening then (.error (.numbered Errno.invalid), host)
        else match socket.pending with
          | [] => (.error (.numbered Errno.again), host)
          | connection :: pending =>
              let host := { host with
                sockets := host.sockets.modify number fun socket => { socket with pending } }
              let (accepted, host) := host.enterSocket
                { domain := socket.domain, type := socket.type, client := some connection.client }
              let (descriptor, host) := host.openFile (.socket accepted) false
              (.ok (descriptor, connection.peer), host)

def listenerAt (host : Host) (path : Bytes) (type : Nat) : Except Nat Nat := do
  match ← host.tree.find true host.directory path with
  | .socket number =>
      match host.sockets.get? number with
      | none => .error Errno.connectionRefused
      | some socket =>
          if socket.type != type then .error Errno.wrongSocketType
          else if !socket.listening || socket.shut then .error Errno.connectionRefused
          else if socket.backlog < socket.pending.length then .error Errno.again
          else .ok number
  | _ => .error Errno.connectionRefused

def bindClient (host : Host) (number : Nat) (domain : Nat) (name : Bytes) : Except Nat Host :=
  if domain = Family.unix then
    let room := if name.head? = some 0 then ListenAddress.pathRoom - 1 else ListenAddress.pathRoom
    if room < name.length then .error Errno.invalid
    else if name.head? = some 0 then host.bindAbstract number name
    else host.bindPath number (RawAddress.untilNul name)
  else
    let text := (Utf8.decodeLossy name).toList
    let address : Option PeerAddress :=
      if domain = Family.inet then (Ipv4.parse? text).map fun ip => .inet ip 0
      else (Ipv6.parse? text).map fun ip => .inet6 ip 0 0 0
    match address with
    | some address => host.bindInternet number address
    | none => .error Errno.invalid

def connectToPath (host : Host) (client type : Nat) (peer : RawAddress) (path : Bytes) :
    Except Nat Host := do
  let number ← host.listenerAt path type
  return { host with
    sockets := host.sockets.modify number fun socket =>
      { socket with pending := socket.pending ++ [{ peer, client }] } }

def connectTo (host : Host) (client : Nat) (type : Nat) (peer target : RawAddress) :
    Except Nat Host :=
  match target.decode with
  | .ok (.unix (some path)) => host.connectToPath client type peer path
  | .ok (.inet ..) => .error Errno.networkUnreachable
  | .ok (.inet6 ip ..) =>
      if ip.mapped?.isSome then .error Errno.networkUnreachable
      else .error Errno.addressNotAvailable
  | _ => .error Errno.connectionRefused

def connectClient (listener : Descriptor) (type : Nat) (name : Bytes) (host : Host) :
    Except SystemError Nat × Host :=
  match host.localName listener with
  | .error error => (.error error, host)
  | .ok target =>
      match socketFault? target.family type with
      | some fault => (.error (.numbered fault), host)
      | none =>
          let (client, host) := host.enterSocket { domain := target.family, type }
          let named :=
            if name.isEmpty then .ok host else host.bindClient client target.family name
          match named with
          | .error error =>
              (.error (.numbered error), { host with sockets := host.sockets.erase client })
          | .ok host =>
              let peer := ((host.sockets.get? client).bind (·.name)).getD noName
              match host.connectTo client type peer target with
              | .ok host => (.ok client, host)
              | .error error =>
                  (.error (.numbered error), { host with sockets := host.sockets.erase client })

/-- Lets a listening socket take no more connections; those that wait are still handed out. -/
def shut (descriptor : Descriptor) (host : Host) : Host :=
  match host.socket? descriptor with
  | .error _ => host
  | .ok (number, _) =>
      { host with
        sockets := host.sockets.modify number fun socket => { socket with shut := true } }

end Host

end Superserver
