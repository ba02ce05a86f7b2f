import Superserver.Net.ListenAddress
import Superserver.System.Error

/-!
Remote ends of connections, and addresses in the kernel's form: 128 bytes of storage that begin with
the family, and a length. Numbers of the host stand in little-endian order, ports in network order.
-/

namespace Superserver

inductive PeerAddress where
  | inet (ip : Ipv4) (port : UInt16)
  | inet6 (ip : Ipv6) (port : UInt16) (flowInfo scopeId : UInt32)
  /-- `none` is a socket without a name. -/
  | unix (path : Option Bytes)
  | vsock (cid port : UInt32)
  | x25 (digits : String)
deriving DecidableEq

def PeerAddress.label : PeerAddress → String
  | .inet ip port => s!"{ip} {port}"
  | .inet6 ip port _ _ => s!"{ip} {port}"
  | .unix (some path) => Utf8.decodeLossy path
  | .unix none => ""
  | .vsock cid port => s!"{cid} {port}"
  | .x25 digits => digits

def padded (size : Nat) (bytes : Bytes) : Bytes :=
  bytes.take size ++ List.replicate (size - bytes.length) 0

@[simp] theorem length_padded (size : Nat) (bytes : Bytes) :
    (padded size bytes).length = size := by
  simp [padded]; omega

def littleEndian : (count : Nat) → Nat → Bytes
  | 0, _ => []
  | count + 1, value => UInt8.ofNat value :: littleEndian count (value / 256)

def ofLittleEndian : Bytes → Nat
  | [] => 0
  | byte :: rest => byte.toNat + 256 * ofLittleEndian rest

theorem ofLittleEndian_littleEndian (count value : Nat) (bound : value < Nat.pow 256 count) :
    ofLittleEndian (littleEndian count value) = value := by
  induction count generalizing value with
  | zero =>
      have one : Nat.pow 256 0 = 1 := rfl
      simp only [littleEndian, ofLittleEndian]
      omega
  | succ count ih =>
      have step : Nat.pow 256 (count + 1) = Nat.pow 256 count * 256 := rfl
      have smaller : value / 256 < Nat.pow 256 count := by omega
      simp only [littleEndian, ofLittleEndian, ih _ smaller, UInt8.toNat_ofNat']
      omega

/-! The address families that have a textual form. -/
namespace Family

def unix : Nat := 1
def inet : Nat := 2
def x25 : Nat := 9
def inet6 : Nat := 10
def vsock : Nat := 40

end Family

structure RawAddress where
  storage : Bytes
  /-- The length the kernel reports, or is told. -/
  length : Nat
  length_storage : storage.length = 128

namespace RawAddress

def ofParts (family : Nat) (payload : Bytes) (length : Nat) : RawAddress where
  storage := padded 128 (littleEndian 2 family ++ payload)
  length := length
  length_storage := length_padded ..

def field (raw : RawAddress) (start count : Nat) : Bytes := (raw.storage.drop start).take count

def number (raw : RawAddress) (start count : Nat) : Nat := ofLittleEndian (raw.field start count)

def family (raw : RawAddress) : Nat := raw.number 0 2

def bytes (raw : RawAddress) : Bytes := raw.storage.take raw.length

def portBytes (port : UInt16) : Bytes := (littleEndian 2 port.toNat).reverse

def groupBytes (group : UInt16) : Bytes := (littleEndian 2 group.toNat).reverse

def groupsOf : Bytes → List UInt16
  | high :: low :: rest => (high.toUInt16 * 256 + low.toUInt16) :: groupsOf rest
  | _ => []

def port (raw : RawAddress) : UInt16 := UInt16.ofNat (ofLittleEndian (raw.field 2 2).reverse)

def x25Room : Nat := 16

def unusablePath (path : Bytes) : SystemError :=
  .described .invalidInput s!"unusable unix socket path '{Utf8.decodeLossy path}'"

def encode : ListenAddress → Except SystemError RawAddress
  | .inet ip port => .ok (ofParts Family.inet (portBytes port ++ ip.octets) 16)
  | .inet6 ip port flowInfo scopeId =>
      .ok (ofParts Family.inet6
        (portBytes port ++ littleEndian 4 flowInfo.toNat ++ ip.groups.flatMap groupBytes ++
          littleEndian 4 scopeId.toNat) 28)
  | .unix path =>
      if ListenAddress.pathRoom ≤ path.length || path.contains 0 then .error (unusablePath path)
      else .ok (ofParts Family.unix path 110)
  | .vsock port cid =>
      .ok (ofParts Family.vsock
        ([0, 0] ++ littleEndian 4 port.toNat ++ littleEndian 4 cid.toNat) 16)
  | .x25 digits =>
      if x25Room ≤ digits.utf8ByteSize then
        .error (.described .invalidInput s!"X25 address '{digits}' is too long")
      else .ok (ofParts Family.x25 (bytesOf digits) 18)

def untilNul (bytes : Bytes) : Bytes := bytes.takeWhile (· != 0)

/-- The path of a unix address: what the length covers, up to a NUL. -/
def unixPath (raw : RawAddress) : Bytes :=
  untilNul (raw.field 2 (min ListenAddress.pathRoom (raw.length - 2)))

/-- The peer that the kernel reported. Families without a textual form are not supported. -/
def decode (raw : RawAddress) : Except SystemError PeerAddress :=
  match raw.family with
  | 2 =>
      match raw.field 4 4 with
      | [first, second, third, fourth] => .ok (.inet ⟨first, second, third, fourth⟩ raw.port)
      | _ => .error (.numbered Errno.unsupported)
  | 10 =>
      match Ipv6.ofGroups? (groupsOf (raw.field 8 16)) with
      | some ip =>
          .ok (.inet6 ip raw.port (UInt32.ofNat (raw.number 4 4)) (UInt32.ofNat (raw.number 24 4)))
      | none => .error (.numbered Errno.unsupported)
  | 1 =>
      match raw.unixPath with
      | [] => .ok (.unix none)
      | path => .ok (.unix (some path))
  | 40 => .ok (.vsock (UInt32.ofNat (raw.number 8 4)) (UInt32.ofNat (raw.number 4 4)))
  | 9 =>
      .ok (.x25 (String.ofList ((untilNul (raw.field 2 x25Room)).map fun byte =>
        Char.ofNat byte.toNat)))
  | _ => .error (.numbered Errno.unsupported)

end RawAddress

end Superserver
