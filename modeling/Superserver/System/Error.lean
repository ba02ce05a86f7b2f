/-!
Errors of the operating system: a numbered one, a bare kind, or a kind with a text of its own; and
refusals of memory.
-/

namespace Superserver

/-! Error numbers that the program and the modelled host name. -/
namespace Errno

def notPermitted : Nat := 1
def noEntry : Nat := 2
def interrupted : Nat := 4
def noDevice : Nat := 6
def badDescriptor : Nat := 9
def noChild : Nat := 10
def again : Nat := 11
def accessDenied : Nat := 13
def exists_ : Nat := 17
def notDirectory : Nat := 20
def isDirectory : Nat := 21
def invalid : Nat := 22
def tooManyDescriptors : Nat := 24
def brokenPipe : Nat := 32
def nameTooLong : Nat := 36
def linkLoop : Nat := 40
def notSocket : Nat := 88
def noDestination : Nat := 89
def wrongSocketType : Nat := 91
def protocolUnsupported : Nat := 93
def socketTypeUnsupported : Nat := 94
def unsupported : Nat := 95
def familyUnsupported : Nat := 97
def addressInUse : Nat := 98
def addressNotAvailable : Nat := 99
def networkUnreachable : Nat := 101
def connectionAborted : Nat := 103
def notConnected : Nat := 107
def connectionRefused : Nat := 111

def descriptions : List (Nat × String) :=
  [(0, "Success"), (1, "Operation not permitted"), (2, "No such file or directory"),
   (3, "No such process"), (4, "Interrupted system call"), (5, "Input/output error"),
   (6, "No such device or address"), (7, "Argument list too long"), (8, "Exec format error"),
   (9, "Bad file descriptor"), (10, "No child processes"),
   (11, "Resource temporarily unavailable"), (12, "Cannot allocate memory"),
   (13, "Permission denied"), (14, "Bad address"), (15, "Block device required"),
   (16, "Device or resource busy"), (17, "File exists"), (18, "Invalid cross-device link"),
   (19, "No such device"), (20, "Not a directory"), (21, "Is a directory"),
   (22, "Invalid argument"), (23, "Too many open files in system"), (24, "Too many open files"),
   (25, "Inappropriate ioctl for device"), (26, "Text file busy"), (27, "File too large"),
   (28, "No space left on device"), (29, "Illegal seek"), (30, "Read-only file system"),
   (31, "Too many links"), (32, "Broken pipe"), (33, "Numerical argument out of domain"),
   (34, "Numerical result out of range"), (35, "Resource deadlock avoided"),
   (36, "File name too long"), (37, "No locks available"), (38, "Function not implemented"),
   (39, "Directory not empty"), (40, "Too many levels of symbolic links"),
   (42, "No message of desired type"), (43, "Identifier removed"),
   (44, "Channel number out of range"), (45, "Level 2 not synchronized"), (46, "Level 3 halted"),
   (47, "Level 3 reset"), (48, "Link number out of range"), (49, "Protocol driver not attached"),
   (50, "No CSI structure available"), (51, "Level 2 halted"), (52, "Invalid exchange"),
   (53, "Invalid request descriptor"), (54, "Exchange full"), (55, "No anode"),
   (56, "Invalid request code"), (57, "Invalid slot"), (59, "Bad font file format"),
   (60, "Device not a stream"), (61, "No data available"), (62, "Timer expired"),
   (63, "Out of streams resources"), (64, "Machine is not on the network"),
   (65, "Package not installed"), (66, "Object is remote"), (67, "Link has been severed"),
   (68, "Advertise error"), (69, "Srmount error"), (70, "Communication error on send"),
   (71, "Protocol error"), (72, "Multihop attempted"), (73, "RFS specific error"),
   (74, "Bad message"), (75, "Value too large for defined data type"),
   (76, "Name not unique on network"), (77, "File descriptor in bad state"),
   (78, "Remote address changed"), (79, "Can not access a needed shared library"),
   (80, "Accessing a corrupted shared library"), (81, ".lib section in a.out corrupted"),
   (82, "Attempting to link in too many shared libraries"),
   (83, "Cannot exec a shared library directly"),
   (84, "Invalid or incomplete multibyte or wide character"),
   (85, "Interrupted system call should be restarted"), (86, "Streams pipe error"),
   (87, "Too many users"), (88, "Socket operation on non-socket"),
   (89, "Destination address required"), (90, "Message too long"),
   (91, "Protocol wrong type for socket"), (92, "Protocol not available"),
   (93, "Protocol not supported"), (94, "Socket type not supported"),
   (95, "Operation not supported"), (96, "Protocol family not supported"),
   (97, "Address family not supported by protocol"), (98, "Address already in use"),
   (99, "Cannot assign requested address"), (100, "Network is down"),
   (101, "Network is unreachable"), (102, "Network dropped connection on reset"),
   (103, "Software caused connection abort"), (104, "Connection reset by peer"),
   (105, "No buffer space available"), (106, "Transport endpoint is already connected"),
   (107, "Transport endpoint is not connected"),
   (108, "Cannot send after transport endpoint shutdown"),
   (109, "Too many references: cannot splice"), (110, "Connection timed out"),
   (111, "Connection refused"), (112, "Host is down"), (113, "No route to host"),
   (114, "Operation already in progress"), (115, "Operation now in progress"),
   (116, "Stale file handle"), (117, "Structure needs cleaning"),
   (118, "Not a XENIX named type file"), (119, "No XENIX semaphores available"),
   (120, "Is a named type file"), (121, "Remote I/O error"), (122, "Disk quota exceeded"),
   (123, "No medium found"), (124, "Wrong medium type"), (125, "Operation canceled"),
   (126, "Required key not available"), (127, "Key has expired"), (128, "Key has been revoked"),
   (129, "Key was rejected by service"), (130, "Owner died"), (131, "State not recoverable"),
   (132, "Operation not possible due to RF-kill"), (133, "Memory page has hardware error")]

def description (number : Int) : String :=
  let known := if number < 0 then none else descriptions.lookup number.toNat
  known.getD s!"Unknown error {number}"

end Errno

inductive ErrorKind where
  | notFound
  | permissionDenied
  | connectionRefused
  | connectionReset
  | connectionAborted
  | networkUnreachable
  | notConnected
  | addressInUse
  | addressNotAvailable
  | brokenPipe
  | alreadyExists
  | wouldBlock
  | notADirectory
  | isADirectory
  | directoryNotEmpty
  | linkLoop
  | invalidInput
  | invalidData
  | invalidFileName
  | timedOut
  | interrupted
  | unsupported
  | outOfMemory
  | other
  | uncategorized
deriving DecidableEq, Repr

namespace ErrorKind

def ofErrno : Nat → ErrorKind
  | 1 | 13 => .permissionDenied
  | 2 => .notFound
  | 4 => .interrupted
  | 11 => .wouldBlock
  | 12 => .outOfMemory
  | 17 => .alreadyExists
  | 20 => .notADirectory
  | 21 => .isADirectory
  | 22 => .invalidInput
  | 32 => .brokenPipe
  | 36 => .invalidFileName
  | 38 | 95 => .unsupported
  | 39 => .directoryNotEmpty
  | 40 => .linkLoop
  | 98 => .addressInUse
  | 99 => .addressNotAvailable
  | 101 => .networkUnreachable
  | 103 => .connectionAborted
  | 104 => .connectionReset
  | 107 => .notConnected
  | 110 => .timedOut
  | 111 => .connectionRefused
  | _ => .uncategorized

def description : ErrorKind → String
  | .notFound => "entity not found"
  | .permissionDenied => "permission denied"
  | .connectionRefused => "connection refused"
  | .connectionReset => "connection reset"
  | .connectionAborted => "connection aborted"
  | .networkUnreachable => "network unreachable"
  | .notConnected => "not connected"
  | .addressInUse => "address in use"
  | .addressNotAvailable => "address not available"
  | .brokenPipe => "broken pipe"
  | .alreadyExists => "entity already exists"
  | .wouldBlock => "operation would block"
  | .notADirectory => "not a directory"
  | .isADirectory => "is a directory"
  | .directoryNotEmpty => "directory not empty"
  | .linkLoop => "filesystem loop or indirection limit (e.g. symlink loop)"
  | .invalidInput => "invalid input parameter"
  | .invalidData => "invalid data"
  | .invalidFileName => "invalid filename"
  | .timedOut => "timed out"
  | .interrupted => "operation interrupted"
  | .unsupported => "unsupported"
  | .outOfMemory => "out of memory"
  | .other => "other error"
  | .uncategorized => "uncategorized error"

end ErrorKind

inductive SystemError where
  | numbered (number : Int)
  | bare (kind : ErrorKind)
  | described (kind : ErrorKind) (text : String)
deriving DecidableEq, Repr

namespace SystemError

def number? : SystemError → Option Int
  | .numbered number => some number
  | _ => none

def kind : SystemError → ErrorKind
  | .numbered number => .ofErrno number.toNat
  | .bare kind => kind
  | .described kind _ => kind

def message : SystemError → String
  | .numbered number => s!"{Errno.description number} (os error {number})"
  | .bare kind => kind.description
  | .described _ text => text

instance : ToString SystemError := ⟨message⟩

end SystemError

inductive MemoryError where
  | capacityOverflow
  | refused
deriving DecidableEq, Repr

namespace MemoryError

def message : MemoryError → String
  | .capacityOverflow =>
      "memory allocation failed because the computed capacity exceeded the collection's maximum"
  | .refused => "memory allocation failed because the memory allocator returned an error"

instance : ToString MemoryError := ⟨message⟩

end MemoryError

end Superserver
