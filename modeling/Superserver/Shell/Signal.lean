import Superserver.Shell.Octets

/-!
Signals by their numbers and names.
-/

namespace Superserver.Shell.Signal

def named : List (Nat × String) :=
  [(0, "EXIT"), (1, "HUP"), (2, "INT"), (3, "QUIT"), (4, "ILL"), (5, "TRAP"), (6, "ABRT"),
    (7, "BUS"), (8, "FPE"), (9, "KILL"), (10, "USR1"), (11, "SEGV"), (12, "USR2"), (13, "PIPE"),
    (14, "ALRM"), (15, "TERM"), (17, "CHLD"), (18, "CONT"), (19, "STOP"), (20, "TSTP"),
    (21, "TTIN"), (22, "TTOU"), (23, "URG"), (24, "XCPU"), (25, "XFSZ"), (26, "VTALRM"),
    (27, "PROF"), (28, "WINCH"), (29, "IO"), (30, "PWR"), (31, "SYS")]

def count : Nat := 65

/-- The least of the signals that have no purpose of their own, and the greatest. -/
def realTime : Nat × Nat := (34, 64)

def name (number : Nat) : String :=
  match named.lookup number with
  | some name => name
  | none =>
      if number = realTime.1 then "RTMIN"
      else if number = realTime.2 then "RTMAX"
      else if number < realTime.1 then toString number
      else if number < 50 then s!"RTMIN+{number - realTime.1}"
      else s!"RTMAX-{realTime.2 - number}"

def ofText? (least : Nat) (text : Octets) : Option Nat :=
  match Octets.number? text with
  | some number => if number < count then some number else none
  | none =>
      let wanted := String.ofList (text.map Char.toUpper)
      (List.range count).find? fun number => least ≤ number && name number == wanted

def isSovereign (number : Nat) : Bool := number = 9 || number = 19

def isHarmless (number : Nat) : Bool := [0, 17, 18, 23, 28].contains number

def description? (number : Nat) : Option String :=
  match number with
  | 1 => some "Hangup"
  | 3 => some "Quit"
  | 4 => some "Illegal instruction"
  | 5 => some "Trace/breakpoint trap"
  | 6 => some "Aborted"
  | 7 => some "Bus error"
  | 8 => some "Floating point exception"
  | 9 => some "Killed"
  | 10 => some "User defined signal 1"
  | 11 => some "Segmentation fault"
  | 12 => some "User defined signal 2"
  | 14 => some "Alarm clock"
  | 15 => some "Terminated"
  | 16 => some "Stack fault"
  | 24 => some "CPU time limit exceeded"
  | 25 => some "File size limit exceeded"
  | 26 => some "Virtual timer expired"
  | 27 => some "Profiling timer expired"
  | 29 => some "I/O possible"
  | 30 => some "Power failure"
  | 31 => some "Bad system call"
  | number =>
      if realTime.1 ≤ number && number < count then
        some s!"Real-time signal {number - realTime.1}"
      else none

end Superserver.Shell.Signal
