import Superserver.CommandLine.Options
import Superserver.Text.Integer
import Superserver.Text.Split

/-!
Reading a command line. A value is looked at only when the argument after it is taken up, so an
unknown argument right after a bad value is reported in its place.
-/

namespace Superserver

/-- What waits to be looked at: an option that may still lack its value, or the command. -/
inductive Waiting where
  | setting (setting : Setting) (value : Option String)
  | command (text : String)
deriving DecidableEq

structure Scan where
  options : Options := {}
  waiting : Option Waiting := none
  given : List Setting := []
  flags : List Flag := []
  commandTaken : Bool := false
  operandsOnly : Bool := false

namespace Scan

def integerFault (setting : Setting) (value : String) (error : Text.IntegerError) : UsageError :=
  .invalid setting value error.message

def addressFault (setting : Setting) (value : String) (error : AddressError) : UsageError :=
  .invalid setting value error.message

def pathOf (setting : Setting) (value : String) : Except UsageError String :=
  if value.isEmpty then .error (.missingValue setting) else .ok value

def set (options : Options) (setting : Setting) (value : String) : Except UsageError Options :=
  match setting with
  | .address => do
      let address ← (ListenAddress.parse value).mapError (addressFault setting value)
      return { options with address := some address }
  | .backlog => do
      let backlog ← (Text.readSigned (UInt64.size / 2 - 1) value.toList).mapError
        (integerFault setting value)
      return { options with backlog := some backlog }
  | .socketKind => do
      let kind ← (SocketKind.parse value).mapError (addressFault setting value)
      return { options with socketKind := some kind }
  | .protocol => .ok { options with protocol := some value }
  | .maxProcesses => do
      let count ← (Text.readUnsigned (UInt64.size - 1) value.toList).mapError
        (integerFault setting value)
      return { options with maxProcesses := some (UInt64.ofNat count) }
  | .config => do return { options with config := some (← pathOf setting value) }
  | .pidFile => do return { options with pidFile := some (← pathOf setting value) }
  | .logFile => do return { options with logFile := some (← pathOf setting value) }

def take (scan : Scan) (setting : Setting) (value : String) : Except UsageError Scan :=
  if scan.given.contains setting then .error (.repeatedSetting setting)
  else do
    let options ← set scan.options setting value
    return { scan with options, given := setting :: scan.given }

def settle (scan : Scan) : Except UsageError Scan :=
  let idle := { scan with waiting := none }
  match scan.waiting with
  | none => .ok scan
  | some (.setting setting none) => .error (.missingValue setting)
  | some (.setting setting (some value)) => idle.take setting value
  | some (.command text) => .ok { idle with options := { idle.options with command := some text } }

def beginSetting (scan : Scan) (setting : Setting) (attached : Option String) :
    Except UsageError Scan := do
  let scan ← scan.settle
  match attached with
  | some value => scan.take setting value
  | none => return { scan with waiting := some (.setting setting none) }

def raiseFlag (scan : Scan) (flag : Flag) : Except UsageError Scan := do
  let scan ← scan.settle
  if flag = .help then throw .help
  if flag = .version then throw .version
  if scan.flags.contains flag then throw (.repeatedFlag flag)
  let options := match flag with
    | .daemon => { scan.options with daemon := true }
    | .verbose => { scan.options with verbose := true }
    | .help | .version => scan.options
  return { scan with options, flags := flag :: scan.flags }

def long (scan : Scan) (text : List Char) : Except UsageError Scan :=
  let (name, value) := match Text.splitFirst '=' text with
    | some (name, value) => (String.ofList name, some (String.ofList value))
    | none => (String.ofList text, none)
  match Setting.all.find? fun setting => setting.long = name with
  | some setting => scan.beginSetting setting value
  | none =>
      match Flag.all.find? fun flag => flag.long = name with
      | none => .error (.unknown s!"--{name}")
      | some flag =>
          match value with
          | some value => .error (.unneededValue flag value)
          | none => scan.raiseFlag flag

def short (scan : Scan) : List Char → Except UsageError Scan
  | [] => .ok scan
  | letter :: rest =>
      match Setting.all.find? fun setting => setting.short? = some letter with
      | some setting =>
          let attached := match rest with
            | [] => none
            | '=' :: value => some (String.ofList value)
            | value => some (String.ofList value)
          scan.beginSetting setting attached
      | none =>
          match Flag.all.find? fun flag => flag.short = letter with
          | none => .error (.unknown (String.ofList ['-', letter]))
          | some flag => do short (← scan.raiseFlag flag) rest

/-- Whether the text looks like a number: digits, at most one point and, after it, an exponent
mark, neither of them first and the mark not last. -/
def looksNumeric (text : List Char) : Bool :=
  let mantissa := text.takeWhile (· != 'e')
  let exponent := text.dropWhile (· != 'e')
  let pointed := mantissa.filter (· == '.')
  mantissa.all (fun character => Text.isDigit character || character == '.') &&
    pointed.length ≤ 1 && mantissa.head? != some '.' &&
    match exponent with
    | [] => true
    | _ :: digits => !mantissa.isEmpty && !digits.isEmpty && digits.all Text.isDigit

def operand (scan : Scan) (text : String) : Except UsageError Scan :=
  if scan.commandTaken then .error (.unknown text)
  else do
    let scan ← scan.settle
    return { scan with waiting := some (.command text), commandTaken := true }

def hungry? (scan : Scan) : Option Setting :=
  match scan.waiting with
  | some (.setting setting none) => some setting
  | _ => none

/-- An argument that does not begin with a dash, or may do so: the value that an option lacks, or
an operand. -/
def plain (scan : Scan) (text : String) : Except UsageError Scan :=
  match scan.hungry? with
  | some setting => .ok { scan with waiting := some (.setting setting (some text)) }
  | none => scan.operand text

def next (scan : Scan) (argument : String) : Except UsageError Scan :=
  if scan.operandsOnly then scan.operand argument
  else match argument.toList with
    | ['-', '-'] => .ok { scan with operandsOnly := true }
    | '-' :: '-' :: text => scan.long text
    | '-' :: letter :: letters =>
        if (scan.hungry?.map Setting.takesNegative).getD false && looksNumeric (letter :: letters)
        then scan.plain argument
        else scan.short (letter :: letters)
    | _ => scan.plain argument

def finish (scan : Scan) : Except UsageError Options := do
  let scan ← scan.settle
  if !scan.options.daemon && scan.given.any Setting.needsDaemon then throw .missingDaemon
  return scan.options

end Scan

def Options.parse (arguments : List String) : Except UsageError Options := do
  (← arguments.foldlM Scan.next {}).finish

end Superserver
