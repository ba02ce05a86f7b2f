import Superserver.Net.ListenAddress
import Superserver.Text.TerminalCommand

/-!
The options of the command line and what can be wrong with them.
-/

namespace Superserver

inductive Setting where
  | address
  | backlog
  | socketKind
  | protocol
  | maxProcesses
  | config
  | pidFile
  | logFile
deriving DecidableEq

namespace Setting

def all : List Setting :=
  [.address, .backlog, .socketKind, .protocol, .maxProcesses, .config, .pidFile, .logFile]

def long : Setting → String
  | .address => "address"
  | .backlog => "backlog"
  | .socketKind => "type"
  | .protocol => "protocol"
  | .maxProcesses => "max-processes"
  | .config => "config"
  | .pidFile => "pid-file"
  | .logFile => "log-file"

def short? : Setting → Option Char
  | .address => some 'a'
  | .backlog => some 'b'
  | .socketKind => some 't'
  | .protocol => some 'p'
  | .maxProcesses => some 'm'
  | .config => some 'c'
  | .pidFile | .logFile => none

def valueName : Setting → String
  | .address => "ADDR"
  | .backlog => "BACKLOG"
  | .socketKind => "stream|seqpacket"
  | .protocol => "PROTOCOL"
  | .maxProcesses => "MAX_PROCESSES"
  | .config | .pidFile | .logFile => "PATH"

def display (setting : Setting) : String := s!"--{setting.long} <{setting.valueName}>"

def takesNegative (setting : Setting) : Bool := setting = .backlog

def needsDaemon (setting : Setting) : Bool := setting = .pidFile || setting = .logFile

end Setting

inductive Flag where
  | daemon
  | verbose
  | help
  | version
deriving DecidableEq

namespace Flag

def all : List Flag := [.daemon, .verbose, .help, .version]

def long : Flag → String
  | .daemon => "daemon"
  | .verbose => "verbose"
  | .help => "help"
  | .version => "version"

def short : Flag → Char
  | .daemon => 'd'
  | .verbose => 'v'
  | .help => 'h'
  | .version => 'V'

def display (flag : Flag) : String := s!"--{flag.long}"

end Flag

structure Options where
  address : Option ListenAddress := none
  backlog : Option Int := none
  socketKind : Option SocketKind := none
  protocol : Option String := none
  maxProcesses : Option UInt64 := none
  config : Option String := none
  daemon : Bool := false
  pidFile : Option String := none
  logFile : Option String := none
  verbose : Bool := false
  command : Option String := none
deriving DecidableEq

/-- Why a command line gives no values; asking for help or the version is one of the reasons. -/
inductive UsageError where
  | help
  | version
  | unknown (argument : String)
  | invalid (setting : Setting) (value cause : String)
  | missingValue (setting : Setting)
  | unneededValue (flag : Flag) (value : String)
  | repeatedSetting (setting : Setting)
  | repeatedFlag (flag : Flag)
  | missingDaemon
  | missingCommand
deriving DecidableEq

namespace UsageError

def exitCode : UsageError → Nat
  | .help | .version => 0
  | _ => 2

def cause? : UsageError → Option String
  | .invalid _ _ cause => some cause
  | _ => none

def programVersion : String := "0.3.0"

def emphasised (text : String) : String := s!"\x1b[1m{text}\x1b[0m"

def headline : UsageError → String
  | .help => "serve - run a shell command for every connection"
  | .version => s!"serve {programVersion}"
  | .unknown argument => s!"unexpected argument '{emphasised argument}' found"
  | .invalid setting value cause =>
      s!"invalid value '{emphasised value}' for '{emphasised setting.display}': {cause}"
  | .missingValue setting =>
      s!"a value is required for '{emphasised setting.display}' but none was supplied"
  | .unneededValue flag value =>
      s!"unexpected value '{emphasised value}' for '{emphasised flag.display}' found; " ++
        "no more were expected"
  | .repeatedSetting setting =>
      s!"the argument '{emphasised setting.display}' cannot be used multiple times"
  | .repeatedFlag flag =>
      s!"the argument '{emphasised flag.display}' cannot be used multiple times"
  | .missingDaemon => "the following required arguments were not provided:"
  | .missingCommand => "a command to run for each connection is required"

/-- What is printed for it. Emphasis is left out, and so are all commands to a terminal that came
with the arguments. -/
def text (error : UsageError) : String :=
  if error.exitCode = 0 then error.headline ++ "\n"
  else
    let advice := "For more information, try '" ++ emphasised "--help" ++ "'."
    Text.withoutCommands (emphasised "error:" ++ s!" {error.headline}\n\n{advice}\n")

end UsageError

end Superserver
