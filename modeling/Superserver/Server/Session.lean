import Superserver.Host.Basic
import Superserver.Log.Filter
import Superserver.Log.Line

/-!
One run of the program: the system it runs on, how it keeps its log, and what it has printed.
-/

namespace Superserver

structure Session where
  host : Host
  style : LogStyle := .plain
  filter : LogFilter := {}
  output : String := ""
  errors : String := ""
  /-- The file that takes the place of both, for a process that has let go of the terminal. -/
  logFile : Option Path := none

namespace Session

def target : String := "served::cli"

def ownTargets : List String := ["served", "serve_core", "serve"]

def baseLevel : LogStyle → Level
  | .plain => .info
  | .verbose => .debug

def appendToFile (session : Session) (path : Path) (text : String) : Session :=
  match session.host.tree.node? path with
  | some (.file content) =>
      { session with
        host := { session.host with
          tree := session.host.tree.put path (.file (content ++ bytesOf text)) } }
  | _ => session

def print (session : Session) (text : String) : Session :=
  match session.logFile with
  | none => { session with output := session.output ++ text }
  | some path => session.appendToFile path text

def complain (session : Session) (text : String) : Session :=
  match session.logFile with
  | none => { session with errors := session.errors ++ text }
  | some path => session.appendToFile path text

def log (session : Session) (records : List Record) : Session :=
  session.print (String.join ((records.filter session.filter.shows).map session.style.line))

def refusalText (refusal : String × DirectiveError) : String :=
  s!"ignoring `{refusal.1}`: {refusal.2.message}\n"

/-- Begins the log. What the environment says of it counts only where it is more specific than
the level of the style; what it says without sense is complained about. -/
def beginLog (session : Session) (style : LogStyle) : Session :=
  let (given, refused) := LogFilter.ofText ((session.host.environment.lookup "RUST_LOG").getD "")
  let filter := ownTargets.foldl
    (fun filter target => filter.add (.ofTarget target (baseLevel style))) given
  { session with style, filter }.complain
    (String.join (refused.map refusalText))

end Session

end Superserver
