/-!
Log records: a level, the part of the program that speaks, a message and named values.
-/

namespace Superserver

inductive Level where
  | error
  | warn
  | info
  | debug
  | trace
deriving DecidableEq

namespace Level

def verbosity : Level → Nat
  | .error => 1
  | .warn => 2
  | .info => 3
  | .debug => 4
  | .trace => 5

def name : Level → String
  | .error => "ERROR"
  | .warn => "WARN"
  | .info => "INFO"
  | .debug => "DEBUG"
  | .trace => "TRACE"

end Level

structure Field where
  name : String
  value : String
  quoted : Bool := false
deriving DecidableEq

structure Record where
  level : Level
  target : String
  message : String
  fields : List Field := []
deriving DecidableEq

end Superserver
