import Superserver.ProcessTable

/-!
What ends a pass of the supervisor early. An error's sources are the errors behind it, nearest
first; a table error speaks in its own words and so stands for itself.
-/

namespace Superserver

def TableError.sources : TableError → List String
  | .capacityExhausted _ => []
  | .outOfMemory error => [error.message]

def ForwardError.sources : ForwardError → List String
  | .read error => [error.message]
  | .lineTooLong _ => []
  | .outOfMemory error => [error.message]

inductive AdmissionError where
  | pipe (error : SystemError)
  | table (error : TableError)
  | duplicate (error : SystemError)
  | spawn (error : SystemError)
deriving DecidableEq, Repr

namespace AdmissionError

def message : AdmissionError → String
  | .pipe error => s!"Could not create diagnostic pipe: {error}"
  | .table error => error.message
  | .duplicate error => s!"Could not duplicate connection descriptor: {error}"
  | .spawn error => s!"Could not start worker: {error}"

def sources : AdmissionError → List String
  | .pipe error | .duplicate error | .spawn error => [error.message]
  | .table error => error.sources

instance : ToString AdmissionError := ⟨message⟩

end AdmissionError

inductive TickError where
  | poll (error : SystemError)
  | accept (error : SystemError)
  | admission (remote : String) (error : AdmissionError)
deriving DecidableEq, Repr

namespace TickError

def message : TickError → String
  | .poll error => s!"Could not poll for events: {error}"
  | .accept error => s!"Could not accept connection: {error}"
  | .admission remote error => s!"Could not admit connection from '{remote}': {error}"

def sources : TickError → List String
  | .poll error | .accept error => [error.message]
  | .admission _ error => error.message :: error.sources

instance : ToString TickError := ⟨message⟩

end TickError

end Superserver
