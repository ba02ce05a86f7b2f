import Superserver.Config.Basic
import Superserver.System.Error
import Superserver.Text.Utf8
import Superserver.Toml.Excerpt

/-!
What can go wrong with a configuration file, and reading one from its text.
-/

namespace Superserver

inductive ConfigTextError where
  | notToml
  | unfit (fault : Config.Fault) (excerpt : Toml.Excerpt)

inductive ConfigError where
  | unreadable (path : Bytes) (error : SystemError)
  | text (path : Bytes) (error : ConfigTextError)

def ConfigTextError.message : ConfigTextError → String
  | .notToml => "TOML parse error"
  | .unfit fault excerpt => s!"{excerpt.text}{fault.message}\n"

namespace ConfigError

def message : ConfigError → String
  | .unreadable path error => s!"Failed to read config file {Utf8.decodeLossy path}: {error}"
  | .text path error => s!"Failed to parse config file {Utf8.decodeLossy path}: {error.message}"

def sources : ConfigError → List String
  | .unreadable _ error => [error.message]
  | .text _ error => [error.message]

end ConfigError

namespace Config

def parse (text : String) : Except ConfigTextError Config :=
  match Toml.parse? text.toList with
  | none => .error .notToml
  | some entries =>
      (ofEntries entries).mapError fun misfit =>
        .unfit misfit.fault (.ofPlace text.toList misfit.place)

end Config

end Superserver
