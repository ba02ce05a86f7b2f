import Superserver.AdmissionLimit
import Superserver.CommandLine.Options
import Superserver.Config.Basic
import Superserver.Listener.Basic
import Superserver.Worker

/-!
What the program runs with: the options, where they are silent the configuration file, and where
both are silent the defaults. Only the command has no default.
-/

namespace Superserver

structure Settings where
  address : ListenAddress
  socketKind : SocketKind
  backlog : Int
  maxProcesses : UInt64
  command : ShellCommand
deriving DecidableEq

/-- The settings, none if neither the options nor the file name a command. -/
def Settings.resolve (options : Options) (config : Config) : Option Settings := do
  let command ← options.command.or config.command
  return {
    address := (options.address.or config.address).getD default
    socketKind := (options.socketKind.or config.socketKind).getD default
    backlog := ((options.backlog.or config.backlog).map Listener.clampBacklog).getD
      Listener.maxBacklog
    maxProcesses := (options.maxProcesses.or config.maxProcesses).getD
      AdmissionLimit.defaultCeiling
    command := ⟨command⟩ }

end Superserver
