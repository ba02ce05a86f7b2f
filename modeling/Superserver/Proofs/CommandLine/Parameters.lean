import Superserver.CommandLine.Settings

/-!
What the program runs with, piece by piece. Main statement: each piece is settled by what the
command line has for it, else by what the file has, and by nothing else.
-/

namespace Superserver

inductive Parameter where
  | address
  | backlog
  | socketKind
  | maxProcesses
  | command
deriving DecidableEq

namespace Parameter

abbrev Value : Parameter → Type
  | .address => ListenAddress
  | .backlog => Int
  | .socketKind => SocketKind
  | .maxProcesses => UInt64
  | .command => String

def outcome : (parameter : Parameter) → Option parameter.Value → Option parameter.Value
  | .address, given => some (given.getD default)
  | .backlog, given => some ((given.map Listener.clampBacklog).getD Listener.maxBacklog)
  | .socketKind, given => some (given.getD default)
  | .maxProcesses, given => some (given.getD AdmissionLimit.defaultCeiling)
  | .command, given => given

end Parameter

namespace Options

def get (options : Options) : (parameter : Parameter) → Option parameter.Value
  | .address => options.address
  | .backlog => options.backlog
  | .socketKind => options.socketKind
  | .maxProcesses => options.maxProcesses
  | .command => options.command

def put (options : Options) : (parameter : Parameter) → parameter.Value → Options
  | .address, value => { options with address := some value }
  | .backlog, value => { options with backlog := some value }
  | .socketKind, value => { options with socketKind := some value }
  | .maxProcesses, value => { options with maxProcesses := some value }
  | .command, value => { options with command := some value }

variable {options : Options} {parameter other : Parameter}

@[simp] theorem get_put (options : Options) (value : parameter.Value) :
    (options.put parameter value).get parameter = some value := by
  cases parameter <;> rfl

theorem get_put_of_ne (differ : other ≠ parameter) (value : parameter.Value) :
    (options.put parameter value).get other = options.get other := by
  cases parameter <;> cases other <;> first | rfl | exact absurd rfl differ

theorem put_comm (differ : other ≠ parameter) (value : parameter.Value) (next : other.Value) :
    (options.put parameter value).put other next =
      (options.put other next).put parameter value := by
  cases parameter <;> cases other <;> first | rfl | exact absurd rfl differ

end Options

namespace Config

def get (config : Config) : (parameter : Parameter) → Option parameter.Value
  | .address => config.address
  | .backlog => config.backlog
  | .socketKind => config.socketKind
  | .maxProcesses => config.maxProcesses
  | .command => config.command

def put (config : Config) : (parameter : Parameter) → parameter.Value → Config
  | .address, value => { config with address := some value }
  | .backlog, value => { config with backlog := some value }
  | .socketKind, value => { config with socketKind := some value }
  | .maxProcesses, value => { config with maxProcesses := some value }
  | .command, value => { config with command := some value }

variable {config : Config} {parameter other : Parameter}

@[simp] theorem get_put (config : Config) (value : parameter.Value) :
    (config.put parameter value).get parameter = some value := by
  cases parameter <;> rfl

theorem get_put_of_ne (differ : other ≠ parameter) (value : parameter.Value) :
    (config.put parameter value).get other = config.get other := by
  cases parameter <;> cases other <;> first | rfl | exact absurd rfl differ

theorem put_comm (differ : other ≠ parameter) (value : parameter.Value) (next : other.Value) :
    (config.put parameter value).put other next =
      (config.put other next).put parameter value := by
  cases parameter <;> cases other <;> first | rfl | exact absurd rfl differ

end Config

namespace Settings

def get (settings : Settings) : (parameter : Parameter) → parameter.Value
  | .address => settings.address
  | .backlog => settings.backlog
  | .socketKind => settings.socketKind
  | .maxProcesses => settings.maxProcesses
  | .command => settings.command.text

variable {options : Options} {config : Config} {settings : Settings}

/-- What is said of a parameter; the command line comes before the file. -/
def said (options : Options) (config : Config) (parameter : Parameter) : Option parameter.Value :=
  (options.get parameter).or (config.get parameter)

theorem resolve_eq_some_iff :
    resolve options config = some settings ↔
      ∀ parameter : Parameter,
        parameter.outcome (said options config parameter) = some (settings.get parameter) := by
  constructor
  · intro resolved parameter
    simp only [resolve, Option.bind_eq_bind, Option.bind_eq_some_iff, Option.pure_def,
      Option.some.injEq] at resolved
    obtain ⟨command, given, rfl⟩ := resolved
    cases parameter with
    | command => exact given
    | _ => rfl
  · intro outcomes
    have command : options.command.or config.command = some settings.command.text :=
      outcomes .command
    have address := outcomes .address
    have backlog := outcomes .backlog
    have kind := outcomes .socketKind
    have ceiling := outcomes .maxProcesses
    simp only [Parameter.outcome, said, Options.get, Config.get, get, Option.some.injEq] at *
    simp only [resolve, command, address, backlog, kind, ceiling]
    rfl

/-- The settings depend on nothing but what is said of each parameter. -/
theorem resolve_congr {other : Options} {another : Config}
    (same : ∀ parameter, said options config parameter = said other another parameter) :
    resolve options config = resolve other another := by
  refine Option.ext fun settings => ?_
  rw [resolve_eq_some_iff, resolve_eq_some_iff]
  exact forall_congr' fun parameter => by rw [same]

variable {parameter : Parameter}

theorem said_put_of_none (silent : options.get parameter = none) (value : parameter.Value) :
    said (options.put parameter value) config = said options (config.put parameter value) := by
  funext other
  by_cases own : other = parameter
  · subst own
    simp [said, silent]
  · simp [said, Options.get_put_of_ne own, Config.get_put_of_ne own]

/-- A value that only one of the two gives has the same effect wherever it is given. -/
theorem resolve_put_of_none (silent : options.get parameter = none) (value : parameter.Value) :
    resolve (options.put parameter value) config =
      resolve options (config.put parameter value) :=
  resolve_congr (congrFun (said_put_of_none silent value))

/-- What the command line says makes the file's word on it void. -/
theorem resolve_put_of_some {value : parameter.Value} (given : options.get parameter = some value)
    (other : parameter.Value) :
    resolve options (config.put parameter other) = resolve options config := by
  refine resolve_congr fun asked => ?_
  by_cases own : asked = parameter
  · subst own
    simp [said, given]
  · simp [said, Config.get_put_of_ne own]

end Settings

end Superserver
