import Superserver.Net.ListenAddress
import Superserver.Text.Printable
import Superserver.Text.Shortest
import Superserver.Toml.Document

/-!
Settings from a configuration file. Each key may be left out; of the keys that do not fit, the
first one in the document decides what is said.
-/

namespace Superserver

structure Config where
  address : Option ListenAddress := none
  backlog : Option Int := none
  socketKind : Option SocketKind := none
  maxProcesses : Option UInt64 := none
  command : Option String := none
deriving DecidableEq

namespace Config

inductive Wanted where
  | integer
  | count
  | text

def Wanted.name : Wanted → String
  | .integer => "i64"
  | .count => "usize"
  | .text => "a string"

inductive Fault where
  | unknownKey (key : String)
  | wrongType (found : Toml.Value) (wanted : Wanted)
  | negative (value : Int)
  | address (error : AddressError)
  | unknownKind (name : String)
  | kindShape
  | kindEmpty
  | kindCrowded
  | kindContent (content : Toml.Value)

def found : Toml.Value → String
  | .string text => s!"string {Text.quoted text}"
  | .integer value => s!"integer `{value}`"
  | .float bits => s!"floating point `{Text.floatText bits}`"
  | .boolean value => s!"boolean `{value}`"
  | .array _ | .tables _ => "sequence"
  | .datetime | .table .. => "map"

def Fault.message : Fault → String
  | .unknownKey key =>
      s!"unknown field `{key}`, expected one of `address`, `backlog`, `socket_type`, " ++
        "`max_processes`, `command`"
  | .wrongType value wanted => s!"invalid type: {found value}, expected {wanted.name}"
  | .negative value => s!"invalid value: integer `{value}`, expected {Wanted.count.name}"
  | .address error => error.message
  | .unknownKind name => s!"unknown variant `{name}`, expected `stream` or `seqpacket`"
  | .kindShape => "wanted string or table"
  | .kindEmpty => "wanted exactly 1 element, found 0 elements"
  | .kindCrowded => "wanted exactly 1 element, more than 1 element"
  | .kindContent (.table ..) | .kindContent (.array _) => "expected empty table"
  | .kindContent (.tables _) => "expected empty array"
  | .kindContent value => s!"expected table, found {value.kindName}"

structure Misfit where
  fault : Fault
  place : Toml.Place

def textOf : Toml.Value → Except Fault String
  | .string text => .ok text
  | value => .error (.wrongType value .text)

def integerOf : Toml.Value → Except Fault Int
  | .integer value => .ok value
  | value => .error (.wrongType value .integer)

def countOf : Toml.Value → Except Fault UInt64
  | .integer value => if value < 0 then .error (.negative value) else .ok (UInt64.ofNat value.toNat)
  | value => .error (.wrongType value .count)

def addressOf (value : Toml.Value) : Except Fault ListenAddress := do
  (ListenAddress.parse (← textOf value)).mapError .address

def kindNamed : String → Except Fault SocketKind
  | "stream" => .ok .stream
  | "seqpacket" => .ok .seqpacket
  | other => .error (.unknownKind other)

def isEmptyContent : Toml.Value → Bool
  | .table _ entries => entries.isEmpty
  | .array items => items.isEmpty
  | _ => false

/-- A socket type is its name, or a table in which the name stands before something empty. A fault
inside the table is shown there; content that is nowhere itself is shown at the outer entry. -/
def kindOf (entry : Toml.Entry Toml.Value) : Except Misfit SocketKind :=
  match entry.value with
  | .string name => (kindNamed name).mapError (⟨·, entry.place⟩)
  | .table _ [] => .error ⟨.kindEmpty, entry.place⟩
  | .table _ [inner] => do
      let kind ← (kindNamed inner.key.name).mapError (⟨·, inner.key.place⟩)
      if isEmptyContent inner.value then return kind
      else throw ⟨.kindContent inner.value, inner.own.getD entry.place⟩
  | .table .. => .error ⟨.kindCrowded, entry.place⟩
  | _ => .error ⟨.kindShape, entry.place⟩

def set (config : Config) (entry : Toml.Entry Toml.Value) : Except Misfit Config :=
  let read {α : Type} (reader : Toml.Value → Except Fault α) : Except Misfit α :=
    (reader entry.value).mapError (⟨·, entry.place⟩)
  match entry.key.name with
  | "address" => do return { config with address := some (← read addressOf) }
  | "backlog" => do return { config with backlog := some (← read integerOf) }
  | "socket_type" => do return { config with socketKind := some (← kindOf entry) }
  | "max_processes" => do return { config with maxProcesses := some (← read countOf) }
  | "command" => do return { config with command := some (← read textOf) }
  | other => .error ⟨.unknownKey other, entry.key.place⟩

def ofEntries (entries : Toml.Entries) : Except Misfit Config := entries.foldlM set {}

end Config

end Superserver
