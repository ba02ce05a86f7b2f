import Superserver.Toml.Excerpt

/-!
TOML values. Tables keep their entries in the order in which the document first named them, and
with each entry where the document has it.
-/

namespace Superserver.Toml

inductive TableShape where
  | header
  | implied
  | dotted
  | braced
deriving DecidableEq

structure Key where
  name : String
  place : Place

structure Entry (α : Type) where
  key : Key
  /-- Where the value is written; a table that only the keys of others mention is nowhere. -/
  own : Option Place
  value : α

def Entry.place (entry : Entry α) : Place := entry.own.getD entry.key.place

inductive Value where
  | string (text : String)
  | integer (value : Int)
  | float (bits : UInt64)
  | boolean (value : Bool)
  | datetime
  | array (items : List Value)
  | table (shape : TableShape) (entries : List (Entry Value))
  | tables (items : List (List (Entry Value)))

abbrev Entries := List (Entry Value)

def Value.kindName : Value → String
  | .string _ => "string"
  | .integer _ => "integer"
  | .float _ => "float"
  | .boolean _ => "boolean"
  | .datetime => "datetime"
  | .array _ => "array"
  | .table .braced _ => "inline table"
  | .table .. => "table"
  | .tables _ => "array of tables"

end Superserver.Toml
