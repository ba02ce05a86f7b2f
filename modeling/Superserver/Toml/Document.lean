import Superserver.Toml.Number

/-!
TOML documents. A key may be given once; a table may be named by one header and then grows only by
headers that go through it.
-/

namespace Superserver.Toml

/-! ### Putting entries into tables -/

def lookup (name : String) (entries : Entries) : Option Value :=
  (entries.find? fun entry => entry.key.name = name).map (·.value)

def replace (name : String) (value : Value) (entries : Entries) : Entries :=
  entries.map fun entry => if entry.key.name = name then { entry with value } else entry

/-- Changes the table at a path and makes the tables on the way that are missing. Along a dotted
key only tables that no header has named may be entered. -/
def descend (dotted : Bool) (change : TableShape → Entries → Option Entries) :
    List Key → TableShape → Entries → Option Entries
  | [], shape, entries => change shape entries
  | key :: path, _, entries =>
      match lookup key.name entries with
      | none => do
          let shape := if dotted then TableShape.dotted else .implied
          let inner ← descend dotted change path shape []
          return entries ++ [{ key, own := none, value := .table shape inner }]
      | some (.table shape inner) =>
          if shape = .braced || (dotted && shape = .header) then none
          else do
            let inner ← descend dotted change path shape inner
            return replace key.name (.table shape inner) entries
      | some (.tables items) =>
          match items.getLast? with
          | none => none
          | some inner => do
              let inner ← descend dotted change path .header inner
              return replace key.name (.tables (items.dropLast ++ [inner])) entries
      | some _ => none

def addEntry (value : Value) (place : Place) (shape : TableShape) (entries : Entries)
    (key : List Key) : Option Entries :=
  match key.getLast? with
  | none => none
  | some last =>
      let path := key.dropLast
      descend true (fun inner entries =>
        if decide (inner = .dotted) == path.isEmpty || (lookup last.name entries).isSome then none
        else some (entries ++ [{ key := last, own := some place, value }])) path shape entries

/-- Opens the table of a header at a place. A table that was only passed through until then goes
behind all other entries. -/
def openTable (entries : Entries) (key : List Key) (place : Place) : Option Entries :=
  match key.getLast? with
  | none => none
  | some last =>
      let opened (inner : Entries) : Entry Value :=
        { key := last, own := some place, value := .table .header inner }
      descend false (fun _ entries =>
        match lookup last.name entries with
        | none => some (entries ++ [opened []])
        | some (.table .implied inner) =>
            some ((entries.filter fun entry => entry.key.name != last.name) ++ [opened inner])
        | some _ => none) key.dropLast .header entries

def openTables (entries : Entries) (key : List Key) (place : Place) : Option Entries :=
  match key.getLast? with
  | none => none
  | some last =>
      descend false (fun _ entries =>
        match lookup last.name entries with
        | none => some (entries ++ [{ key := last, own := some place, value := .tables [[]] }])
        | some (.tables items) => some (replace last.name (.tables (items ++ [[]])) entries)
        | some _ => none) key.dropLast .header entries

/-! ### Values -/

abbrev ValueReader := Chars → Option (Value × Chars)

def arrayRest? (value? : ValueReader) : (items : Nat) → Chars → Option (List Value × Chars)
  | 0, _ => none
  | items + 1, text =>
      match skipSpace text with
      | ']' :: rest => some ([], rest)
      | text => do
          let (value, rest) ← value? text
          match skipSpace rest with
          | ',' :: rest =>
              let (others, rest) ← arrayRest? value? items rest
              return (value :: others, rest)
          | ']' :: rest => return ([value], rest)
          | _ => none

def inlineRest? (value? : ValueReader) :
    (items : Nat) → Entries → Chars → Option (Entries × Chars)
  | 0, _, _ => none
  | items + 1, entries, text => do
      let (key, rest) ← key? text
      let here := skipBlanks (← after? '=' rest)
      let (value, rest) ← value? here
      let entries ← addEntry value { here, after := rest } .braced entries key
      match skipBlanks rest with
      | ',' :: rest => inlineRest? value? items entries rest
      | '\x7d' :: rest => return (entries, rest)
      | _ => none

def value? : (depth : Nat) → ValueReader
  | 0, _ => none
  | depth + 1, text =>
      match text with
      | '[' :: rest => do
          if depth = 0 then none
          let (items, rest) ← arrayRest? (value? depth) text.length rest
          return (.array items, rest)
      | '\x7b' :: rest => do
          if depth = 0 then none
          match skipBlanks rest with
          | '\x7d' :: rest => return (.table .braced [], rest)
          | rest =>
              let (entries, rest) ← inlineRest? (value? depth) text.length [] rest
              return (.table .braced entries, rest)
      | mark :: _ =>
          if mark = '"' || mark = '\'' then
            (string? text).map fun (content, rest) => (.string (String.ofList content), rest)
          else
            let (run, rest) := scalarRun text
            (scalar? run).map fun value => (value, rest)
      | [] => none

/-! ### Lines -/

structure Reading where
  entries : Entries := []
  current : List Key := []

def Reading.add (reading : Reading) (key : List Key) (value : Value) (place : Place) :
    Option Reading := do
  let entries ← descend false (fun shape entries => addEntry value place shape entries key)
    reading.current .header reading.entries
  return { reading with entries }

/-- Reads a line that holds a header or an entry, from its first character on. The place of a
header is the whole line from its bracket on. -/
def line? (reading : Reading) (text : Chars) : Option (Reading × Chars) :=
  match text with
  | '[' :: '[' :: rest => do
      let (key, rest) ← key? rest
      let after ← lineEnd? (← after? ']' (← after? ']' rest))
      let entries ← openTables reading.entries key { here := text, after }
      return ({ entries, current := key }, after)
  | '[' :: rest => do
      let (key, rest) ← key? rest
      let after ← lineEnd? (← after? ']' rest)
      let entries ← openTable reading.entries key { here := text, after }
      return ({ entries, current := key }, after)
  | text => do
      let (key, rest) ← key? text
      let here := skipBlanks (← after? '=' rest)
      let (value, after) ← value? depthMax here
      return (← reading.add key value { here, after }, ← lineEnd? after)

def lines? : (count : Nat) → Reading → Chars → Option Entries
  | 0, _, _ => none
  | count + 1, reading, text =>
      match skipSpace text with
      | [] => some reading.entries
      | text => do
          let (reading, rest) ← line? reading text
          lines? count reading rest

def byteOrderMark : Char := Char.ofNat 0xFEFF

def withoutMark : Chars → Chars
  | first :: rest => if first = byteOrderMark then rest else first :: rest
  | [] => []

def parse? (text : Chars) : Option Entries := lines? (text.length + 1) {} (withoutMark text)

end Superserver.Toml
