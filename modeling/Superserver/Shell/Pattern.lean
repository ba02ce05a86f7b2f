import Superserver.Host.FileTree
import Superserver.Shell.Octets

/-!
Patterns: an asterisk stands for any text, a question mark for any character, and brackets for one
character of a set. Characters that were quoted stand for themselves.
-/

namespace Superserver.Shell

structure Marked where
  octet : Char
  quoted : Bool := false
deriving DecidableEq

inductive SetItem where
  | range (first last : Char)
  | named (name : String)
deriving DecidableEq

inductive PatternPart where
  | literal (octet : Char)
  | anyOne
  | anyText
  | oneOf (negated : Bool) (items : List SetItem)
deriving DecidableEq

abbrev Pattern := List PatternPart

namespace Octets

def classNames : List String :=
  ["alnum", "alpha", "blank", "cntrl", "digit", "graph", "lower", "print", "punct", "space",
    "upper", "xdigit"]

def isOfClass (name : String) (octet : Char) : Bool :=
  match name with
  | "alnum" => octet.isAlphanum
  | "alpha" => octet.isAlpha
  | "blank" => isBlank octet
  | "cntrl" => octet < ' ' || octet == '\x7f'
  | "digit" => Text.isDigit octet
  | "graph" => ' ' < octet && octet < '\x7f'
  | "lower" => octet.isLower
  | "print" => ' ' ≤ octet && octet < '\x7f'
  | "punct" => ' ' < octet && octet < '\x7f' && !octet.isAlphanum
  | "space" => isSpace octet
  | "upper" => octet.isUpper
  | "xdigit" =>
      Text.isDigit octet || ('a' ≤ octet && octet ≤ 'f') || ('A' ≤ octet && octet ≤ 'F')
  | _ => false

end Octets

def SetItem.has (octet : Char) : SetItem → Bool
  | .range first last => first ≤ octet && octet ≤ last
  | .named name => Octets.isOfClass name octet

namespace Pattern

def isMark (octet : Char) (marked : Marked) : Bool := marked.octet == octet && !marked.quoted

def classAt? (text : List Marked) : Option (String × List Marked) :=
  match text with
  | { octet := '[', quoted := false } :: { octet := ':', .. } :: rest =>
      let name := rest.takeWhile fun marked => marked.octet.isAlpha
      match rest.drop name.length with
      | { octet := ':', .. } :: { octet := ']', .. } :: after =>
          some (String.ofList (name.map (·.octet)), after)
      | _ => none
  | _ => none

def setItems? : (items : Nat) → (first : Bool) → List Marked → Option (List SetItem × List Marked)
  | 0, _, _ => none
  | items + 1, first, text =>
      match text with
      | [] => none
      | marked :: rest =>
          if isMark ']' marked && !first then some ([], rest)
          else match classAt? text with
            | some (name, after) =>
                (setItems? items false after).map fun (others, after) =>
                  (.named name :: others, after)
            | none =>
                match rest with
                | dash :: last :: after =>
                    if isMark '-' dash && !isMark ']' last then
                      (setItems? items false after).map fun (others, after) =>
                        (.range marked.octet last.octet :: others, after)
                    else single items marked rest
                | _ => single items marked rest
where
  single (items : Nat) (marked : Marked) (rest : List Marked) :
      Option (List SetItem × List Marked) :=
    (setItems? items false rest).map fun (others, after) =>
      (.range marked.octet marked.octet :: others, after)

/-- The pattern that a text is; `count` bounds its parts. A backslash that nobody has taken away
quotes what follows it. -/
def parts : (count : Nat) → List Marked → Pattern
  | 0, _ => []
  | _, [] => []
  | count + 1, marked :: rest =>
      if isMark '\\' marked then
        match rest with
        | [] => [.literal '\\']
        | next :: rest => .literal next.octet :: parts count rest
      else if isMark '*' marked then .anyText :: parts count rest
      else if isMark '?' marked then .anyOne :: parts count rest
      else if isMark '[' marked then
        let negated := (rest.head?.map (isMark '!')).getD false
        match setItems? (rest.length + 1) true (if negated then rest.tail else rest) with
        | some (items, after) => .oneOf negated items :: parts count after
        | none => .literal '[' :: parts count rest
      else .literal marked.octet :: parts count rest

def ofMarked (text : List Marked) : Pattern := parts text.length text

def isMagic (text : List Marked) : Bool :=
  text.any fun marked => isMark '*' marked || isMark '?' marked || isMark '[' marked

def covers : Pattern → Octets → Bool
  | [], text => text.isEmpty
  | .anyText :: rest, [] => covers rest []
  | .anyText :: rest, octet :: text =>
      covers rest (octet :: text) || covers (.anyText :: rest) text
  | .anyOne :: rest, _ :: text => covers rest text
  | .literal same :: rest, octet :: text => same == octet && covers rest text
  | .oneOf negated items :: rest, octet :: text =>
      (items.any (SetItem.has octet) != negated) && covers rest text
  | _, [] => false
termination_by pattern text => pattern.length + text.length

def trim (pattern : Pattern) (atEnd longest : Bool) (text : Octets) : Octets :=
  let sizes := List.range (text.length + 1)
  let sizes := if longest then sizes.reverse else sizes
  if atEnd then
    let kept (size : Nat) : Nat := text.length - size
    match sizes.find? fun size => covers pattern (text.drop (kept size)) with
    | some size => text.take (kept size)
    | none => text
  else
    match sizes.find? fun size => covers pattern (text.take size) with
    | some size => text.drop size
    | none => text

/-! ### Paths -/

def namesIn (tree : FileTree) (directory : Path) : List Octets :=
  tree.entries.filterMap fun entry =>
    if entry.1.dropLast = directory then entry.1.getLast?.map Octets.ofBytes else none

def comesBefore : Octets → Octets → Bool
  | _, [] => false
  | [], _ :: _ => true
  | first :: rest, other :: others => first < other || first == other && comesBefore rest others

/-- The parts of a text between slashes, each slash kept with what is before it. -/
def steps (text : List Marked) : List (List Marked) :=
  match text with
  | [] => []
  | marked :: rest =>
      match steps rest with
      | [] => [[marked]]
      | step :: others =>
          if marked.octet = '/' then [marked] :: step :: others else (marked :: step) :: others

def follow (tree : FileTree) (directory : Path) :
    List (List Marked) → List Octets → List Octets
  | [], found => found
  | step :: rest, found =>
      let slashed := (step.getLast?.map fun marked => marked.octet == '/').getD false
      let name := if slashed then step.dropLast else step
      let ending := if slashed then ['/'] else []
      let plain := name.map (·.octet)
      let isThere (path : Octets) : Bool :=
        path.isEmpty || (tree.find true directory (Octets.toBytes path)).isOk
      let found := found.flatMap fun path =>
        if !isMagic name then
          let next := path ++ plain ++ ending
          if isThere next || (!slashed && (tree.find false directory (Octets.toBytes next)).isOk)
          then [next] else []
        else
          let whole := if path.isEmpty then ['.'] else path
          match tree.directory directory (Octets.toBytes whole) with
          | .error _ => []
          | .ok place =>
              let dots : List Octets := [['.'], ['.', '.']]
              let hidden := plain.head? == some '.'
              let names := (if hidden then dots else []) ++ namesIn tree place
              let fitting := names.filter fun candidate =>
                (hidden || candidate.head? != some '.') && covers (ofMarked name) candidate
              fitting.filterMap fun candidate =>
                let next := path ++ candidate ++ ending
                if slashed && !isThere next then none else some next
      follow tree directory rest found

def paths (tree : FileTree) (directory : Path) (text : List Marked) : List Octets :=
  (follow tree directory (steps text) [[]]).mergeSort fun one other => !comesBefore other one

end Pattern

end Superserver.Shell
