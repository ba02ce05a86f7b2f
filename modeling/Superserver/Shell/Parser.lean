import Superserver.Shell.Script

/-!
Reading scripts. A script is read line by line, so that the commands of a line can be run before
the next line is looked at; a line goes on while a quotation, a substitution or a compound command
is open. Every reader gets fuel that the length of the script bounds.
-/

namespace Superserver.Shell

inductive Arrow where
  | file (mode : FileMode)
  | copy
  | document (indented : Bool)
deriving DecidableEq

inductive Token where
  | ending
  | newline
  | mark (text : String)
  | arrow (stream : Nat) (arrow : Arrow)
  | word (word : Word)

namespace Token

def name : Token → String
  | .ending => "end of file"
  | .newline => "newline"
  | .mark text => s!"\"{text}\""
  | .arrow .. => "redirection"
  | .word _ => "word"

def is (text : String) : Token → Bool
  | .mark given => given == text
  | _ => false

def endsList : Token → Bool
  | .ending => true
  | .mark text =>
      [")", ";;", "do", "done", "elif", "else", "esac", "fi", "then", "\x7d"].contains text
  | _ => false

def reserved : List String :=
  ["!", "case", "do", "done", "elif", "else", "esac", "fi", "for", "if", "in", "then", "until",
    "while", "\x7b", "\x7d"]

def asReserved : Token → Token
  | .word read =>
      match read.plain? with
      | some octets =>
          let text := String.ofList octets
          if reserved.contains text then .mark text else .word read
      | none => .word read
  | token => token

end Token

structure Announced where
  number : Nat
  delimiter : Octets
  quoted : Bool
  indented : Bool

structure Source where
  rest : Octets
  line : Nat := 1
  held : Option Token := none
  announced : List Announced := []
  documents : List (Nat × Word) := []
  nextDocument : Nat := 0

abbrev Parse := StateT Source (Except ScriptError)

namespace Parse

def fail (text : String) : Parse α := do throw ⟨(← get).line, text⟩

/-- Stands for a script that nests deeper than its length allows, which none does. -/
def exhausted : Parse α := fail "too deep"

def unexpected (token : Token) (wanted : Option Token := none) : Parse α :=
  fail (token.name ++ " unexpected" ++
    (wanted.map fun wanted => s!" (expecting {wanted.name})").getD "")

def peek : Parse (Option Char) := do return (← get).rest.head?

def advance : Parse Unit := modify fun source =>
  match source.rest with
  | [] => source
  | octet :: rest =>
      { source with rest, line := if octet = '\n' then source.line + 1 else source.line }

def joined (line : Nat) : Octets → Nat × Octets
  | '\\' :: '\n' :: rest => joined (line + 1) rest
  | rest => (line, rest)

def peekJoined : Parse (Option Char) := do
  modify fun source =>
    let (line, rest) := joined source.line source.rest
    { source with line, rest }
  peek

def hold (token : Token) : Parse Unit := modify fun source => { source with held := some token }

def takeWhile (belongs : Char → Bool) : Parse Octets := do
  let taken := (← get).rest.takeWhile belongs
  modify fun source => { source with rest := source.rest.drop taken.length }
  return taken

def accept (octet : Char) : Parse Bool := do
  if (← peekJoined) == some octet then
    advance
    return true
  else return false

/-! ### Words -/

inductive Within where
  | command
  | quotation
  | braces (quoted : Bool)
  | document
  | expression (depth : Nat)

def Within.isQuoted : Within → Bool
  | .command | .braces false => false
  | _ => true

def Within.lack? : Within → Option String
  | .command | .document => none
  | .quotation | .braces true => some "Unterminated quoted string"
  | .braces false => some "Missing '\x7d'"
  | .expression _ => some "Missing '))'"

/-- Adds text to the fragments, of which the last one comes first and is backwards itself. -/
def push (quoted : Bool) (octets : Octets) : Word → Word
  | .text same earlier :: fragments =>
      if same = quoted then .text same (octets.reverse ++ earlier) :: fragments
      else .text quoted octets.reverse :: .text same earlier :: fragments
  | fragments => .text quoted octets.reverse :: fragments

def ordered (word : Word) : Word :=
  word.reverse.map fun
    | .text quoted octets => .text quoted octets.reverse
    | fragment => fragment

def endsWord (octet : Char) : Bool :=
  Octets.isBlank octet || ['\n', '<', '>', '(', ')', ';', '&', '|'].contains octet

def isSpecialParameter (octet : Char) : Bool :=
  ['#', '?', '$', '!', '-', '*', '@'].contains octet

def escaped (within : Within) (octet : Char) : Octets :=
  let special :=
    match within with
    | .command | .braces false => true
    | .document => ['\\', '\x60', '$'].contains octet
    | .braces true => ['\\', '\x60', '$', '"', '\x7d'].contains octet
    | _ => ['\\', '\x60', '$', '"'].contains octet
  if special then [octet] else ['\\', octet]

def bracedName : Parse (Option Octets) := do
  match ← peekJoined with
  | none => return none
  | some octet =>
      if Octets.isNameStart octet then return some (← takeWhile Octets.isNamePart)
      else if Text.isDigit octet then return some (← takeWhile Text.isDigit)
      else if isSpecialParameter octet then
        advance
        return some [octet]
      else return none

def asksSize : Octets → Bool
  | '#' :: octet :: rest =>
      Octets.isNamePart octet || (isSpecialParameter octet && rest.head? == some '\x7d')
  | _ => false

def backquoted (quoted : Bool) : Octets → Option (Octets × Octets)
  | [] => none
  | '\x60' :: rest => some ([], rest)
  | '\\' :: octet :: rest =>
      let bare := ['\\', '\x60', '$'].contains octet || (quoted && octet == '"')
      (backquoted quoted rest).map fun (text, after) =>
        (if bare then octet :: text else if octet = '\n' then text else '\\' :: octet :: text,
          after)
  | octet :: rest => (backquoted quoted rest).map fun (text, after) => (octet :: text, after)

def documentLines (announced : Announced) : (lines : Nat) → Octets → Octets × Nat × Octets
  | 0, rest => ([], 0, rest)
  | _, [] => ([], 0, [])
  | lines + 1, rest =>
      let whole := rest.takeWhile (· != '\n')
      let after := rest.drop (whole.length + 1)
      let line := if announced.indented then whole.dropWhile (· == '\t') else whole
      if line = announced.delimiter then ([], 1, after)
      else
        let (text, count, after) := documentLines announced lines after
        let ending := if whole.length < rest.length then ['\n'] else []
        (line ++ ending ++ text, count + 1, after)

def operators : List String := ["&&", "||", ";;", "&", "|", ";", "(", ")"]

def operator? (rest : Octets) : Option String :=
  operators.find? fun text => text.toList.isPrefixOf rest

def arrowAfter (first : Char) : Parse Arrow := do
  if first = '>' then
    if ← accept '>' then return .file .append
    else if ← accept '|' then return .file .overwrite
    else if ← accept '&' then return .copy
    else return .file .write
  else if ← accept '<' then
    if ← accept '-' then return .document true
    else return .document false
  else if ← accept '&' then return .copy
  else if ← accept '>' then return .file .readWrite
  else return .file .read

/-- A word, or an arrow if the word is a digit right before it, the number of a stream. -/
def wordOrArrow (word : Word) : Parse Token := do
  match word.plain?, ← peek with
  | some [digit], some first =>
      if Text.isDigit digit && (first == '<' || first == '>') then
        advance
        return .arrow (Text.digitValue digit) (← arrowAfter first)
      else return .word word
  | _, _ => return .word word

inductive Extent where
  | line
  | body
  | optional
deriving DecidableEq

def sequenced (earlier : Option Command) (command : Command) : Command :=
  match earlier with
  | none => command
  | some earlier => .sequence earlier command

def assignment? : Word → Option (String × Word)
  | .text false octets :: rest =>
      let name := octets.takeWhile Octets.isNamePart
      match octets.drop name.length with
      | '=' :: value =>
          if Octets.isName name then some (String.ofList name, .text false value :: rest) else none
      | _ => none
  | _ => none

structure Simple where
  line : Nat
  assignments : List (String × Word) := []
  words : List Word := []
  redirections : List Redirection := []

def Simple.command (simple : Simple) : Command :=
  .simple simple.line simple.assignments.reverse simple.words.reverse simple.redirections.reverse

mutual

def fragments : (fuel : Nat) → Within → Word → Parse Word
  | 0, _, _ => exhausted
  | fuel + 1, within, done => do
      match ← peek with
      | none =>
          match within.lack? with
          | some lack => fail lack
          | none => return done
      | some octet =>
          let quoted := within.isQuoted
          match within, octet with
          | .quotation, '"' => advance; return done
          | .braces _, '\x7d' => advance; return done
          | .expression depth, ')' =>
              advance
              if depth = 0 then
                if ← accept ')' then return done
                fragments fuel within (push true [')'] done)
              else fragments fuel (.expression (depth - 1)) (push true [')'] done)
          | .expression depth, '(' =>
              advance
              fragments fuel (.expression (depth + 1)) (push true ['('] done)
          | within, '\\' =>
              advance
              match ← peek with
              | none => fragments fuel within (push true ['\\'] done)
              | some octet =>
                  advance
                  if octet = '\n' then fragments fuel within done
                  else fragments fuel within (push true (escaped within octet) done)
          | within, '$' =>
              advance
              let fragment ← dollar fuel quoted
              match fragment with
              | .text _ octets => fragments fuel within (push quoted octets done)
              | fragment => fragments fuel within (fragment :: done)
          | within, '\x60' =>
              advance
              match backquoted quoted (← get).rest with
              | none =>
                  modify fun source =>
                    { source with line := source.line + source.rest.count '\n' }
                  fail "EOF in backquote substitution"
              | some (text, after) =>
                  let outer ← get
                  set { outer with rest := text, line := 1 }
                  let command ← list fuel .optional none
                  let read := outer.rest.take (outer.rest.length - after.length)
                  let line := outer.line + read.count '\n'
                  modify fun source => { source with rest := after, line, held := none }
                  fragments fuel within (.output quoted command :: done)
          | .command, octet =>
              if endsWord octet then return done
              else bare fuel within octet done
          | .braces false, octet => bare fuel within octet done
          | .braces true, '"' =>
              advance
              fragments fuel within (← fragments fuel .quotation (push true [] done))
          | within, octet =>
              advance
              fragments fuel within (push quoted [octet] done)
termination_by structural fuel => fuel

def bare : (fuel : Nat) → Within → Char → Word → Parse Word
  | 0, _, _, _ => exhausted
  | fuel + 1, within, octet, done => do
      advance
      if octet = '\'' then
        let start := (← get).line
        let inside := (← get).rest.takeWhile (· != '\'')
        modify fun source =>
          { source with
            rest := source.rest.drop inside.length
            line := start + inside.count '\n' }
        if (← peek).isNone then fail "Unterminated quoted string"
        advance
        fragments fuel within (push true inside done)
      else if octet = '"' then
        fragments fuel within (← fragments fuel .quotation (push true [] done))
      else fragments fuel within (push false [octet] done)
termination_by structural fuel => fuel

def dollar : (fuel : Nat) → (quoted : Bool) → Parse Fragment
  | 0, _ => exhausted
  | fuel + 1, quoted => do
      match ← peekJoined with
      | some '(' =>
          advance
          if ← accept '(' then
            return .sum quoted (ordered (← fragments fuel (.expression 0) []))
          else
            let command ← list fuel .optional none
            let closing ← next fuel false false
            if !closing.is ")" then unexpected closing (some (.mark ")"))
            return .output quoted command
      | some '\x7b' =>
          advance
          braced fuel quoted
      | some octet =>
          if Octets.isNameStart octet then
            return .parameter quoted (String.ofList (← takeWhile Octets.isNamePart)) .value
          else if Text.isDigit octet || isSpecialParameter octet then
            advance
            return .parameter quoted (String.singleton octet) .value
          else return .text quoted ['$']
      | none => return .text quoted ['$']
termination_by structural fuel => fuel

def braced : (fuel : Nat) → (quoted : Bool) → Parse Fragment
  | 0, _ => exhausted
  | fuel + 1, quoted => do
      let sized := asksSize (← get).rest
      if sized then advance
      match ← bracedName with
      | none =>
          let _ ← fragments fuel (.braces quoted) []
          return .parameter quoted "" .malformed
      | some letters =>
          let name := String.ofList letters
          if sized then
            if ← accept '\x7d' then return .parameter quoted name .size
            let _ ← fragments fuel (.braces quoted) []
            return .parameter quoted name .malformed
          if ← accept '\x7d' then return .parameter quoted name .value
          let orEmpty ← accept ':'
          let word (quoted : Bool) : Parse Word := do
            return ordered (← fragments fuel (.braces quoted) [])
          match ← peekJoined with
          | some '-' =>
              advance
              return .parameter quoted name (.otherwise orEmpty (← word quoted))
          | some '=' =>
              advance
              return .parameter quoted name (.assign orEmpty (← word quoted))
          | some '?' =>
              advance
              return .parameter quoted name (.demand orEmpty (← word quoted))
          | some '+' =>
              advance
              return .parameter quoted name (.instead orEmpty (← word quoted))
          | some mark =>
              if !orEmpty && (mark == '%' || mark == '#') then
                advance
                let longest ← accept mark
                return .parameter quoted name (.trim (mark == '%') longest (← word false))
              else
                let _ ← fragments fuel (.braces quoted) []
                return .parameter quoted name .malformed
          | none =>
              let _ ← fragments fuel (.braces quoted) []
              return .parameter quoted name .malformed
termination_by structural fuel => fuel

def documents : (fuel : Nat) → List Announced → Parse Unit
  | 0, _ => exhausted
  | _, [] => return
  | fuel + 1, announced :: others => do
      let source ← get
      let (text, count, after) := documentLines announced (source.rest.length + 1) source.rest
      let word ←
        if announced.quoted then pure [.text true text]
        else do
          set { source with rest := text, held := none, announced := [] }
          let word ← fragments fuel .document [.text true []]
          pure (ordered word)
      modify fun inner =>
        { inner with
          rest := after
          line := source.line + count
          documents := (announced.number, word) :: inner.documents }
      documents fuel others
termination_by structural fuel => fuel

def token : (fuel : Nat) → Parse Token
  | 0 => exhausted
  | fuel + 1 => do
      if let some token := (← get).held then
        modify fun source => { source with held := none }
        return token
      match ← peekJoined with
      | none => return .ending
      | some octet =>
          if Octets.isBlank octet then
            advance
            token fuel
          else if octet = '#' then
            let _ ← takeWhile (· != '\n')
            token fuel
          else if octet = '\n' then
            advance
            let announced := (← get).announced
            modify fun source => { source with announced := [] }
            documents fuel announced.reverse
            return .newline
          else if octet = '<' || octet = '>' then
            advance
            return .arrow (if octet = '>' then 1 else 0) (← arrowAfter octet)
          else if let some text := operator? (← get).rest then
            modify fun source => { source with rest := source.rest.drop text.length }
            return .mark text
          else wordOrArrow (ordered (← fragments fuel .command []))
termination_by structural fuel => fuel

/-- Reads the next token that counts: newlines do not where they may stand freely, and reserved
words do where a command may begin. -/
def next : (fuel : Nat) → (freely begins : Bool) → Parse Token
  | 0, _, _ => exhausted
  | fuel + 1, freely, begins => do
      match ← token fuel with
      | .newline => if freely then next fuel freely begins else return .newline
      | token => return if begins then token.asReserved else token
termination_by structural fuel => fuel

def list : (fuel : Nat) → Extent → Option Command → Parse Command
  | 0, _, _ => exhausted
  | fuel + 1, extent, earlier => do
      let first ← next fuel (extent != .line) true
      match first with
      | .newline => return earlier.getD .nothing
      | .ending =>
          hold first
          return earlier.getD .nothing
      | _ => pure ()
      hold first
      let mayEnd := extent = .optional || (extent = .body && earlier.isSome)
      if mayEnd && first.endsList then return earlier.getD .nothing
      let command ← conjunction fuel none
      let separator ← next fuel false false
      let command := if separator.is "&" then .background command else command
      let command := sequenced earlier command
      match separator with
      | .ending =>
          hold separator
          return command
      | .newline =>
          if extent = .line then return command
          list fuel extent (some command)
      | _ =>
          if separator.is "&" || separator.is ";" then list fuel extent (some command)
          else if extent = .line then unexpected separator
          else
            hold separator
            return command
termination_by structural fuel => fuel

def conjunction : (fuel : Nat) → Option (Bool × Command) → Parse Command
  | 0, _ => exhausted
  | fuel + 1, earlier => do
      let right ← pipe fuel earlier.isSome
      let command := match earlier with
        | none => right
        | some (true, left) => .both left right
        | some (false, left) => .either left right
      let separator ← next fuel false false
      if separator.is "&&" then conjunction fuel (some (true, command))
      else if separator.is "||" then conjunction fuel (some (false, command))
      else
        hold separator
        return command
termination_by structural fuel => fuel

def pipe : (fuel : Nat) → (freely : Bool) → Parse Command
  | 0, _ => exhausted
  | fuel + 1, freely => do
      let first ← next fuel freely true
      let negated := first.is "!"
      if !negated then hold first
      let command ← command fuel false
      let stages ← stages fuel [command]
      let whole := match stages with
        | [single] => single
        | stages => .pipeline stages.reverse
      return if negated then .negated whole else whole
termination_by structural fuel => fuel

def stages : (fuel : Nat) → List Command → Parse (List Command)
  | 0, _ => exhausted
  | fuel + 1, earlier => do
      let separator ← next fuel false false
      if separator.is "|" then
        let stage ← command fuel true
        stages fuel (stage :: earlier)
      else
        hold separator
        return earlier
termination_by structural fuel => fuel

def wanted : (fuel : Nat) → String → Parse Unit
  | 0, _ => exhausted
  | fuel + 1, text => do
      let token ← next fuel false false
      if !token.is text then unexpected token (some (.mark text))
termination_by structural fuel => fuel

def command : (fuel : Nat) → (freely : Bool) → Parse Command
  | 0, _ => exhausted
  | fuel + 1, freely => do
      let first ← next fuel freely true
      let line := (← get).line
      match first with
      | .word _ | .arrow .. =>
          hold first
          simple fuel { line }
      | .mark "if" =>
          let command ← choice fuel
          wanted fuel "fi"
          redirected fuel line command
      | .mark "while" => loop fuel line false
      | .mark "until" => loop fuel line true
      | .mark "for" =>
          let command ← forEach fuel line
          redirected fuel line command
      | .mark "case" =>
          match ← next fuel false false with
          | .word subject =>
              let token ← next fuel true true
              if !token.is "in" then unexpected token (some (.mark "in"))
              redirected fuel line (.cases line subject (← branches fuel))
          | token => unexpected token (some (.word []))
      | .mark "(" =>
          let body ← list fuel .body none
          wanted fuel ")"
          return .subshell line body (← redirections fuel [])
      | .mark "\x7b" =>
          let body ← list fuel .body none
          wanted fuel "\x7d"
          redirected fuel line body
      | token => unexpected token
termination_by structural fuel => fuel

def choice : (fuel : Nat) → Parse Command
  | 0 => exhausted
  | fuel + 1 => do
      let condition ← list fuel .body none
      wanted fuel "then"
      let chosen ← list fuel .body none
      let token ← next fuel false false
      if token.is "elif" then return .choice condition chosen (← choice fuel)
      else if token.is "else" then return .choice condition chosen (← list fuel .body none)
      else
        hold token
        return .choice condition chosen .nothing
termination_by structural fuel => fuel

def loop : (fuel : Nat) → (line : Nat) → (untilTrue : Bool) → Parse Command
  | 0, _, _ => exhausted
  | fuel + 1, line, untilTrue => do
      let condition ← list fuel .body none
      wanted fuel "do"
      let body ← list fuel .body none
      wanted fuel "done"
      redirected fuel line (.loop untilTrue condition body)
termination_by structural fuel => fuel

def forEach : (fuel : Nat) → (line : Nat) → Parse Command
  | 0, _ => exhausted
  | fuel + 1, line => do
      let name ← match ← next fuel false false with
        | .word word => pure (word.plain?.getD [])
        | _ => pure []
      if !Octets.isName name then fail "Bad for loop variable"
      let token ← next fuel true true
      let words ←
        if token.is "in" then do
          let words ← words fuel []
          pure (some words.reverse)
        else do
          if !token.is ";" then hold token
          pure none
      let token ← next fuel true true
      if !token.is "do" then unexpected token (some (.mark "do"))
      let body ← list fuel .body none
      wanted fuel "done"
      return .forEach line (String.ofList name) words body
termination_by structural fuel => fuel

def words : (fuel : Nat) → List Word → Parse (List Word)
  | 0, _ => exhausted
  | fuel + 1, earlier => do
      match ← next fuel false false with
      | .word word => words fuel (word :: earlier)
      | .newline => return earlier
      | token => if token.is ";" then return earlier else unexpected token
termination_by structural fuel => fuel

def branches : (fuel : Nat) → Parse (List (List Word × Command))
  | 0 => exhausted
  | fuel + 1 => do
      let token ← next fuel true true
      if token.is "esac" then return []
      let token ← if token.is "(" then next fuel false false else pure token
      let patterns ← patterns fuel token []
      let body ← list fuel .optional none
      let token ← next fuel true true
      if token.is "esac" then return [(patterns, body)]
      if !token.is ";;" then unexpected token (some (.mark ";;"))
      return (patterns, body) :: (← branches fuel)
termination_by structural fuel => fuel

def patterns : (fuel : Nat) → Token → List Word → Parse (List Word)
  | 0, _, _ => exhausted
  | fuel + 1, first, earlier => do
      let pattern : Word := match first with
        | .word word => word
        | .mark text => [.text false text.toList]
        | _ => []
      let token ← next fuel false false
      if token.is "|" then patterns fuel (← next fuel false false) (pattern :: earlier)
      else if token.is ")" then return (pattern :: earlier).reverse
      else unexpected token (some (.mark ")"))
termination_by structural fuel => fuel

def redirection : (fuel : Nat) → (stream : Nat) → Arrow → Parse Redirection
  | 0, _, _ => exhausted
  | fuel + 1, stream, arrow => do
      match ← next fuel false false, arrow with
      | .word word, .file mode => return .file stream mode word
      | .word word, .copy => return .copy stream word
      | .word word, .document indented =>
          let number := (← get).nextDocument
          let delimiter := word.flatMap fun
            | .text _ octets => octets
            | .parameter _ name _ => '$' :: name.toList
            | _ => []
          let announced := { number, delimiter, quoted := Word.isQuoted word, indented }
          modify fun source =>
            { source with announced := announced :: source.announced, nextDocument := number + 1 }
          return .document stream number
      | token, _ => unexpected token
termination_by structural fuel => fuel

def redirections : (fuel : Nat) → List Redirection → Parse (List Redirection)
  | 0, _ => exhausted
  | fuel + 1, earlier => do
      match ← next fuel false true with
      | .arrow stream arrow =>
          let redirection ← redirection fuel stream arrow
          redirections fuel (redirection :: earlier)
      | token =>
          hold token
          return earlier.reverse
termination_by structural fuel => fuel

def redirected : (fuel : Nat) → (line : Nat) → Command → Parse Command
  | 0, _, _ => exhausted
  | fuel + 1, line, command => do
      match ← redirections fuel [] with
      | [] => return command
      | redirections => return .redirected line command redirections
termination_by structural fuel => fuel

def simple : (fuel : Nat) → Simple → Parse Command
  | 0, _ => exhausted
  | fuel + 1, done => do
      match ← next fuel false false with
      | .word word =>
          match done.words, assignment? word with
          | [], some assignment =>
              simple fuel { done with assignments := assignment :: done.assignments }
          | _, _ => simple fuel { done with words := word :: done.words }
      | .arrow stream arrow =>
          let redirection ← redirection fuel stream arrow
          simple fuel { done with redirections := redirection :: done.redirections }
      | token =>
          match token.is "(", done with
          | true, { assignments := [], words := [name], redirections := [], .. } =>
              let closing ← next fuel false false
              if !closing.is ")" then unexpected closing (some (.mark ")"))
              let name := name.plain?.getD []
              if !Octets.isName name || specialBuiltins.contains (String.ofList name) then
                fail "Bad function name"
              return .function (String.ofList name) (← command fuel true)
          | _, _ =>
              hold token
              return done.command
termination_by structural fuel => fuel

end

end Parse

namespace Source

def ofOctets (rest : Octets) : Source := { rest }

def isEmpty (source : Source) : Bool :=
  source.rest.isEmpty && match source.held with
    | none | some .ending => true
    | some _ => false

def line? (source : Source) : Except ScriptError (Option Command × Source) := do
  let fuel := 32 * (source.rest.length + 8)
  if source.isEmpty then return (none, source)
  let (command, source) ← (Parse.list fuel .line none).run source
  return (some command, source)

end Source

end Superserver.Shell
