/-!
Places in a text. Readers hand on the text that is left, so a place is noted as what stands from
there on. It is shown by the line it begins in, with marks below up to where the place or the line
ends.
-/

namespace Superserver.Toml

abbrev Chars := List Char

structure Place where
  here : Chars
  after : Chars

structure Excerpt where
  line : Nat
  column : Nat
  content : Chars
  marks : Nat
deriving DecidableEq

namespace Excerpt

def ofPlace (text : Chars) (place : Place) : Excerpt :=
  let before := text.take (text.length - place.here.length)
  let column := (before.reverse.takeWhile (· != '\n')).length
  let content := (before.drop (before.length - column)) ++ place.here.takeWhile (· != '\n')
  let marked := place.here.take (place.here.length - place.after.length)
  let length := (String.ofList marked).utf8ByteSize
  { line := before.count '\n' + 1, column := column + 1, content
    marks := max 1 (min length ((String.ofList content).utf8ByteSize - column)) }

def row (count : Nat) (character : Char) : String := String.ofList (List.replicate count character)

def text (excerpt : Excerpt) : String :=
  let margin := row ((toString excerpt.line).length + 1) ' '
  let marks := row excerpt.column ' ' ++ row excerpt.marks '^'
  s!"TOML parse error at line {excerpt.line}, column {excerpt.column}\n" ++
    s!"{margin}|\n" ++
    s!"{excerpt.line} | {String.ofList excerpt.content}\n" ++
    s!"{margin}|{marks}\n"

end Excerpt

end Superserver.Toml
