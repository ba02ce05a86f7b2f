import Mathlib.Data.List.Basic
import Superserver.Diagnostics.Event
import Superserver.Proofs.Text.Fields
import Superserver.Text.Utf8

/-!
Events read back from their texts. Main statement: a reader finds an event in a text exactly if that
is the event's own text. So no two events share a text, whatever peers are called and workers write.
-/

namespace Superserver

namespace Text

/-! ### Numerals in a text -/

/-- A numeral at the front, without zeros that it could do without, and the text behind it. -/
def number? (text : List Char) : Option (Nat × List Char) :=
  let digits := text.takeWhile isDigit
  let number := digitsValue digits
  if digits = Nat.toDigits 10 number then some (number, text.dropWhile isDigit) else none

theorem number?_append (number : Nat) {rest : List Char}
    (ends : ∀ character ∈ rest.head?, isDigit character = false) :
    number? (Nat.toDigits 10 number ++ rest) = some (number, rest) := by
  have numeric : ∀ digit ∈ Nat.toDigits 10 number, isDigit digit = true :=
    fun digit member => isDigit_of_mem_toDigits member
  have front : rest.takeWhile isDigit = [] ∧ rest.dropWhile isDigit = rest := by
    cases rest with
    | nil => exact ⟨rfl, rfl⟩
    | cons character rest =>
        have other : isDigit character = false := ends character rfl
        simp [other]
  rw [number?, List.takeWhile_append_of_pos numeric, List.dropWhile_append_of_pos numeric, front.1,
    front.2, List.append_nil, digitsValue_toDigits, if_pos rfl]

theorem number?_toDigits (number : Nat) : number? (Nat.toDigits 10 number) = some (number, []) := by
  have read := number?_append number (by simp : ∀ character ∈ ([] : List Char).head?, _)
  rwa [List.append_nil] at read

theorem append_of_number? {text rest : List Char} {number : Nat}
    (read : number? text = some (number, rest)) : text = Nat.toDigits 10 number ++ rest := by
  simp only [number?] at read
  split at read
  · rename_i numeral
    cases read
    rw [← numeral, List.takeWhile_append_dropWhile]
  · cases read

def integer? (text : List Char) : Option Int :=
  match text with
  | '-' :: digits =>
      match number? digits with
      | some (number + 1, []) => some (.negSucc number)
      | _ => none
  | digits =>
      match number? digits with
      | some (number, []) => some (.ofNat number)
      | _ => none

/-- A numeral begins with a digit. -/
theorem exists_digit_cons (number : Nat) :
    ∃ digit digits, Nat.toDigits 10 number = digit :: digits ∧ isDigit digit = true := by
  obtain ⟨digit, digits, shape⟩ := List.exists_cons_of_ne_nil (Nat.toDigits_ne_nil (n := number))
  exact ⟨digit, digits, shape, isDigit_of_mem_toDigits (shape ▸ List.mem_cons_self ..)⟩

theorem integer?_toString (value : Int) : integer? (toString value).toList = some value := by
  cases value with
  | ofNat number =>
      have read := number?_toDigits number
      obtain ⟨digit, digits, shape, numeric⟩ := exists_digit_cons number
      have minus : digit ≠ '-' := by
        rintro rfl
        cases numeric
      have written : (toString (Int.ofNat number)).toList = digit :: digits :=
        (toList_nat number).trans shape
      rw [shape] at read
      rw [written, integer?]
      · rw [read]
      · simp [minus]
  | negSucc number =>
      rw [toList_negSucc, integer?, number?_toDigits]

theorem toString_of_integer? {text : List Char} {value : Int}
    (read : integer? text = some value) : text = (toString value).toList := by
  unfold integer? at read
  split at read
  · split at read
    · rename_i number numeral
      cases read
      rw [toList_negSucc, append_of_number? numeral, List.append_nil]
    · cases read
  · split at read
    · rename_i number numeral
      cases read
      rw [append_of_number? numeral, List.append_nil]
      exact (toList_nat number).symm
    · cases read

/-! ### Words around a text -/

theorem dropPrefix?_append (word rest : List Char) : (word ++ rest).dropPrefix? word = some rest :=
  List.dropPrefix?_append_of_beq rest (beq_self_eq_true word)

theorem dropSuffix?_append (text word : List Char) : (text ++ word).dropSuffix? word = some text :=
  List.dropSuffix?_eq_some_iff.mpr ⟨word, rfl, beq_self_eq_true word⟩

theorem append_of_dropPrefix? {text word rest : List Char}
    (found : text.dropPrefix? word = some rest) : text = word ++ rest := by
  obtain ⟨front, same, equal⟩ := List.dropPrefix?_eq_some_iff.mp found
  rw [same, eq_of_beq equal]

theorem append_of_dropSuffix? {text word rest : List Char}
    (found : text.dropSuffix? word = some rest) : text = rest ++ word := by
  obtain ⟨back, same, equal⟩ := List.dropSuffix?_eq_some_iff.mp found
  rw [same, eq_of_beq equal]

theorem not_digit_of_blank {text : List Char} (blank : text.head? = some ' ') (rest : List Char) :
    ∀ character ∈ (text ++ rest).head?, isDigit character = false := by
  intro character first
  rw [List.head?_append, blank] at first
  cases first
  rfl

/-- A text that begins with a digit does not begin with a word. -/
theorem dropPrefix?_digits (number : Nat) {first : Char} (other : isDigit first = false)
    (word rest : List Char) :
    (Nat.toDigits 10 number ++ rest).dropPrefix? (first :: word) = none := by
  obtain ⟨digit, digits, shape, numeric⟩ := exists_digit_cons number
  have differ : (digit == first) = false := by
    rw [beq_eq_false_iff_ne]
    rintro rfl
    rw [other] at numeric
    cases numeric
  rw [shape, List.cons_append, List.dropPrefix?, differ]
  rfl

end Text

namespace Event

open Text

/-! ### The reader -/

def deed? (pid : Pid) (text : List Char) : Option Event :=
  match text.dropPrefix? " created (".toList with
  | some rest =>
      (rest.dropSuffix? ")".toList).map fun remote => .created pid (String.ofList remote)
  | none =>
      match text.dropPrefix? " exited (".toList with
      | some rest => ((rest.dropSuffix? ")".toList).bind integer?).map (.exited pid)
      | none => if text = " has a pipe error".toList then some (.pipeError pid) else none

def saying? (text : List Char) : Option (Pid × String) := do
  let (pid, rest) ← number? text
  let said ← rest.dropPrefix? ": ".toList
  return (pid, String.ofList said)

/-- The event that a line tells. -/
def read? (line : String) : Option Event :=
  match line.toList.dropPrefix? "Process ".toList with
  | some rest => do
      let (pid, rest) ← number? rest
      deed? pid rest
  | none =>
      match line.toList.dropPrefix? "Could not forward I/O for process ".toList with
      | some rest => (saying? rest).map fun (pid, reason) => .forwardFailed pid reason
      | none => (saying? line.toList).map fun (pid, text) => .line pid text

/-! ### Texts in parts -/

theorem text_created (pid : Pid) (remote : String) :
    (created pid remote).text.toList =
      "Process ".toList ++ (Nat.toDigits 10 pid ++
        (" created (".toList ++ (remote.toList ++ ")".toList))) := by
  have parts : (created pid remote).text =
      "Process " ++ toString pid ++ " created (" ++ remote ++ ")" := rfl
  rw [parts]
  simp only [String.toList_append, toList_nat, List.append_assoc]

theorem text_exited (pid : Pid) (status : Int) :
    (exited pid status).text.toList =
      "Process ".toList ++ (Nat.toDigits 10 pid ++
        (" exited (".toList ++ ((toString status).toList ++ ")".toList))) := by
  have parts : (exited pid status).text =
      "Process " ++ toString pid ++ " exited (" ++ toString status ++ ")" := rfl
  rw [parts]
  simp only [String.toList_append, toList_nat, List.append_assoc]

theorem text_pipeError (pid : Pid) :
    (pipeError pid).text.toList =
      "Process ".toList ++ (Nat.toDigits 10 pid ++ " has a pipe error".toList) := by
  have parts : (pipeError pid).text = "Process " ++ toString pid ++ " has a pipe error" := rfl
  rw [parts]
  simp only [String.toList_append, toList_nat, List.append_assoc]

theorem text_forwardFailed (pid : Pid) (reason : String) :
    (forwardFailed pid reason).text.toList =
      "Could not forward I/O for process ".toList ++
        (Nat.toDigits 10 pid ++ (": ".toList ++ reason.toList)) := by
  have parts : (forwardFailed pid reason).text =
      "Could not forward I/O for process " ++ toString pid ++ ": " ++ reason := rfl
  rw [parts]
  simp only [String.toList_append, toList_nat, List.append_assoc]

theorem text_line (pid : Pid) (said : String) :
    (line pid said).text.toList = Nat.toDigits 10 pid ++ (": ".toList ++ said.toList) := by
  have parts : (line pid said).text = toString pid ++ ": " ++ said := rfl
  rw [parts]
  simp only [String.toList_append, toList_nat, List.append_assoc]

/-! ### Reading texts -/

theorem saying?_append (pid : Pid) (said : String) :
    saying? (Nat.toDigits 10 pid ++ (": ".toList ++ said.toList)) = some (pid, said) := by
  have colon : ∀ character ∈ (": ".toList ++ said.toList).head?, isDigit character = false := by
    rintro character ⟨⟩
    rfl
  rw [saying?, number?_append pid colon, Option.bind_eq_bind, Option.bind_some]
  dsimp only
  rw [dropPrefix?_append, Option.bind_eq_bind, Option.bind_some, String.ofList_toList]
  rfl

theorem deed?_created (pid : Pid) (remote : String) :
    deed? pid (" created (".toList ++ (remote.toList ++ ")".toList)) =
      some (.created pid remote) := by
  rw [deed?, dropPrefix?_append]
  dsimp only
  rw [dropSuffix?_append, Option.map_some, String.ofList_toList]

theorem deed?_exited (pid : Pid) (status : Int) :
    deed? pid (" exited (".toList ++ ((toString status).toList ++ ")".toList)) =
      some (.exited pid status) := by
  have other : (" exited (".toList ++ ((toString status).toList ++ ")".toList)).dropPrefix?
      " created (".toList = none := rfl
  rw [deed?, other]
  dsimp only
  rw [dropPrefix?_append]
  dsimp only
  rw [dropSuffix?_append, Option.bind_some, integer?_toString, Option.map_some]

theorem deed?_pipeError (pid : Pid) :
    deed? pid " has a pipe error".toList = some (.pipeError pid) := rfl

theorem read?_text (event : Event) : read? event.text = some event := by
  cases event with
  | created pid remote =>
      rw [read?, text_created, dropPrefix?_append]
      dsimp only
      rw [number?_append pid (not_digit_of_blank rfl _), Option.bind_eq_bind, Option.bind_some]
      exact deed?_created pid remote
  | exited pid status =>
      rw [read?, text_exited, dropPrefix?_append]
      dsimp only
      rw [number?_append pid (not_digit_of_blank rfl _), Option.bind_eq_bind, Option.bind_some]
      exact deed?_exited pid status
  | line pid said =>
      have unnamed : ∀ rest : List Char,
          (Nat.toDigits 10 pid ++ rest).dropPrefix? "Process ".toList = none :=
        dropPrefix?_digits pid (by rfl) _
      have unfailed : ∀ rest : List Char, (Nat.toDigits 10 pid ++ rest).dropPrefix?
          "Could not forward I/O for process ".toList = none :=
        dropPrefix?_digits pid (by rfl) _
      rw [read?, text_line, unnamed, unfailed]
      dsimp only
      rw [saying?_append]
      rfl
  | pipeError pid =>
      have blank : ∀ character ∈ " has a pipe error".toList.head?, isDigit character = false := by
        rintro character ⟨⟩
        rfl
      rw [read?, text_pipeError, dropPrefix?_append]
      dsimp only
      rw [number?_append pid blank, Option.bind_eq_bind, Option.bind_some]
      exact deed?_pipeError pid
  | forwardFailed pid reason =>
      have unnamed : ("Could not forward I/O for process ".toList ++
          (Nat.toDigits 10 pid ++ (": ".toList ++ reason.toList))).dropPrefix? "Process ".toList =
            none := rfl
      rw [read?, text_forwardFailed, unnamed]
      dsimp only
      rw [dropPrefix?_append]
      dsimp only
      rw [saying?_append]
      rfl

/-! ### Nothing else is read -/

theorem append_of_saying? {text : List Char} {pid : Pid} {said : String}
    (read : saying? text = some (pid, said)) :
    text = Nat.toDigits 10 pid ++ (": ".toList ++ said.toList) := by
  simp only [saying?, Option.bind_eq_bind, Option.bind_eq_some_iff] at read
  obtain ⟨⟨number, rest⟩, numeral, behind, colon, same⟩ := read
  cases same
  dsimp only at colon ⊢
  rw [append_of_number? numeral, append_of_dropPrefix? colon,
    String.toList_ofList (l := behind)]

theorem text_of_deed? {pid : Pid} {rest : List Char} {event : Event}
    (read : deed? pid rest = some event) :
    event.text.toList = "Process ".toList ++ (Nat.toDigits 10 pid ++ rest) := by
  unfold deed? at read
  split at read
  · rename_i behind found
    obtain ⟨remote, closed, rfl⟩ := Option.map_eq_some_iff.mp read
    rw [text_created, append_of_dropPrefix? found, append_of_dropSuffix? closed,
      String.toList_ofList (l := remote)]
  · split at read
    · rename_i behind found
      obtain ⟨status, inner, rfl⟩ := Option.map_eq_some_iff.mp read
      obtain ⟨numeral, closed, value⟩ := Option.bind_eq_some_iff.mp inner
      rw [text_exited, append_of_dropPrefix? found, append_of_dropSuffix? closed,
        toString_of_integer? value]
    · split at read
      · rename_i words
        cases read
        rw [text_pipeError, words]
      · cases read

theorem text_of_read? {line : String} {event : Event} (read : read? line = some event) :
    event.text = line := by
  apply String.toList_inj.mp
  unfold read? at read
  split at read
  · rename_i behind found
    obtain ⟨⟨pid, rest⟩, numeral, told⟩ := Option.bind_eq_some_iff.mp read
    rw [text_of_deed? told, append_of_dropPrefix? found, append_of_number? numeral]
  · split at read
    · rename_i behind found
      obtain ⟨⟨pid, reason⟩, said, rfl⟩ := Option.map_eq_some_iff.mp read
      rw [text_forwardFailed, append_of_dropPrefix? found, append_of_saying? said]
    · obtain ⟨⟨pid, said⟩, told, rfl⟩ := Option.map_eq_some_iff.mp read
      rw [text_line, append_of_saying? told]

theorem read?_eq_some_iff {line : String} {event : Event} :
    read? line = some event ↔ event.text = line := by
  constructor
  · exact text_of_read?
  · rintro rfl
    exact read?_text event

/-- A line tells an event exactly if it is that event's text: the kind, the number and what is said
are read back from it. So two events with one text are one event, and nothing that a worker writes
makes the line look like another kind of event. -/
theorem texts_tell_events_apart :
    (∀ (text : String) (event : Event), read? text = some event ↔ event.text = text) ∧
    (∀ one other : Event, one.text = other.text ↔ one = other) ∧
    ∀ (pid other : Pid) (written : Bytes) (remote reason : String) (status : Int),
      let told := (line pid (Utf8.decodeLossy written)).text
      told ≠ (created other remote).text ∧ told ≠ (exited other status).text ∧
        told ≠ (pipeError other).text ∧ told ≠ (forwardFailed other reason).text := by
  have same : ∀ one other : Event, one.text = other.text ↔ one = other := by
    intro one other
    constructor
    · intro alike
      have read := read?_text one
      rw [alike, read?_text other] at read
      exact (Option.some.inj read).symm
    · rintro rfl
      rfl
  refine ⟨fun text event => read?_eq_some_iff, same, ?_⟩
  intro pid other written remote reason status told
  simp only [told, ne_eq, same]
  simp

example : read? "7: Process 7 exited (0)" = some (.line 7 "Process 7 exited (0)") := by decide

end Event

end Superserver
