import Superserver.Proofs.Diagnostics.Lines

/-!
A buffer against one that forgets where its search stopped. Main statement: whatever is called on a
buffer, in whatever order, the answers and the bytes are those of a search that starts anew.
-/

namespace Superserver

namespace LineBuffer

/-- One call on a buffer. Every fill has a reader of its own, and the readers share a state. -/
inductive Use (σ : Type) where
  | fill (reader : Reader σ)
  | nextLine
  | takeRemainder

inductive Given where
  | filled (result : Except ForwardError Nat)
  | line (piece : Option Piece)
  | remainder (piece : Option Piece)
deriving DecidableEq

structure Used (β σ : Type) where
  given : List Given
  buffer : β
  state : σ

def useAll (call : Use σ → β → σ → Given × β × σ) : List (Use σ) → β → σ → Used β σ
  | [], buffer, state => ⟨[], buffer, state⟩
  | use :: uses, buffer, state =>
      let (given, buffer, state) := call use buffer state
      let rest := useAll call uses buffer state
      { rest with given := given :: rest.given }

def ended (line : Bytes) : Piece := ⟨line, true⟩

def unended (line : Bytes) : Piece := ⟨line, false⟩

def call : Use σ → LineBuffer → σ → Given × LineBuffer × σ
  | .fill reader, buffer, state =>
      let (result, buffer, state) := buffer.fill reader state
      (.filled result, buffer, state)
  | .nextLine, buffer, state =>
      let (line, buffer) := buffer.nextLine?
      (.line (line.map ended), buffer, state)
  | .takeRemainder, buffer, state =>
      let (rest, buffer) := buffer.takeRemainder
      (.remainder (rest.map unended), buffer, state)

/-! ### The search that starts anew -/

def firstLine? : Bytes → Option (Bytes × Bytes)
  | [] => none
  | byte :: bytes =>
      if byte = Piece.newline then some ([], bytes)
      else (firstLine? bytes).map fun (line, rest) => (byte :: line, rest)

/-- The calls on bare bytes, which hold nothing that could go stale. -/
def callAnew : Use σ → Bytes → σ → Given × Bytes × σ
  | .fill reader, bytes, state =>
      if maxLine - readChunk < bytes.length then
        (.filled (.error (.lineTooLong maxLine)), bytes, state)
      else
        match reader readChunk state with
        | (.error error, state) => (.filled (.error (.read error)), bytes, state)
        | (.ok chunk, state) => (.filled (.ok chunk.val.length), bytes ++ chunk.val, state)
  | .nextLine, bytes, state =>
      match firstLine? bytes with
      | none => (.line none, bytes, state)
      | some (line, rest) => (.line (some (ended line)), rest, state)
  | .takeRemainder, bytes, state =>
      (.remainder (if bytes = [] then none else some (unended bytes)), [], state)

theorem firstLine?_of_not_mem {bytes : Bytes} (absent : Piece.newline ∉ bytes) :
    firstLine? bytes = none := by
  induction bytes with
  | nil => rfl
  | cons byte bytes ih =>
      rw [List.mem_cons, not_or] at absent
      rw [firstLine?, if_neg (Ne.symm absent.1), ih absent.2, Option.map_none]

theorem firstLine?_append {line : Bytes} (absent : Piece.newline ∉ line) (rest : Bytes) :
    firstLine? (line ++ Piece.newline :: rest) = some (line, rest) := by
  induction line with
  | nil => simp [firstLine?]
  | cons byte line ih =>
      rw [List.mem_cons, not_or] at absent
      rw [List.cons_append, firstLine?, if_neg (Ne.symm absent.1), ih absent.2, Option.map_some]

/-- The plain search finds the shortest stretch before a newline, if there is one. -/
theorem firstLine?_eq_some_iff {bytes line rest : Bytes} :
    firstLine? bytes = some (line, rest) ↔
      Piece.newline ∉ line ∧ bytes = line ++ Piece.newline :: rest := by
  constructor
  · intro found
    by_cases member : Piece.newline ∈ bytes
    · obtain ⟨first, after, rfl, absent⟩ := List.eq_append_cons_of_mem member
      rw [firstLine?_append absent, Option.some.injEq, Prod.mk.injEq] at found
      obtain ⟨rfl, rfl⟩ := found
      exact ⟨absent, rfl⟩
    · rw [firstLine?_of_not_mem member] at found
      cases found
  · rintro ⟨absent, rfl⟩
    exact firstLine?_append absent rest

/-! ### One call -/

/-- What holds of a buffer after any calls: the search has not passed a newline, and no more was
read than may wait for the end of a line. -/
structure Tidy (buffer : LineBuffer) : Prop extends Searched buffer where
  fits : buffer.bytes.length ≤ maxLine

theorem tidy_empty : Tidy {} := ⟨⟨Nat.le_refl 0, by simp⟩, Nat.zero_le _⟩

section

variable {buffer : LineBuffer}

theorem Searched.append (searched : buffer.Searched) (chunk : Bytes) :
    (buffer.append chunk).Searched := by
  obtain ⟨scanned, absent⟩ := searched
  refine ⟨?_, ?_⟩
  · simp only [LineBuffer.append, List.length_append]
    omega
  · simpa only [LineBuffer.append, List.take_append_of_le_length scanned] using absent

/-- Three things can come of a fill. Only the last one changes the buffer, and the first one is the
same for every reader. -/
theorem fill_cases (reader : Reader σ) (buffer : LineBuffer) (state : σ) :
    (maxLine - readChunk < buffer.bytes.length ∧
      buffer.fill reader state = (.error (.lineTooLong maxLine), buffer, state)) ∨
    (buffer.bytes.length ≤ maxLine - readChunk ∧
      ((∃ error after, reader readChunk state = (.error error, after) ∧
        buffer.fill reader state = (.error (.read error), buffer, after)) ∨
      ∃ chunk after, reader readChunk state = (.ok chunk, after) ∧
        buffer.fill reader state = (.ok chunk.val.length, buffer.append chunk.val, after))) := by
  by_cases full : maxLine - readChunk < buffer.bytes.length
  · exact .inl ⟨full, by simp [fill, isFull, length, full]⟩
  · refine .inr ⟨Nat.le_of_not_lt full, ?_⟩
    rcases asked : reader readChunk state with ⟨error | chunk, after⟩
    · exact .inl ⟨error, after, rfl, by simp [fill, isFull, length, full, asked]⟩
    · exact .inr ⟨chunk, after, rfl, by simp [fill, isFull, length, full, asked]⟩

/-- Wherever the search had stopped, it finds what a search from the first byte finds. -/
theorem Searched.nextLine?_cases (searched : buffer.Searched) :
    (firstLine? buffer.bytes = none ∧
      buffer.nextLine? = (none, { buffer with scanned := buffer.bytes.length }) ∧
      Piece.newline ∉ buffer.bytes) ∨
    ∃ line after, firstLine? buffer.bytes = some (line, after.bytes) ∧
      buffer.nextLine? = (some line, after) ∧ after.Searched ∧
      after.bytes.length < buffer.bytes.length := by
  rcases found : buffer.nextLine? with ⟨_ | line, after⟩
  · obtain ⟨absent, rfl⟩ := searched.of_none found
    exact .inl ⟨firstLine?_of_not_mem absent, rfl, absent⟩
  · obtain ⟨absent, whole, searchedAfter⟩ := searched.of_some found
    exact .inr ⟨line, after, firstLine?_eq_some_iff.mpr ⟨absent, whole⟩, rfl, searchedAfter,
      length_nextLine?_lt found⟩

theorem takeRemainder_eq (buffer : LineBuffer) :
    buffer.takeRemainder.1.map unended =
        (if buffer.bytes = [] then none else some (unended buffer.bytes)) ∧
      buffer.takeRemainder.2.bytes = [] := by
  by_cases empty : buffer.bytes = []
  · simp [takeRemainder, empty]
  · simp [takeRemainder, empty]

theorem Tidy.takeRemainder (tidy : buffer.Tidy) : buffer.takeRemainder.2.Tidy := by
  unfold LineBuffer.takeRemainder
  split
  · exact tidy
  · exact tidy_empty

/-- One call gives the same as anew, leaves the same bytes and state, and leaves a tidy buffer. -/
theorem Tidy.call_agrees (tidy : buffer.Tidy) (use : Use σ) (state : σ) :
    callAnew use buffer.bytes state =
        ((call use buffer state).1, (call use buffer state).2.1.bytes, (call use buffer state).2.2) ∧
      (call use buffer state).2.1.Tidy := by
  cases use with
  | fill reader =>
      rcases fill_cases reader buffer state with
        ⟨full, filled⟩ | ⟨room, ⟨error, after, asked, filled⟩ | ⟨chunk, after, asked, filled⟩⟩
      · simp only [call, callAnew, filled, if_pos full]
        exact ⟨trivial, tidy⟩
      · simp only [call, callAnew, filled, asked, if_neg (Nat.not_lt.mpr room)]
        exact ⟨trivial, tidy⟩
      · simp only [call, callAnew, filled, asked, if_neg (Nat.not_lt.mpr room)]
        refine ⟨rfl, tidy.toSearched.append chunk.val, ?_⟩
        -- The chunk is as long as was asked for, and that much room is always kept.
        have short := chunk.property
        simp only [LineBuffer.append, List.length_append]
        simp only [maxLine, readChunk] at room short ⊢
        omega
  | nextLine =>
      rcases tidy.toSearched.nextLine?_cases with
        ⟨missing, next, absent⟩ | ⟨line, after, found, next, searched, shorter⟩
      · simp only [call, callAnew, missing, next]
        exact ⟨rfl, ⟨Nat.le_refl _, by simpa using absent⟩, tidy.fits⟩
      · simp only [call, callAnew, found, next]
        exact ⟨rfl, searched, shorter.le.trans tidy.fits⟩
  | takeRemainder =>
      obtain ⟨taken, left⟩ := takeRemainder_eq buffer
      simp only [call, callAnew, taken, left]
      exact ⟨trivial, tidy.takeRemainder⟩

end

/-! ### Any number of calls -/

/-- Induction on the calls that are still to come, from any buffer that earlier ones left tidy. -/
theorem Tidy.useAll_agrees {buffer : LineBuffer} (tidy : buffer.Tidy) (uses : List (Use σ))
    (state : σ) :
    useAll callAnew uses buffer.bytes state =
        ⟨(useAll call uses buffer state).given, (useAll call uses buffer state).buffer.bytes,
          (useAll call uses buffer state).state⟩ ∧
      (useAll call uses buffer state).buffer.Tidy := by
  induction uses generalizing buffer state with
  | nil => exact ⟨rfl, tidy⟩
  | cons use uses ih =>
      obtain ⟨agrees, tidyAfter⟩ := tidy.call_agrees use state
      obtain ⟨agreesRest, tidyRest⟩ := ih tidyAfter (call use buffer state).2.2
      simp only [useAll]
      rw [agrees, agreesRest]
      exact ⟨rfl, tidyRest⟩

/-- After any calls on an empty buffer everything given so far, the bytes and the readers' state are
those of the search that starts anew, and so is what the next line or the remainder will be. A fill
that fails leaves the buffer alone, and one that would pass the longest line does not ask. -/
theorem resumed_search_is_plain_search (uses : List (Use σ)) (state : σ) :
    let resumed := useAll call uses {} state
    let anew := useAll callAnew uses [] state
    let buffer := resumed.buffer
    anew = ⟨resumed.given, buffer.bytes, resumed.state⟩ ∧
    (buffer.scanned ≤ buffer.bytes.length ∧
      Piece.newline ∉ buffer.bytes.take buffer.scanned ∧ buffer.bytes.length ≤ maxLine) ∧
    (buffer.nextLine?.1, buffer.nextLine?.2.bytes) =
      (match firstLine? buffer.bytes with
        | none => (none, buffer.bytes)
        | some (line, rest) => (some line, rest)) ∧
    (buffer.takeRemainder.1.map fun rest => (unended rest).text) =
      (if buffer.bytes = [] then none else some (Utf8.decodeLossy buffer.bytes)) ∧
    ∀ (reader : Reader σ) (now : σ),
      (maxLine - readChunk < buffer.bytes.length ∧
        buffer.fill reader now = (.error (.lineTooLong maxLine), buffer, now)) ∨
      (∃ error after, reader readChunk now = (.error error, after) ∧
        buffer.fill reader now = (.error (.read error), buffer, after)) ∨
      ∃ chunk after, reader readChunk now = (.ok chunk, after) ∧
        buffer.fill reader now = (.ok chunk.val.length, buffer.append chunk.val, after) := by
  intro resumed anew buffer
  obtain ⟨agrees, tidy⟩ := tidy_empty.useAll_agrees uses state
  refine ⟨agrees, ⟨tidy.scanned, tidy.absent, tidy.fits⟩, ?_, ?_, ?_⟩
  · rcases tidy.toSearched.nextLine?_cases with
      ⟨missing, next, -⟩ | ⟨line, left, found, next, -, -⟩
    · simp only [buffer, resumed, missing, next]
    · simp only [buffer, resumed, found, next]
  · have taken := congrArg (Option.map Piece.text) (takeRemainder_eq buffer).1
    rw [Option.map_map] at taken
    rw [show (fun rest => (unended rest).text) = Piece.text ∘ unended from rfl, taken]
    split <;> rfl
  · intro reader now
    rcases fill_cases reader buffer now with full | ⟨-, failed | filled⟩
    · exact .inl full
    · exact .inr (.inl failed)
    · exact .inr (.inr filled)

end LineBuffer

end Superserver
