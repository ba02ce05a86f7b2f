import Mathlib.Data.List.TakeWhile
import Superserver.Diagnostics.LineBuffer

/-!
A stretch of bytes as complete lines and the start of the next one. Main statement: a buffer gives
up exactly the complete lines of its bytes, wherever its search had stopped.
-/

namespace Superserver

namespace LineBuffer

def completeLines (bytes : Bytes) : List Bytes := (bytes.splitOn Piece.newline).dropLast

def openLine (bytes : Bytes) : Bytes :=
  (bytes.splitOn Piece.newline).getLast (List.splitOn_ne_nil _ _)

section

variable {bytes line : Bytes}

theorem completeLines_of_not_mem (unended : Piece.newline ∉ bytes) : completeLines bytes = [] := by
  simp [completeLines, List.splitOn_eq_singleton unended]

theorem openLine_of_not_mem (unended : Piece.newline ∉ bytes) : openLine bytes = bytes := by
  simp [openLine, List.splitOn_eq_singleton unended]

theorem completeLines_cons (unended : Piece.newline ∉ line) (rest : Bytes) :
    completeLines (line ++ Piece.newline :: rest) = line :: completeLines rest := by
  unfold completeLines
  rw [List.splitOn_append_cons_self_of_not_mem unended,
    List.dropLast_cons_of_ne_nil (List.splitOn_ne_nil _ _)]

theorem openLine_cons (unended : Piece.newline ∉ line) (rest : Bytes) :
    openLine (line ++ Piece.newline :: rest) = openLine rest := by
  unfold openLine
  simp only [List.splitOn_append_cons_self_of_not_mem unended]
  exact List.getLast_cons _

end

/-- A stretch is unended, or it is a line and a newline before another stretch. -/
theorem line_induction {motive : Bytes → Prop}
    (unended : ∀ bytes, Piece.newline ∉ bytes → motive bytes)
    (ended : ∀ line rest, Piece.newline ∉ line → motive rest →
      motive (line ++ Piece.newline :: rest)) (bytes : Bytes) : motive bytes := by
  generalize size : bytes.length = length
  induction length using Nat.strongRecOn generalizing bytes with
  | ind length ih =>
      by_cases found : Piece.newline ∈ bytes
      · obtain ⟨line, rest, rfl, absent⟩ := List.eq_append_cons_of_mem found
        exact ended line rest absent (ih rest.length (by simp at size; omega) rest rfl)
      · exact unended bytes found

theorem completeLines_append_openLine (bytes : Bytes) :
    (completeLines bytes).flatMap (· ++ [Piece.newline]) ++ openLine bytes = bytes := by
  induction bytes using line_induction with
  | unended bytes absent => simp [completeLines_of_not_mem absent, openLine_of_not_mem absent]
  | ended line rest absent ih =>
      rw [completeLines_cons absent, openLine_cons absent, List.flatMap_cons, List.append_assoc,
        ih]
      simp

theorem newline_not_mem_openLine (bytes : Bytes) : Piece.newline ∉ openLine bytes := by
  induction bytes using line_induction with
  | unended bytes absent => rwa [openLine_of_not_mem absent]
  | ended line rest absent ih => rwa [openLine_cons absent]

theorem newline_not_mem_of_mem_completeLines {bytes line : Bytes}
    (member : line ∈ completeLines bytes) : Piece.newline ∉ line := by
  induction bytes using line_induction with
  | unended bytes absent => simp [completeLines_of_not_mem absent] at member
  | ended first rest absent ih =>
      rw [completeLines_cons absent, List.mem_cons] at member
      rcases member with rfl | member
      · exact absent
      · exact ih member

theorem length_openLine_le (bytes : Bytes) : (openLine bytes).length ≤ bytes.length := by
  have whole := congrArg List.length (completeLines_append_openLine bytes)
  rw [List.length_append] at whole
  omega

theorem length_of_mem_completeLines {bytes line : Bytes} (member : line ∈ completeLines bytes) :
    line.length < bytes.length := by
  induction bytes using line_induction with
  | unended bytes absent => simp [completeLines_of_not_mem absent] at member
  | ended first rest absent ih =>
      rw [completeLines_cons absent, List.mem_cons] at member
      simp only [List.length_append, List.length_cons]
      rcases member with rfl | member
      · omega
      · have shorter := ih member
        omega

theorem completeLines_append (first second : Bytes) :
    completeLines (first ++ second) =
      completeLines first ++ completeLines (openLine first ++ second) := by
  induction first using line_induction with
  | unended bytes absent => simp [completeLines_of_not_mem absent, openLine_of_not_mem absent]
  | ended line rest absent ih =>
      rw [List.append_assoc, List.cons_append, completeLines_cons absent, completeLines_cons absent,
        openLine_cons absent, ih, List.cons_append]

theorem openLine_append (first second : Bytes) :
    openLine (first ++ second) = openLine (openLine first ++ second) := by
  induction first using line_induction with
  | unended bytes absent => rw [openLine_of_not_mem absent]
  | ended line rest absent ih =>
      rw [List.append_assoc, List.cons_append, openLine_cons absent, openLine_cons absent, ih]

/-! ### Buffers -/

structure Searched (buffer : LineBuffer) : Prop where
  scanned : buffer.scanned ≤ buffer.bytes.length
  absent : Piece.newline ∉ buffer.bytes.take buffer.scanned

/-- A buffer between two reads: the start of one line, not longer than a line may be. -/
structure Settled (buffer : LineBuffer) : Prop where
  scanned : buffer.scanned ≤ buffer.bytes.length
  unended : Piece.newline ∉ buffer.bytes
  fits : buffer.bytes.length ≤ maxLine

theorem settled_empty : Settled {} := ⟨Nat.le_refl 0, by simp, Nat.zero_le _⟩

theorem Settled.append {buffer : LineBuffer} (settled : buffer.Settled) (chunk : Bytes) :
    (buffer.append chunk).Searched := by
  refine ⟨?_, ?_⟩
  · have scanned := settled.scanned
    simp only [LineBuffer.append, List.length_append]
    omega
  · simp only [LineBuffer.append, List.take_append_of_le_length settled.scanned]
    exact fun member => settled.unended (List.mem_of_mem_take member)

section

variable {buffer after : LineBuffer} {line : Bytes}

theorem dropWhile_newline_eq_nil {bytes : Bytes}
    (ended : bytes.dropWhile (· != Piece.newline) = []) : Piece.newline ∉ bytes := by
  intro member
  have held := List.dropWhile_eq_nil_iff.mp ended _ member
  simp at held

theorem Searched.of_none (searched : buffer.Searched) (found : buffer.nextLine? = (none, after)) :
    Piece.newline ∉ buffer.bytes ∧ after = { buffer with scanned := buffer.bytes.length } := by
  unfold nextLine? at found
  split at found
  · rename_i ended
    simp only [Prod.mk.injEq, true_and] at found
    refine ⟨?_, found.symm⟩
    rw [← List.take_append_drop buffer.scanned buffer.bytes, List.mem_append, not_or]
    exact ⟨searched.absent, dropWhile_newline_eq_nil ended⟩
  · simp at found

theorem Searched.of_some (searched : buffer.Searched)
    (found : buffer.nextLine? = (some line, after)) :
    Piece.newline ∉ line ∧ buffer.bytes = line ++ Piece.newline :: after.bytes ∧
      after.Searched := by
  unfold nextLine? at found
  split at found
  · simp at found
  · rename_i first rest split_eq
    simp only [Prod.mk.injEq, Option.some.injEq] at found
    obtain ⟨rfl, rfl⟩ := found
    have isNewline : first = Piece.newline := by
      have head := List.head_dropWhile_not (· != Piece.newline) (l := buffer.unscanned)
        (by simp [split_eq])
      simpa [split_eq] using head
    refine ⟨?_, ?_, ⟨Nat.zero_le _, by simp⟩⟩
    · rw [List.mem_append, not_or]
      refine ⟨searched.absent, fun member => ?_⟩
      have passed := List.mem_takeWhile_imp member
      simp at passed
    · have whole := List.takeWhile_append_dropWhile (p := (· != Piece.newline))
        (l := buffer.unscanned)
      rw [split_eq, isNewline] at whole
      rw [List.append_assoc, whole]
      exact (List.take_append_drop _ _).symm

end

/-- A buffer gives up the complete lines of its bytes and keeps the open one. -/
theorem lines_eq {buffer : LineBuffer} (searched : buffer.Searched) :
    buffer.lines = (completeLines buffer.bytes,
      { bytes := openLine buffer.bytes, scanned := (openLine buffer.bytes).length }) := by
  fun_induction LineBuffer.lines buffer with
  | case1 buffer after found =>
      obtain ⟨unended, rfl⟩ := searched.of_none found
      rw [completeLines_of_not_mem unended, openLine_of_not_mem unended]
  | case2 buffer line after found others last rest ih =>
      obtain ⟨unended, whole, searchedAfter⟩ := searched.of_some found
      have taken := ih searchedAfter
      rw [rest] at taken
      simp only [Prod.mk.injEq] at taken
      rw [whole, completeLines_cons unended, openLine_cons unended, taken.1, taken.2]

end LineBuffer

end Superserver
