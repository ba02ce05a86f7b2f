import Mathlib.Data.List.Basic
import Superserver.Proofs.Diagnostics.Solo

/-!
The pieces in which lines are told. Main statement: each piece that no newline ended stands behind
the error of a full buffer or is the last one of a worker that has exited, so a line that is told in
several pieces is longer than what a buffer may hold before it is read into.
-/

namespace Superserver

open LineBuffer

namespace Report

def piece? : Report → Option Piece
  | .line piece => some piece
  | _ => none

def isPlain : Report → Bool
  | .line piece => piece.terminated
  | .forwardFailed (.lineTooLong _) => false
  | _ => true

end Report

def pieces (reports : List Report) : List Piece := reports.filterMap Report.piece?

def spelled (pieces : List Piece) : Bytes := pieces.flatMap Piece.source

theorem spelled_pieces (reports : List Report) : spelled (pieces reports) = sources reports := by
  induction reports with
  | nil => rfl
  | cons report reports ih =>
      rw [sources_cons, ← ih]
      cases report <;> rfl

/-- Reports of one worker where each cut of a line stands behind the error that it comes from. With
`ended` the worker has exited, and they may close with the start of a line. -/
inductive Told (ended : Bool) : List Report → Prop where
  | none : Told ended []
  | plain {report : Report} {reports : List Report} :
      report.isPlain = true → Told ended reports → Told ended (report :: reports)
  | overrun {held : Bytes} {reports : List Report} :
      maxLine - readChunk < held.length → Told ended reports →
        Told ended (.forwardFailed (.lineTooLong maxLine) ::
          .line { bytes := held, terminated := false } :: reports)
  | last {held : Bytes} : ended = true → held ≠ [] →
      Told ended [.line { bytes := held, terminated := false }]

namespace Told

variable {ended : Bool} {reports : List Report}

theorem append {first second : List Report} (told : Told false first)
    (others : Told ended second) : Told ended (first ++ second) := by
  induction told with
  | none => exact others
  | plain plain _ ih => exact .plain plain ih
  | overrun long _ ih => exact .overrun long ih
  | last ends => cases ends

theorem of_plain (plain : ∀ report ∈ reports, report.isPlain = true) : Told ended reports := by
  induction reports with
  | nil => exact .none
  | cons report reports ih =>
      refine .plain (plain report List.mem_cons_self) (ih ?_)
      exact fun other member => plain other (List.mem_cons_of_mem _ member)

theorem lines (lines : List Bytes) : Told ended (Worker.lineReports lines) := by
  apply of_plain
  intro report member
  obtain ⟨bytes, _, rfl⟩ := List.mem_map.mp member
  rfl

theorem overran {waiting : Bytes} (full : Solo.isFull waiting = true) :
    Told ended (Solo.overrun waiting) := by
  have long : maxLine - readChunk < waiting.length := of_decide_eq_true full
  have some : waiting.isEmpty = false := by
    cases waiting with
    | nil => exact absurd long (Nat.not_lt_zero _)
    | cons byte waiting => rfl
  rw [Solo.overrun, Solo.rest, some, if_neg Bool.false_ne_true]
  exact .overrun long .none

theorem rest (waiting : Bytes) : Told true (Solo.rest waiting) := by
  unfold Solo.rest
  split
  · exact .none
  · rename_i some
    exact .last rfl fun none => some (List.isEmpty_iff.mpr none)

/-! ### What each report stands between -/

end Told

/-! ### The pieces of a line -/

section

variable {line other rest others : Bytes}

end

def Unbroken (told : List Piece) : Prop := ∀ piece ∈ told, Piece.newline ∉ piece.bytes

section

variable {told : List Piece} {waiting : Bytes}

theorem Unbroken.tail {piece : Piece} (unbroken : Unbroken (piece :: told)) : Unbroken told :=
  fun other member => unbroken other (List.mem_cons_of_mem _ member)

end

namespace Worker

section

variable {σ : Type} (kernel : Kernel σ) {worker : Worker}

theorem told_attend (settled : worker.buffer.Settled) (flags : PollFlags) (state : σ) :
    Told false (worker.attend kernel flags state).1.reports := by
  unfold attend
  split
  · exact .plain rfl .none
  · split
    · rcases forward_cases kernel settled state with ⟨full, result⟩ |
        ⟨error, after, _, _, result⟩ | ⟨chunk, after, _, _, result⟩
      · rw [result]
        simp only [flush_eq_rest]
        exact .overran full
      · rw [result]
        by_cases wait : isWait error
        · simp only [if_pos wait]
          exact .none
        · simp only [if_neg wait]
          exact .plain rfl .none
      · rw [result]
        by_cases empty : chunk.val.length = 0
        · simp only [if_pos empty]
          exact (Told.lines _).append (.plain rfl .none)
        · simp only [if_neg empty]
          exact .lines _
    · exact .none

end

end Worker

end Superserver
