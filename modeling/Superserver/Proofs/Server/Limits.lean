import Mathlib.Algebra.Group.Nat.Defs
import Mathlib.Order.Bounds.Basic
import Superserver.AdmissionLimit

/-!
The limit on workers that a server starts with. Main statement: it is the greatest number that the
ceiling and the open files both allow, and it is refused just where that number would be zero.
-/

namespace Superserver

namespace AdmissionLimit

theorem toNat_pos_iff {word : UInt64} : 0 < word.toNat ↔ word ≠ 0 :=
  UInt64.lt_iff_toNat_lt.symm.trans UInt64.pos_iff_ne_zero

theorem room_eq_zero_iff {openFiles : UInt64} : room openFiles = 0 ↔ openFiles.toNat < 6 := by
  rw [← UInt64.toNat_inj, room_toNat, UInt64.toNat_zero]
  omega

variable {ceiling openFiles : UInt64} {limit : AdmissionLimit}

theorem ofDescriptors_cases (ceiling openFiles : UInt64) :
    (ceiling = 0 ∧ ofDescriptors ceiling openFiles = .error .zero) ∨
    (ceiling ≠ 0 ∧ openFiles.toNat < 6 ∧
      ofDescriptors ceiling openFiles = .error (.tooFewDescriptors openFiles)) ∨
    (ceiling ≠ 0 ∧ 6 ≤ openFiles.toNat ∧
      ofDescriptors ceiling openFiles = .ok ⟨min ceiling (room openFiles)⟩) := by
  unfold ofDescriptors
  by_cases nobody : ceiling = 0
  · exact .inl ⟨nobody, if_pos nobody⟩
  · rw [if_neg nobody]
    by_cases few : openFiles.toNat < 6
    · exact .inr (.inl ⟨nobody, few, if_pos (room_eq_zero_iff.mpr few)⟩)
    · exact .inr (.inr ⟨nobody, Nat.le_of_not_lt few, if_neg (mt room_eq_zero_iff.mp few)⟩)

theorem workers_of_ofDescriptors (made : ofDescriptors ceiling openFiles = .ok limit) :
    0 < limit.workers.toNat ∧
      limit.workers.toNat = min ceiling.toNat ((openFiles.toNat - 4) / 2) := by
  rcases ofDescriptors_cases ceiling openFiles with ⟨_, refused⟩ | ⟨_, _, refused⟩ |
    ⟨some_worker, roomy, granted⟩
  · cases refused.symm.trans made
  · cases refused.symm.trans made
  · cases granted.symm.trans made
    have positive := toNat_pos_iff.mpr some_worker
    rw [UInt64.toNat_min, room_toNat]
    exact ⟨by omega, rfl⟩

theorem ofDescriptors_zero_iff : ofDescriptors ceiling openFiles = .error .zero ↔ ceiling = 0 := by
  rcases ofDescriptors_cases ceiling openFiles with ⟨nobody, made⟩ | ⟨some_worker, _, made⟩ |
    ⟨some_worker, _, made⟩
  · rw [made]
    simp [nobody]
  · rw [made]
    simp [some_worker]
  · rw [made]
    simp [some_worker]

theorem ofDescriptors_tooFew_iff {files : UInt64} :
    ofDescriptors ceiling openFiles = .error (.tooFewDescriptors files) ↔
      files = openFiles ∧ ceiling ≠ 0 ∧ openFiles.toNat < 6 := by
  rcases ofDescriptors_cases ceiling openFiles with ⟨nobody, made⟩ | ⟨some_worker, few, made⟩ |
    ⟨_, roomy, made⟩
  · rw [made]
    simp [nobody]
  · rw [made]
    simp [some_worker, few, eq_comm]
  · rw [made]
    simp [Nat.not_lt_of_le roomy]

theorem exists_ofDescriptors_iff :
    (∃ limit, ofDescriptors ceiling openFiles = .ok limit) ↔ ceiling ≠ 0 ∧ 6 ≤ openFiles.toNat := by
  rcases ofDescriptors_cases ceiling openFiles with ⟨nobody, made⟩ | ⟨_, few, made⟩ |
    ⟨some_worker, roomy, made⟩
  · rw [made]
    simp [nobody]
  · rw [made]
    simp [few]
  · rw [made]
    simp [some_worker, roomy]

/-- Four descriptors are set aside, and every worker takes two of the others. -/
theorem isGreatest_workers (made : ofDescriptors ceiling openFiles = .ok limit) :
    IsGreatest { workers | workers ≤ ceiling.toNat ∧ 4 + 2 * workers ≤ openFiles.toNat }
      limit.workers.toNat := by
  obtain ⟨positive, least⟩ := workers_of_ofDescriptors made
  constructor
  · constructor
    · omega
    · omega
  · rintro workers ⟨underCeiling, underFiles⟩
    omega

theorem ofDescriptors_mono {higher more : UInt64} (raised : ceiling ≤ higher)
    (extended : openFiles ≤ more) (made : ofDescriptors ceiling openFiles = .ok limit) :
    ∃ larger, ofDescriptors higher more = .ok larger ∧ limit.workers ≤ larger.workers := by
  rw [UInt64.le_iff_toNat_le] at raised extended
  obtain ⟨some_worker, roomy⟩ := exists_ofDescriptors_iff.mp ⟨limit, made⟩
  have positive := toNat_pos_iff.mpr some_worker
  obtain ⟨larger, also⟩ := exists_ofDescriptors_iff.mpr
    ⟨toNat_pos_iff.mp (Nat.lt_of_lt_of_le positive raised), Nat.le_trans roomy extended⟩
  have before := (workers_of_ofDescriptors made).2
  have after := (workers_of_ofDescriptors also).2
  refine ⟨larger, also, ?_⟩
  rw [UInt64.le_iff_toNat_le]
  omega

theorem ofSoftLimit_of_lt {soft : UInt64} (finite : soft.toNat < 2 ^ 64 - 1) :
    ofSoftLimit soft = some soft := by
  rw [ofSoftLimit, if_neg]
  rintro rfl
  exact absurd finite (by decide)

/-- The limit under a ceiling and a number of open files is the greatest number of workers that the
ceiling allows and for which, at two each, the files suffice beside the four that are set aside; the
room is that of unbounded arithmetic. There is one, never zero, just if the ceiling is not zero and
there are six files or more, and the two refusals say which is missing. More of either never lowers
it. A server starts with this limit where its soft limit is a number of files, and with the ceiling
where there is none. -/
theorem limit_is_greatest_within_bounds (ceiling openFiles : UInt64) :
    (room openFiles).toNat = (openFiles.toNat - 4) / 2 ∧
    ((∃ limit, ofDescriptors ceiling openFiles = .ok limit) ↔
      ceiling ≠ 0 ∧ 6 ≤ openFiles.toNat) ∧
    (∀ limit, ofDescriptors ceiling openFiles = .ok limit → 0 < limit.workers.toNat ∧
      IsGreatest { workers | workers ≤ ceiling.toNat ∧ 4 + 2 * workers ≤ openFiles.toNat }
        limit.workers.toNat) ∧
    (ofDescriptors ceiling openFiles = .error .zero ↔ ceiling = 0) ∧
    (∀ files, ofDescriptors ceiling openFiles = .error (.tooFewDescriptors files) ↔
      files = openFiles ∧ ceiling ≠ 0 ∧ openFiles.toNat < 6) ∧
    (∀ higher more limit, ceiling ≤ higher → openFiles ≤ more →
      ofDescriptors ceiling openFiles = .ok limit →
        ∃ larger, ofDescriptors higher more = .ok larger ∧ limit.workers ≤ larger.workers) ∧
    (openFiles.toNat < 2 ^ 64 - 1 →
      detect ceiling (ofSoftLimit openFiles) = ofDescriptors ceiling openFiles) ∧
    (openFiles.toNat = 2 ^ 64 - 1 → detect ceiling (ofSoftLimit openFiles) =
      if ceiling = 0 then .error .zero else .ok ⟨ceiling⟩) := by
  refine ⟨room_toNat openFiles, exists_ofDescriptors_iff, ?_, ofDescriptors_zero_iff,
    fun files => ofDescriptors_tooFew_iff, fun higher more limit => ofDescriptors_mono, ?_, ?_⟩
  · intro limit made
    exact ⟨(workers_of_ofDescriptors made).1, isGreatest_workers made⟩
  · intro finite
    rw [ofSoftLimit_of_lt finite]
    rfl
  · intro infinite
    have endless : openFiles = unlimited := UInt64.toNat_inj.mp infinite
    rw [endless]
    rfl

theorem limit_under_largest_words :
    let most : UInt64 := 18446744073709551615
    let files : UInt64 := 18446744073709551614
    ∃ limit, ofDescriptors most files = .ok limit ∧ limit.workers = 9223372036854775805 ∧
      IsGreatest { workers | workers ≤ most.toNat ∧ 4 + 2 * workers ≤ files.toNat }
        limit.workers.toNat ∧
      detect most (ofSoftLimit files) = .ok limit ∧ detect most (ofSoftLimit most) = .ok ⟨most⟩ ∧
      detect most (ofSoftLimit 5) = .error (.tooFewDescriptors 5) := by
  intro most files
  obtain ⟨_, granted, greatest, _, _, _, finite, _⟩ := limit_is_greatest_within_bounds most files
  obtain ⟨_, _, _, _, refused, _, scarce, _⟩ := limit_is_greatest_within_bounds most 5
  obtain ⟨_, _, _, _, _, _, _, endless⟩ := limit_is_greatest_within_bounds most most
  obtain ⟨limit, made⟩ := granted.mpr (by decide)
  have half : ofDescriptors most files = .ok ⟨9223372036854775805⟩ := by decide
  have workers : limit.workers = 9223372036854775805 := by
    cases made.symm.trans half
    rfl
  have few := (refused 5).mpr (by decide)
  exact ⟨limit, made, workers, (greatest limit made).2, (finite (by decide)).trans made,
    endless (by decide), (scarce (by decide)).trans few⟩

end AdmissionLimit

end Superserver
