import Superserver.Proofs.Text.Numerals

/-!
Words and numbers in a text. Main statements: the words of a text are the fields that white space
sets apart, and a field is read as a number just if it is a numeral of the number, which may have a
plus sign and zeros in front, and the number is within the bound.
-/

namespace Superserver.Text

/-! ### Fields -/

/-- A text that is fields with white space between them, and perhaps around them. -/
inductive Spaced : List Char → List (List Char) → Prop where
  | done : Spaced [] []
  | blank {character : Char} {text : List Char} {fields : List (List Char)} :
      isBlank character = true → Spaced text fields → Spaced (character :: text) fields
  | field {field rest : List Char} {fields : List (List Char)} :
      field ≠ [] → (∀ character ∈ field, isBlank character = false) →
        (∀ character ∈ rest.head?, isBlank character = true) → Spaced rest fields →
        Spaced (field ++ rest) (field :: fields)

theorem words_of_blank {character : Char} (blank : isBlank character = true) (text : List Char) :
    words (character :: text) = words text := by
  rw [words, pieces, if_pos blank, List.filter_cons_of_neg (by simp), words]

theorem words_of_field {field rest : List Char} (some_ : field ≠ [])
    (free : ∀ character ∈ field, isBlank character = false)
    (ends : ∀ character ∈ rest.head?, isBlank character = true) :
    words (field ++ rest) = field :: words rest := by
  have kept : ∀ others : List (List Char),
      (field :: others).filter (!·.isEmpty) = field :: others.filter (!·.isEmpty) :=
    fun others => List.filter_cons_of_pos (by simpa using some_)
  cases rest with
  | nil =>
      rw [List.append_nil, words, pieces_eq_splitOnP, List.splitOnP_eq_singleton free, kept]
      rfl
  | cons character rest =>
      have blank : isBlank character = true := ends character rfl
      rw [words_of_blank blank, words, pieces_eq_splitOnP,
        List.splitOnP_append_cons_of_forall_mem free _ blank, kept, ← pieces_eq_splitOnP]
      rfl

theorem words_of_spaced {text : List Char} {fields : List (List Char)}
    (spaced : Spaced text fields) : words text = fields := by
  induction spaced with
  | done => rfl
  | blank blank _ ih => rw [words_of_blank blank, ih]
  | field some_ free ends _ ih => rw [words_of_field some_ free ends, ih]

/-- A character that is no white space begins a field or makes the first one longer. -/
theorem Spaced.cons_other {text : List Char} {fields : List (List Char)}
    (spaced : Spaced text fields) {character : Char} (other : isBlank character = false) :
    ∃ fields, Spaced (character :: text) fields := by
  have alone : (∀ first ∈ text.head?, isBlank first = true) →
      Spaced ([character] ++ text) ([character] :: fields) :=
    fun ends => .field (by simp) (by simpa using other) ends spaced
  cases spaced with
  | done => exact ⟨_, alone (by simp)⟩
  | blank blank _ => exact ⟨_, alone (by simpa using blank)⟩
  | @field field rest fields some_ free ends spaced =>
      have longer : ∀ letter ∈ character :: field, isBlank letter = false :=
        List.forall_mem_cons.mpr ⟨other, free⟩
      exact ⟨_, .field (List.cons_ne_nil character field) longer ends spaced⟩

theorem exists_spaced (text : List Char) : ∃ fields, Spaced text fields := by
  induction text with
  | nil => exact ⟨[], .done⟩
  | cons character text ih =>
      obtain ⟨fields, spaced⟩ := ih
      cases blank : isBlank character with
      | true => exact ⟨fields, .blank blank spaced⟩
      | false => exact spaced.cons_other blank

theorem words_eq_iff {text : List Char} {fields : List (List Char)} :
    words text = fields ↔ Spaced text fields := by
  constructor
  · rintro rfl
    obtain ⟨fields, spaced⟩ := exists_spaced text
    rwa [words_of_spaced spaced]
  · exact words_of_spaced

/-! ### Numbers -/

/-- A number in decimal digits, perhaps with zeros and a plus sign in front. -/
inductive Numeral (number : Nat) : List Char → Prop where
  | bare (zeros : Nat) : Numeral number (List.replicate zeros '0' ++ Nat.toDigits 10 number)
  | signed (zeros : Nat) :
      Numeral number ('+' :: (List.replicate zeros '0' ++ Nat.toDigits 10 number))

theorem numeric_of_readDigits {bound value number : Nat} {overflow : IntegerError}
    {digits : List Char} (read : readDigits bound overflow value digits = .ok number)
    (small : value ≤ bound) :
    (∀ digit ∈ digits, isDigit digit = true) ∧ number ≤ bound ∧
      number = digits.foldl (fun value digit => value * 10 + digitValue digit) value := by
  induction digits generalizing value with
  | nil =>
      cases read
      exact ⟨by simp, small, rfl⟩
  | cons digit digits ih =>
      rw [readDigits] at read
      split at read
      · rename_i numeric
        dsimp only at read
        split at read
        · rename_i within
          obtain ⟨others, bounded, value⟩ := ih read within
          exact ⟨List.forall_mem_cons.mpr ⟨numeric, others⟩, bounded, value⟩
        · cases read
      · cases read

theorem readDigits_eq_ok_iff {bound number : Nat} {overflow : IntegerError} {digits : List Char}
    (some_ : digits ≠ []) :
    readDigits bound overflow 0 digits = .ok number ↔
      number ≤ bound ∧ ∃ zeros, digits = List.replicate zeros '0' ++ Nat.toDigits 10 number := by
  constructor
  · intro read
    obtain ⟨numeric, small, value⟩ := numeric_of_readDigits read (Nat.zero_le bound)
    have value : number = digitsValue digits := value
    rw [value] at small ⊢
    exact ⟨small, exists_zeros_of_numeric some_ numeric⟩
  · rintro ⟨small, zeros, rfl⟩
    have value := digitsValue_numeral zeros number
    unfold digitsValue at value
    rw [readDigits_of_le (fun digit member => isDigit_of_mem_numeral member) (by omega), value]

theorem numeral_ne_nil (zeros number : Nat) :
    List.replicate zeros '0' ++ Nat.toDigits 10 number ≠ [] := by
  simp

theorem plus_not_mem_numeral (zeros number : Nat) :
    '+' ∉ List.replicate zeros '0' ++ Nat.toDigits 10 number := by
  intro member
  cases isDigit_of_mem_numeral member

theorem readUnsigned_of_unsigned {bound : Nat} {text : List Char} (some_ : text ≠ [])
    (unsigned : '+' ∉ text) : readUnsigned bound text = readDigits bound .tooLarge 0 text := by
  rw [readUnsigned]
  · exact some_
  · rintro rfl
    exact unsigned (List.mem_cons_self ..)
  · rintro digits rfl
    exact unsigned (List.mem_cons_self ..)

theorem readUnsigned_eq_ok_iff {bound number : Nat} {text : List Char} :
    readUnsigned bound text = .ok number ↔ number ≤ bound ∧ Numeral number text := by
  constructor
  · intro read
    unfold readUnsigned at read
    split at read
    · cases read
    · cases read
    · rename_i digits alone
      have some_ : digits ≠ [] := by
        rintro rfl
        exact alone rfl
      obtain ⟨small, zeros, rfl⟩ := (readDigits_eq_ok_iff some_).mp read
      exact ⟨small, .signed zeros⟩
    · rename_i some_ _ _
      obtain ⟨small, zeros, rfl⟩ := (readDigits_eq_ok_iff some_).mp read
      exact ⟨small, .bare zeros⟩
  · rintro ⟨small, numeral⟩
    cases numeral with
    | bare zeros =>
        rw [readUnsigned_of_unsigned (numeral_ne_nil zeros number)
          (plus_not_mem_numeral zeros number)]
        exact (readDigits_eq_ok_iff (numeral_ne_nil zeros number)).mpr ⟨small, zeros, rfl⟩
    | signed zeros =>
        rw [readUnsigned]
        · exact (readDigits_eq_ok_iff (numeral_ne_nil zeros number)).mpr ⟨small, zeros, rfl⟩
        · exact numeral_ne_nil zeros number

theorem readSigned_of_unsigned {bound : Nat} {text : List Char} (some_ : text ≠ [])
    (unsigned : '+' ∉ text) (positive : '-' ∉ text) :
    readSigned bound text = (readDigits bound .tooLarge 0 text).map Int.ofNat := by
  rw [readSigned]
  · exact some_
  · rintro rfl
    exact unsigned (List.mem_cons_self ..)
  · rintro rfl
    exact positive (List.mem_cons_self ..)
  · rintro digits rfl
    exact unsigned (List.mem_cons_self ..)
  · rintro digits rfl
    exact positive (List.mem_cons_self ..)

/-- The decimal text of a number in range is read back. -/
theorem readSigned_toString {bound : Nat} {number : Int} (low : -(bound : Int) - 1 ≤ number)
    (high : number ≤ bound) : readSigned bound (toString number).toList = .ok number := by
  cases number with
  | ofNat number =>
      have spelled : (toString (Int.ofNat number)).toList = Nat.toDigits 10 number :=
        toList_nat number
      have read : readDigits bound .tooLarge 0 (Nat.toDigits 10 number) = .ok number :=
        (readDigits_eq_ok_iff Nat.toDigits_ne_nil).mpr ⟨Int.ofNat_le.mp high, 0, by simp⟩
      rw [spelled, readSigned_of_unsigned Nat.toDigits_ne_nil, read]
      · rfl
      · intro member
        cases isDigit_of_mem_toDigits member
      · intro member
        cases isDigit_of_mem_toDigits member
  | negSucc number =>
      have small : number + 1 ≤ bound + 1 := by omega
      have read : readDigits (bound + 1) .tooSmall 0 (Nat.toDigits 10 (number + 1)) =
          .ok (number + 1) :=
        (readDigits_eq_ok_iff Nat.toDigits_ne_nil).mpr ⟨small, 0, by simp⟩
      rw [toList_negSucc, readSigned, read]
      · rfl
      · exact Nat.toDigits_ne_nil

end Superserver.Text
