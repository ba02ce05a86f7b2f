import Superserver.Text.Integer
import Superserver.Text.Split

/-!
Text that was put together from fields is cut into the same fields again, and the numerals of a
number are read as that number.
-/

namespace Superserver.Text

/-! ### Cutting -/

theorem pieces_eq_splitOnP (separates : Char → Bool) (text : List Char) :
    pieces separates text = text.splitOnP separates := by
  induction text with
  | nil => rfl
  | cons character rest ih =>
      rw [pieces, List.splitOnP_cons_eq_if_modifyHead, ih]
      split
      · rfl
      · cases shape : rest.splitOnP separates with
        | nil => exact absurd shape (List.splitOnP_ne_nil separates rest)
        | cons piece others => rfl

theorem pieces_intercalate {separator : Char} {fields : List (List Char)} (some_ : fields ≠ [])
    (free : ∀ field ∈ fields, separator ∉ field) :
    pieces (· == separator) ([separator].intercalate fields) = fields := by
  rw [pieces_eq_splitOnP, ← List.splitOn_eq_splitOnP]
  exact List.splitOn_intercalate separator free some_

theorem splitFirst_of_free {separator : Char} {front : List Char} (free : separator ∉ front)
    (rest : List Char) :
    splitFirst separator (front ++ separator :: rest) = some (front, rest) := by
  have differ : ∀ character ∈ front, (character != separator) = true := by
    intro character member
    rw [bne_iff_ne]
    rintro rfl
    exact free member
  rw [splitFirst, List.dropWhile_append_of_pos differ, List.takeWhile_append_of_pos differ]
  simp

theorem splitFirst_eq_none_iff {separator : Char} {text : List Char} :
    splitFirst separator text = none ↔ separator ∉ text := by
  constructor
  · intro none member
    obtain ⟨front, rest, rfl, free⟩ := List.eq_append_cons_of_mem member
    rw [splitFirst_of_free free] at none
    cases none
  · intro free
    have differ : ∀ character ∈ text, (character != separator) = true := by
      intro character member
      rw [bne_iff_ne]
      rintro rfl
      exact free member
    have nothing : (text ++ []).dropWhile (· != separator) = [] :=
      List.dropWhile_append_of_pos differ
    rw [splitFirst, ← List.append_nil text, nothing]

/-- Two words with a blank between them. -/
theorem words_pair {first second : List Char} (nonempty : first ≠ []) (alsoNonempty : second ≠ [])
    (free : ∀ character ∈ first, isBlank character = false)
    (alsoFree : ∀ character ∈ second, isBlank character = false) :
    words (first ++ ' ' :: second) = [first, second] := by
  rw [words, pieces_eq_splitOnP, List.splitOnP_append_cons_of_forall_mem free _ (by decide),
    List.splitOnP_eq_singleton alsoFree]
  simp [nonempty, alsoNonempty]

/-! ### Numerals -/

theorem toList_nat (number : Nat) : (toString number).toList = Nat.toDigits 10 number :=
  String.toList_ofList

theorem toList_negSucc (number : Nat) :
    (toString (Int.negSucc number)).toList = '-' :: Nat.toDigits 10 (number + 1) := by
  have parts : toString (Int.negSucc number) = "-" ++ toString (number + 1) := rfl
  rw [parts, String.toList_append, toList_nat]
  rfl

theorem exists_digitChar_of_mem {base number : Nat} {digit : Char} (proper : 1 < base)
    (member : digit ∈ Nat.toDigits base number) : ∃ value < base, digit = value.digitChar := by
  induction number using Nat.strongRecOn with
  | ind number ih =>
      by_cases small : number < base
      · rw [Nat.toDigits_of_lt_base small] at member
        exact ⟨number, small, List.mem_singleton.mp member⟩
      · have larger : base ≤ number := Nat.le_of_not_lt small
        rw [Nat.toDigits_of_base_le proper larger] at member
        rcases List.mem_append.mp member with front | last
        · exact ih _ (Nat.div_lt_self (by omega) proper) front
        · exact ⟨number % base, Nat.mod_lt _ (by omega), List.mem_singleton.mp last⟩

theorem isDigit_of_mem_toDigits {number : Nat} {digit : Char}
    (member : digit ∈ Nat.toDigits 10 number) : isDigit digit = true :=
  Nat.isDigit_of_mem_toDigits (by decide) (by decide) member

theorem digitsValue_append (front : List Char) (last : Char) :
    digitsValue (front ++ [last]) = digitsValue front * 10 + digitValue last := by
  simp [digitsValue]

theorem digitsValue_toDigits (number : Nat) : digitsValue (Nat.toDigits 10 number) = number := by
  induction number using Nat.strongRecOn with
  | ind number ih =>
      by_cases small : number < 10
      · rw [Nat.toDigits_of_lt_base small]
        have value : digitValue number.digitChar = number :=
          Nat.toNat_digitChar_sub_48_of_lt_ten small
        simp [digitsValue, value]
      · have value : digitValue (number % 10).digitChar = number % 10 :=
          Nat.toNat_digitChar_sub_48_of_lt_ten (Nat.mod_lt _ (by omega))
        rw [Nat.toDigits_of_base_le (by omega) (by omega), digitsValue_append,
          ih _ (by omega), value]
        omega

/-- No number but zero is written with a zero at the front. -/
theorem head?_toDigits {number : Nat} (positive : 0 < number) :
    (Nat.toDigits 10 number).head? ≠ some '0' := by
  induction number using Nat.strongRecOn with
  | ind number ih =>
      by_cases small : number < 10
      · rw [Nat.toDigits_of_lt_base small]
        intro zero
        have first : number.digitChar = '0' := by simpa using zero
        have none := Nat.digitChar_eq_zero.mp first
        omega
      · have front := ih (number / 10) (by omega) (by omega)
        rw [Nat.toDigits_of_base_le (by omega) (by omega), List.head?_append]
        cases shape : Nat.toDigits 10 (number / 10) with
        | nil => exact absurd shape Nat.toDigits_ne_nil
        | cons digit digits => rwa [shape] at front

/-- Reading only ever adds to the value, so a small result was small throughout. -/
theorem readDigits_of_le {bound : Nat} {overflow : IntegerError} {value : Nat}
    {digits : List Char} (numeric : ∀ digit ∈ digits, isDigit digit = true)
    (small : digits.foldl (fun value digit => value * 10 + digitValue digit) value ≤ bound) :
    readDigits bound overflow value digits =
      .ok (digits.foldl (fun value digit => value * 10 + digitValue digit) value) := by
  have grows : ∀ (rest : List Char) (value : Nat),
      value ≤ rest.foldl (fun value digit => value * 10 + digitValue digit) value := by
    intro rest
    induction rest with
    | nil => exact fun value => Nat.le_refl value
    | cons digit rest ih =>
        intro value
        have next := ih (value * 10 + digitValue digit)
        rw [List.foldl_cons]
        omega
  induction digits generalizing value with
  | nil => rfl
  | cons digit digits ih =>
      have here : isDigit digit = true := numeric digit (List.mem_cons_self ..)
      have within := grows digits (value * 10 + digitValue digit)
      rw [List.foldl_cons] at small ⊢
      rw [readDigits, if_pos here, if_pos (by omega)]
      exact ih (fun other member => numeric other (List.mem_cons_of_mem _ member)) small

theorem readUnsigned_toDigits {bound number : Nat} (small : number ≤ bound) :
    readUnsigned bound (Nat.toDigits 10 number) = .ok number := by
  have read : readDigits bound .tooLarge 0 (Nat.toDigits 10 number) = .ok number := by
    have value : (Nat.toDigits 10 number).foldl
        (fun value digit => value * 10 + digitValue digit) 0 = number :=
      digitsValue_toDigits number
    rw [readDigits_of_le (fun digit member => isDigit_of_mem_toDigits member) (by omega), value]
  have numeric : ∀ digit ∈ Nat.toDigits 10 number, isDigit digit = true :=
    fun digit member => isDigit_of_mem_toDigits member
  cases shape : Nat.toDigits 10 number with
  | nil => exact absurd shape Nat.toDigits_ne_nil
  | cons digit digits =>
      rw [shape] at read numeric
      have plus : digit ≠ '+' := by
        rintro rfl
        cases numeric '+' (List.mem_cons_self ..)
      rw [readUnsigned]
      · exact read
      · simp
      · simp [plus]
      · simp [plus]

end Superserver.Text
