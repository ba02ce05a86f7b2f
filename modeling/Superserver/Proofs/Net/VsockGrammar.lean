import Superserver.Proofs.Net.AddressGrammar
import Superserver.Proofs.Text.Words

/-!
What vsock addresses look like. Main statement: of the fields behind the word, the first two are
read as the grammar of port and context identifier has it, and all others are passed over.
-/

namespace Superserver

open Text

namespace ListenAddress

/-! ### Words of 32 bits -/

/-- The field is a number of 32 bits. -/
def Says32 (field : List Char) (number : UInt32) : Prop := Numeral number.toNat field

theorem readUnsigned_eq_ok_iff_says32 {field : List Char} {value : Nat} :
    readUnsigned (UInt32.size - 1) field = .ok value ↔
      value < UInt32.size ∧ Says32 field (UInt32.ofNat value) := by
  have size : 0 < UInt32.size := by decide
  rw [readUnsigned_eq_ok_iff, Says32]
  constructor
  · rintro ⟨small, numeral⟩
    have within : value < UInt32.size := by omega
    exact ⟨within, by rwa [UInt32.toNat_ofNat_of_lt' within]⟩
  · rintro ⟨within, numeral⟩
    rw [UInt32.toNat_ofNat_of_lt' within] at numeral
    exact ⟨by omega, numeral⟩

theorem readUnsigned_of_says32 {field : List Char} {number : UInt32} (said : Says32 field number) :
    readUnsigned (UInt32.size - 1) field = .ok number.toNat := by
  refine readUnsigned_eq_ok_iff_says32.mpr ⟨number.toNat_lt_size, ?_⟩
  rwa [UInt32.ofNat_toNat]

/-! ### Fields -/

/-- What is said of the fields of a vsock address, which are a port and a context identifier. -/
inductive VsockSays : List (List Char) → Except AddressError ListenAddress → Prop where
  | empty : VsockSays [] (.error .vsockEmpty)
  | badPort {first : List Char} {others : List (List Char)} :
      (∀ number, ¬Says32 first number) → VsockSays (first :: others) (.error .vsockPort)
  | noCid {first : List Char} {port : UInt32} :
      Says32 first port → VsockSays [first] (.error .vsockCid)
  | badCid {first second : List Char} {others : List (List Char)} {port : UInt32} :
      Says32 first port → (∀ number, ¬Says32 second number) →
        VsockSays (first :: second :: others) (.error .vsockCid)
  | address {first second : List Char} {port cid : UInt32} :
      Says32 first port → Says32 second cid → VsockSays [first, second] (.ok (.vsock port cid))

theorem Says32.unique {field : List Char} {number other : UInt32} (said : Says32 field number)
    (again : Says32 field other) : number = other := by
  have read := readUnsigned_of_says32 said
  rw [readUnsigned_of_says32 again] at read
  exact (UInt32.toNat_inj.mp (Except.ok.inj read)).symm

theorem VsockSays.unique {fields : List (List Char)} {one other : Except AddressError ListenAddress}
    (said : VsockSays fields one) (again : VsockSays fields other) : one = other := by
  cases said with
  | empty =>
      cases again
      rfl
  | badPort bad =>
      cases again with
      | badPort => rfl
      | noCid port => exact absurd port (bad _)
      | badCid port => exact absurd port (bad _)
      | address port => exact absurd port (bad _)
  | noCid port =>
      cases again with
      | badPort bad => exact absurd port (bad _)
      | noCid => rfl
  | badCid port bad =>
      cases again with
      | badPort bad => exact absurd port (bad _)
      | badCid => rfl
      | address _ cid => exact absurd cid (bad _)
  | address port cid =>
      cases again with
      | badPort bad => exact absurd port (bad _)
      | badCid _ bad => exact absurd cid (bad _)
      | address samePort sameCid => rw [port.unique samePort, cid.unique sameCid]

theorem vsockSays_parseVsock {rest : List Char} {fields : List (List Char)}
    (spaced : Spaced rest fields) : VsockSays (fields.take 2) (parseVsock rest) := by
  have bad : ∀ {field : List Char} {fault : IntegerError},
      readUnsigned (UInt32.size - 1) field = .error fault → ∀ number, ¬Says32 field number := by
    intro field fault failed number said
    rw [readUnsigned_of_says32 said] at failed
    cases failed
  rw [parseVsock, words_of_spaced spaced]
  cases fields with
  | nil => exact .empty
  | cons first others =>
      cases port : readUnsigned (UInt32.size - 1) first with
      | error fault =>
          dsimp only
          rw [port]
          exact .badPort (bad port)
      | ok value =>
          have first := (readUnsigned_eq_ok_iff_says32.mp port).2
          dsimp only
          rw [port]
          cases others with
          | nil => exact .noCid first
          | cons second others =>
              dsimp only [List.head?_cons, Option.map_some]
              cases cid : readUnsigned (UInt32.size - 1) second with
              | error fault => exact .badCid first (bad cid)
              | ok number => exact .address first (readUnsigned_eq_ok_iff_says32.mp cid).2

theorem parseVsock_eq_iff {rest : List Char} {fields : List (List Char)}
    (spaced : Spaced rest fields) {answer : Except AddressError ListenAddress} :
    parseVsock rest = answer ↔ VsockSays (fields.take 2) answer := by
  constructor
  · rintro rfl
    exact vsockSays_parseVsock spaced
  · exact (vsockSays_parseVsock spaced).unique

theorem parse_vsock (rest : String) : parse ("vsock " ++ rest) = parseVsock rest.toList := by
  have headed : Headed ("vsock " ++ rest).toList "vsock".toList rest.toList := by
    refine ⟨by decide, .inr ?_⟩
    rw [String.toList_append]
    rfl
  exact parse_of_headed headed

/-- The text behind the word is fields in just one way. Where they are at most two, the answer is
what the grammar of a port and a context identifier says of them. Of more fields the first two are
read and all others are passed over, so that a text is accepted just if its first two fields are. -/
theorem vsock_read_up_to_second_field (rest : String) :
    ∃ fields, (∀ others, Spaced rest.toList others ↔ others = fields) ∧
      (fields.length ≤ 2 → ∀ answer,
        parse ("vsock " ++ rest) = answer ↔ VsockSays fields answer) ∧
      (2 < fields.length → ∀ answer,
        parse ("vsock " ++ rest) = answer ↔ VsockSays (fields.take 2) answer) ∧
      ∀ address, parse ("vsock " ++ rest) = .ok address ↔
        ∃ first second others port cid, fields = first :: second :: others ∧
          Says32 first port ∧ Says32 second cid ∧ address = .vsock port cid := by
  obtain ⟨fields, spaced⟩ := exists_spaced rest.toList
  have told : ∀ answer,
      parse ("vsock " ++ rest) = answer ↔ VsockSays (fields.take 2) answer := by
    intro answer
    rw [parse_vsock]
    exact parseVsock_eq_iff spaced
  refine ⟨fields, ?_, ?_, fun _ => told, ?_⟩
  · intro others
    rw [← words_eq_iff, words_of_spaced spaced, eq_comm]
  · intro few answer
    rw [told, List.take_of_length_le few]
  · intro address
    rw [told]
    constructor
    · intro said
      match fields, said with
      | first :: second :: others, .address port cid =>
          exact ⟨first, second, others, _, _, rfl, port, cid, rfl⟩
    · rintro ⟨first, second, others, port, cid, rfl, said, also, rfl⟩
      exact .address said also

/-- Two good fields and a third one, which inet and inet6 would not let pass. -/
theorem third_field_passed_over :
    parse "vsock 5000 3 9" = .ok (.vsock 5000 3) ∧
      (∀ address, ¬VsockSays ["5000".toList, "3".toList, "9".toList] (.ok address)) ∧
      parse "inet 127.0.0.1 5000 9" = .error (.portNotNumeric "5000 9") := by
  obtain ⟨fields, only, _, _, accepted⟩ := vsock_read_up_to_second_field "5000 3 9"
  have spaced : Spaced "5000 3 9".toList ["5000".toList, "3".toList, "9".toList] :=
    words_eq_iff.mp (by decide)
  have fields := ((only _).mp spaced).symm
  refine ⟨(accepted _).mpr ⟨_, _, _, 5000, 3, fields, .bare 0, .bare 0, rfl⟩, ?_, by decide⟩
  rintro address ⟨⟩

end ListenAddress

end Superserver
