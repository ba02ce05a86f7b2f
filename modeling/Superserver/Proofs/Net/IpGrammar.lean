import Mathlib.Algebra.Order.Ring.Nat
import Superserver.Proofs.Net.IpText
import Superserver.Proofs.Text.Decoding
import Superserver.Proofs.Text.Numerals

/-!
The grammar of internet addresses. Main statements: a text is read as an IPv4 address just if it is
that address in dotted form, and as an IPv6 address just if it spells the groups of that address,
one after the other or around a gap. No spelling has more than 45 bytes.
-/

namespace Superserver

open Text

/-! ### IPv4 -/

namespace Ipv4

theorem eq_toDigits_of_octet? {digits : List Char} {octet : UInt8}
    (read : octet? digits = some octet) : digits = Nat.toDigits 10 octet.toNat := by
  unfold octet? at read
  split at read
  · rename_i proper
    cases read
    simp only [Bool.and_eq_true, decide_eq_true_eq, bne_iff_ne, ne_eq, Bool.or_eq_true,
      beq_iff_eq, List.all_eq_true] at proper
    obtain ⟨⟨⟨⟨numeric, _⟩, some_⟩, plain⟩, small⟩ := proper
    obtain ⟨zeros, same⟩ := exists_zeros_of_numeric some_ numeric
    have value : (UInt8.ofNat (digitsValue digits)).toNat = digitsValue digits :=
      UInt8.toNat_ofNat_of_lt' (Nat.lt_succ_of_le small)
    rw [value]
    cases zeros with
    | zero => exact same
    | succ zeros =>
        -- A zero in front would have to be the only digit.
        have first : digits.head? = some '0' := by
          rw [same, List.replicate_succ, List.cons_append, List.head?_cons]
        have digit : 0 < (Nat.toDigits 10 (digitsValue digits)).length :=
          List.length_pos_iff.mpr Nat.toDigits_ne_nil
        have long := congrArg List.length same
        rw [List.length_append, List.length_replicate] at long
        rcases plain with other | alone
        · exact absurd first other
        · omega
  · cases read

theorem octet?_eq_some_iff {digits : List Char} {octet : UInt8} :
    octet? digits = some octet ↔ digits = Nat.toDigits 10 octet.toNat := by
  constructor
  · exact eq_toDigits_of_octet?
  · rintro rfl
    exact octet?_toDigits octet

/-- Only the dotted form of an address is read as the address. -/
theorem parse?_eq_some_iff {text : List Char} {address : Ipv4} :
    parse? text = some address ↔ text = address.chars := by
  constructor
  · intro read
    have whole : ['.'].intercalate (pieces (· == '.') text) = text := by
      rw [pieces_eq_splitOnP, ← List.splitOn_eq_splitOnP]
      exact List.intercalate_splitOn '.'
    unfold parse? at read
    split at read
    · rename_i first second third fourth octets
      cases read
      simp only [List.map_eq_cons_iff, List.map_eq_nil_iff, octet?_eq_some_iff] at octets
      obtain ⟨_, _, cut, rfl, _, _, rfl, rfl, _, _, rfl, rfl, _, _, rfl, rfl, rfl⟩ := octets
      rw [← whole, cut]
      rfl
    · cases read
  · rintro rfl
    exact parse?_chars address

end Ipv4

namespace Ipv6

/-! ### Hexadecimal digits -/

/-- What holds of every small code holds of every ASCII character. -/
theorem of_ascii (holds : Char → Prop) (every : ∀ code < 128, holds (Char.ofNat code))
    {character : Char} (ascii : character.toNat < 128) : holds character := by
  have here := every character.toNat ascii
  rwa [Char.ofNat_toNat] at here

theorem hexValue?_of_ascii {digit : Char} (ascii : digit.toNat < 128) {value : Nat}
    (small : value < 16) :
    hexValue? digit = some value ↔ digit.toLower = value.digitChar := by
  have every := of_ascii
    (fun digit => ∀ value < 16, hexValue? digit = some value ↔ digit.toLower = value.digitChar)
    (by decide +kernel) ascii
  exact every value small

theorem hexValue?_lt {digit : Char} {value : Nat} (read : hexValue? digit = some value) :
    digit.toNat < 128 ∧ value < 16 := by
  have codes : '0'.toNat = 48 ∧ '9'.toNat = 57 ∧ 'a'.toNat = 97 ∧ 'f'.toNat = 102 ∧
      'A'.toNat = 65 ∧ 'F'.toNat = 70 := by decide
  unfold hexValue? at read
  split at read
  · rename_i numeric
    simp only [isDigit, Bool.and_eq_true, decide_eq_true_eq] at numeric
    have most : digit.toNat ≤ '9'.toNat := numeric.2
    cases read
    omega
  · split at read
    · rename_i letter
      simp only [Bool.and_eq_true, decide_eq_true_eq] at letter
      have most : digit.toNat ≤ 'f'.toNat := letter.2
      cases read
      omega
    · split at read
      · rename_i letter
        simp only [Bool.and_eq_true, decide_eq_true_eq] at letter
        have most : digit.toNat ≤ 'F'.toNat := letter.2
        cases read
        omega
      · cases read

theorem toLower_of_not_ascii {character : Char} (beyond : 128 ≤ character.toNat) :
    character.toLower = character := by
  have last : 'Z'.toNat = 90 := rfl
  refine dif_neg ?_
  rintro ⟨_, most⟩
  have most : character.toNat ≤ 'Z'.toNat := most
  omega

theorem hexValue?_eq_some_iff {digit : Char} {value : Nat} :
    hexValue? digit = some value ↔ value < 16 ∧ digit.toLower = value.digitChar := by
  constructor
  · intro read
    obtain ⟨ascii, small⟩ := hexValue?_lt read
    exact ⟨small, (hexValue?_of_ascii ascii small).mp read⟩
  · rintro ⟨small, lower⟩
    by_cases ascii : digit.toNat < 128
    · exact (hexValue?_of_ascii ascii small).mpr lower
    · rw [toLower_of_not_ascii (Nat.le_of_not_lt ascii)] at lower
      rw [lower]
      exact hexValue?_digitChar small

theorem toLower_toLower (character : Char) : character.toLower.toLower = character.toLower := by
  by_cases ascii : character.toNat < 128
  · exact of_ascii (fun character => character.toLower.toLower = character.toLower)
      (by decide +kernel) ascii
  · rw [toLower_of_not_ascii (Nat.le_of_not_lt ascii),
      toLower_of_not_ascii (Nat.le_of_not_lt ascii)]

theorem hexValue?_toLower (digit : Char) : hexValue? digit.toLower = hexValue? digit := by
  apply Option.ext
  intro value
  rw [hexValue?_eq_some_iff, hexValue?_eq_some_iff, toLower_toLower]

theorem mapM_hexValue?_eq_some {digits : List Char} {values : List Nat}
    (read : digits.mapM hexValue? = some values) :
    digits.map Char.toLower = values.map Nat.digitChar ∧ ∀ value ∈ values, value < 16 := by
  induction digits generalizing values with
  | nil =>
      cases read
      simp
  | cons digit digits ih =>
      simp only [List.mapM_cons, Option.pure_def, Option.bind_eq_bind, Option.bind_eq_some_iff,
        Option.some.injEq] at read
      obtain ⟨value, first, others, rest, rfl⟩ := read
      obtain ⟨small, lower⟩ := hexValue?_eq_some_iff.mp first
      obtain ⟨same, smaller⟩ := ih rest
      constructor
      · rw [List.map_cons, List.map_cons, lower, same]
      · intro other member
        rcases List.mem_cons.mp member with rfl | member
        · exact small
        · exact smaller other member

theorem mapM_hexValue?_numeral (zeros number : Nat) :
    ∃ values, (List.replicate zeros '0' ++ Nat.toDigits 16 number).mapM hexValue? =
        some values ∧ valueIn 16 values = number := by
  obtain ⟨values, read, value⟩ := mapM_hexValue? number
  have zero : hexValue? '0' = some 0 := rfl
  induction zeros with
  | zero => exact ⟨values, read, value⟩
  | succ zeros ih =>
      obtain ⟨behind, rest, same⟩ := ih
      refine ⟨0 :: behind, ?_, same⟩
      simp [List.replicate_succ, zero, rest]

theorem valueIn_lt {base : Nat} {digits : List Nat} (small : ∀ digit ∈ digits, digit < base) :
    valueIn base digits < base ^ digits.length := by
  induction digits using List.reverseRecOn with
  | nil => exact Nat.one_pos
  | append_singleton front last ih =>
      have bound : last < base := small last (by simp)
      have before := ih fun digit member => small digit (by simp [member])
      rw [valueIn_append, List.length_append, List.length_singleton, Nat.pow_succ]
      have room : (valueIn base front + 1) * base ≤ base ^ front.length * base :=
        Nat.mul_le_mul_right base before
      rw [Nat.add_mul, Nat.one_mul] at room
      omega

/-! ### Groups -/

/-- The hexadecimal numeral of a group in either case, with zeros in front as far as four digits
have room for them. -/
def Hextet (digits : List Char) (group : UInt16) : Prop :=
  digits.length ≤ 4 ∧
    ∃ zeros, digits.map Char.toLower = List.replicate zeros '0' ++ Nat.toDigits 16 group.toNat

namespace Hextet

variable {digits : List Char} {group : UInt16}

theorem ne_nil (hextet : Hextet digits group) : digits ≠ [] := by
  rintro rfl
  obtain ⟨_, zeros, same⟩ := hextet
  rw [List.map_nil, eq_comm, List.append_eq_nil_iff] at same
  exact Nat.toDigits_ne_nil same.2

/-- What hexadecimal numerals are made of. -/
theorem hexadecimal (hextet : Hextet digits group) {digit : Char} (member : digit ∈ digits) :
    ∃ value < 16, digit.toLower = value.digitChar := by
  obtain ⟨_, zeros, same⟩ := hextet
  have lower : digit.toLower ∈ digits.map Char.toLower := List.mem_map_of_mem member
  rw [same] at lower
  rcases List.mem_append.mp lower with zero | numeral
  · exact ⟨0, by decide, List.eq_of_mem_replicate zero⟩
  · exact exists_digitChar_of_mem (by decide) numeral

theorem not_mem (hextet : Hextet digits group) {character : Char}
    (other : ∀ value < 16, character.toLower ≠ value.digitChar) : character ∉ digits := by
  intro member
  obtain ⟨value, small, same⟩ := hextet.hexadecimal member
  exact other value small same

theorem colon_not_mem (hextet : Hextet digits group) : ':' ∉ digits :=
  hextet.not_mem (by decide)

end Hextet

theorem group?_eq_some_iff {digits : List Char} {group : UInt16} :
    group? digits = some group ↔ Hextet digits group := by
  constructor
  · intro read
    unfold group? at read
    split at read
    · rename_i sized
      simp only [Bool.and_eq_true, decide_eq_true_eq] at sized
      obtain ⟨values, valued, rfl⟩ := Option.map_eq_some_iff.mp read
      obtain ⟨same, small⟩ := mapM_hexValue?_eq_some valued
      have length : values.length = digits.length := by
        simpa using (congrArg List.length same).symm
      have some_ : values ≠ [] := by
        rw [← List.length_pos_iff]
        omega
      obtain ⟨zeros, numeral⟩ := exists_zeros_of_digits (by decide) some_ small
      have bound : valueIn 16 values < UInt16.size := by
        have most : 16 ^ values.length ≤ 16 ^ 4 := Nat.pow_le_pow_right (by decide) (by omega)
        exact Nat.lt_of_lt_of_le (valueIn_lt small) most
      refine ⟨sized.2, zeros, ?_⟩
      have value : (UInt16.ofNat (valueIn 16 values)).toNat = valueIn 16 values :=
        UInt16.toNat_ofNat_of_lt bound
      rw [same, numeral]
      exact congrArg (_ ++ Nat.toDigits 16 ·) value.symm
    · cases read
  · intro hextet
    have some_ := List.length_pos_iff.mpr hextet.ne_nil
    obtain ⟨short, zeros, same⟩ := hextet
    obtain ⟨values, read, value⟩ := mapM_hexValue?_numeral zeros group.toNat
    have valued : digits.mapM hexValue? = some values := by
      rw [← read, ← same, List.mapM_map]
      exact congrArg (digits.mapM ·) (funext fun digit => (hexValue?_toLower digit).symm)
    rw [group?, if_pos (by simp; omega), valued, Option.map_some]
    exact congrArg some ((congrArg UInt16.ofNat value).trans UInt16.ofNat_toNat)

/-! ### Rows of groups -/

/-- Groups with a colon between any two. Where that is allowed, the last two may stand as a dotted
quad. -/
inductive Row (dotted : Bool) : List Char → List UInt16 → Prop where
  | last {digits : List Char} {group : UInt16} :
      Hextet digits group → Row dotted digits [group]
  | quad (address : Ipv4) : dotted = true → Row dotted address.chars (ofIpv4 address)
  | more {digits rest : List Char} {group : UInt16} {groups : List UInt16} :
      Hextet digits group → Row dotted rest groups →
        Row dotted (digits ++ ':' :: rest) (group :: groups)

def Side (dotted : Bool) (text : List Char) (groups : List UInt16) : Prop :=
  text = [] ∧ groups = [] ∨ Row dotted text groups

/-- The spellings of an address: all its groups, or those around a gap that stands for zeros. -/
inductive Spelled : List Char → Ipv6 → Prop where
  | whole {text : List Char} {address : Ipv6} :
      Row true text address.groups → Spelled text address
  | gap {front back : List Char} {before after : List UInt16} {address : Ipv6} :
      Side false front before → Side true back after → before.length + after.length ≤ 7 →
        address.groups =
          before ++ List.replicate (8 - before.length - after.length) 0 ++ after →
        Spelled (front ++ ':' :: ':' :: back) address

section

variable {dotted : Bool} {text rest front back : List Char} {groups : List UInt16}

def groupsOf (dotted : Bool) (fields : List (List Char)) : Option (List UInt16) :=
  if dotted then groups? fields else fields.mapM group?

theorem row_of_groupsOf {fields : List (List Char)} (some_ : fields ≠ [])
    (read : groupsOf dotted fields = some groups) :
    Row dotted ([':'].intercalate fields) groups := by
  induction fields generalizing groups with
  | nil => exact absurd rfl some_
  | cons field fields ih =>
      cases fields with
      | nil =>
          rw [List.intercalate_singleton]
          cases first : group? field with
          | some group =>
              have same : groups = [group] := by
                cases dotted <;> simpa [groupsOf, groups?, first] using read.symm
              rw [same]
              exact .last (group?_eq_some_iff.mp first)
          | none =>
              cases dotted with
              | false => simp [groupsOf, first] at read
              | true =>
                  simp only [groupsOf, groups?, first, if_true, Option.map_eq_some_iff] at read
                  obtain ⟨quad, dots, rfl⟩ := read
                  rw [Ipv4.parse?_eq_some_iff.mp dots]
                  exact .quad quad rfl
      | cons next others =>
          have parts : ∃ group behind, group? field = some group ∧
              groupsOf dotted (next :: others) = some behind ∧ groups = group :: behind := by
            cases dotted with
            | false =>
                simp only [groupsOf, Bool.false_eq_true, if_false, List.mapM_cons (a := field),
                  Option.pure_def, Option.bind_eq_bind, Option.bind_eq_some_iff,
                  Option.some.injEq] at read
                obtain ⟨group, first, behind, later, rfl⟩ := read
                exact ⟨group, behind, first, later, rfl⟩
            | true =>
                simp only [groupsOf, if_true, groups?, Option.pure_def, Option.bind_eq_bind,
                  Option.bind_eq_some_iff, Option.some.injEq] at read
                obtain ⟨group, first, behind, later, rfl⟩ := read
                exact ⟨group, behind, first, later, rfl⟩
          obtain ⟨group, behind, first, later, rfl⟩ := parts
          rw [List.intercalate_cons_of_ne_nil (by simp)]
          have rest := Row.more (group?_eq_some_iff.mp first) (ih (by simp) later)
          simpa using rest

theorem pieces_of_free (free : ':' ∉ text) : pieces (· == ':') text = [text] := by
  rw [pieces_eq_splitOnP]
  apply List.splitOnP_eq_singleton
  intro character member
  rw [beq_eq_false_iff_ne]
  rintro rfl
  exact free member

theorem pieces_append_colon (free : ':' ∉ front) (rest : List Char) :
    pieces (· == ':') (front ++ ':' :: rest) = front :: pieces (· == ':') rest := by
  have differ : ∀ character ∈ front, (character == ':') = false := by
    intro character member
    rw [beq_eq_false_iff_ne]
    rintro rfl
    exact free member
  rw [pieces_eq_splitOnP, pieces_eq_splitOnP,
    List.splitOnP_append_cons_of_forall_mem differ _ (by decide)]

theorem groupsOf_row (row : Row dotted text groups) :
    groupsOf dotted (pieces (· == ':') text) = some groups := by
  induction row with
  | @last digits group hextet =>
      have read := group?_eq_some_iff.mpr hextet
      rw [pieces_of_free hextet.colon_not_mem]
      cases dotted <;> simp [groupsOf, groups?, read]
  | quad address allowed =>
      rw [pieces_of_free (colon_not_mem_quad address), allowed]
      simp [groupsOf, groups?, group?_quad, Ipv4.parse?_chars]
  | @more digits rest group groups hextet row ih =>
      have read := group?_eq_some_iff.mpr hextet
      rw [pieces_append_colon hextet.colon_not_mem]
      cases shape : pieces (· == ':') rest with
      | nil => exact absurd shape (pieces_ne_nil _ _)
      | cons field fields =>
          rw [shape] at ih
          cases dotted with
          | false =>
              simp only [groupsOf, Bool.false_eq_true, if_false] at ih ⊢
              rw [List.mapM_cons, ih]
              simp [read]
          | true =>
              simp only [groupsOf, if_true] at ih ⊢
              rw [groups?, ih]
              · simp [read]
              · simp

theorem row_ne_nil (row : Row dotted text groups) : text ≠ [] := by
  cases row with
  | last hextet => exact hextet.ne_nil
  | quad address => simp [Ipv4.chars_eq]
  | more hextet row => simp

theorem groupsOf_fields_eq_some_iff :
    groupsOf dotted (fields text) = some groups ↔ Side dotted text groups := by
  by_cases empty : text = []
  · subst empty
    have none : groupsOf dotted (fields []) = some [] := by cases dotted <;> rfl
    rw [none]
    constructor
    · intro same
      exact .inl ⟨rfl, (Option.some.inj same).symm⟩
    · rintro (⟨_, rfl⟩ | row)
      · rfl
      · exact absurd rfl (row_ne_nil row)
  · have cut : fields text = pieces (· == ':') text := if_neg (by simpa using empty)
    rw [cut]
    constructor
    · intro read
      have row := row_of_groupsOf (pieces_ne_nil _ _) read
      rw [pieces_eq_splitOnP, ← List.splitOn_eq_splitOnP, List.intercalate_splitOn] at row
      exact .inr row
    · rintro (⟨none, _⟩ | row)
      · exact absurd none empty
      · exact groupsOf_row row

/-! ### The gap of a spelling -/

theorem head?_row (row : Row dotted text groups) (rest : List Char) :
    (text ++ rest).head? ≠ some ':' := by
  have behind : ∀ {front : List Char} (back : List Char), front ≠ [] → ':' ∉ front →
      (front ++ back).head? ≠ some ':' := by
    intro front back some_ free first
    cases front with
    | nil => exact some_ rfl
    | cons character front =>
        cases first
        exact free (List.mem_cons_self ..)
  cases row with
  | last hextet => exact behind rest hextet.ne_nil hextet.colon_not_mem
  | quad address => exact behind rest (by simp [Ipv4.chars_eq]) (colon_not_mem_quad address)
  | more hextet row =>
      rw [List.append_assoc]
      exact behind _ hextet.ne_nil hextet.colon_not_mem

theorem splitGap_row (row : Row dotted text groups) (rest : List Char) :
    splitGap (text ++ rest) = (splitGap rest).map fun sides => (text ++ sides.1, sides.2) := by
  -- A row has no gap of its own, whatever fields it goes through.
  induction row with
  | last hextet => exact splitGap_append_free hextet.colon_not_mem rest
  | quad address => exact splitGap_append_free (colon_not_mem_quad address) rest
  | @more digits _ _ _ hextet row ih =>
      rw [List.append_assoc, List.cons_append, splitGap_append_free hextet.colon_not_mem,
        splitGap_colon (head?_row row rest), ih]
      cases splitGap rest <;> simp

theorem splitGap_side (side : Side dotted front groups) (back : List Char) :
    splitGap (front ++ ':' :: ':' :: back) = some (front, back) := by
  have here : splitGap (':' :: ':' :: back) = some ([], back) := by rw [splitGap]
  rcases side with ⟨rfl, _⟩ | row
  · exact here
  · rw [splitGap_row row, here]
    simp

theorem eq_of_splitGap (cut : splitGap text = some (front, back)) :
    text = front ++ ':' :: ':' :: back := by
  induction text using splitGap.induct generalizing front with
  | case1 => cases cut
  | case2 rest =>
      rw [splitGap] at cut
      cases cut
      rfl
  | case3 character rest other ih =>
      rw [splitGap] at cut
      · obtain ⟨sides, later, same⟩ := Option.map_eq_some_iff.mp cut
        cases same
        rw [ih later]
        rfl
      · exact other

theorem ofGroups?_eq_some_iff {address : Ipv6} :
    ofGroups? groups = some address ↔ address.groups = groups := by
  constructor
  · intro made
    unfold ofGroups? at made
    split at made
    · cases made
      rfl
    · cases made
  · rintro rfl
    exact ofGroups?_groups address

end

/-- A text is read as an address just if it spells the address. -/
theorem parse?_eq_some_iff {text : List Char} {address : Ipv6} :
    parse? text = some address ↔ Spelled text address := by
  constructor
  · intro read
    unfold parse? at read
    split at read
    · obtain ⟨groups, fields, made⟩ := Option.bind_eq_some_iff.mp read
      obtain rfl := ofGroups?_eq_some_iff.mp made
      have side : Side true text address.groups := groupsOf_fields_eq_some_iff.mp fields
      rcases side with ⟨_, none⟩ | row
      · have eight := address.length_groups
        rw [none] at eight
        cases eight
      · exact .whole row
    · rename_i front back cut
      simp only [Option.bind_eq_bind, Option.bind_eq_some_iff] at read
      obtain ⟨before, fields, after, others, fits⟩ := read
      split at fits
      · rename_i few
        rw [eq_of_splitGap cut]
        have front_ : Side false front before := groupsOf_fields_eq_some_iff.mp fields
        have back_ : Side true back after := groupsOf_fields_eq_some_iff.mp others
        exact .gap front_ back_ few (ofGroups?_eq_some_iff.mp fits)
      · cases fits
  · intro spelled
    cases spelled with
    | whole row =>
        have none : splitGap text = none := by
          have whole := splitGap_row row []
          rwa [List.append_nil] at whole
        have fields : groupsOf true (fields text) = some address.groups :=
          groupsOf_fields_eq_some_iff.mpr (.inr row)
        rw [groupsOf, if_pos rfl] at fields
        rw [parse?, none]
        simp only [fields, Option.bind_some, ofGroups?_groups]
    | @gap front back before after _ front_ back_ few same =>
        have fields : groupsOf false (fields front) = some before :=
          groupsOf_fields_eq_some_iff.mpr front_
        have others : groupsOf true (Ipv6.fields back) = some after :=
          groupsOf_fields_eq_some_iff.mpr back_
        rw [groupsOf, if_neg Bool.false_ne_true] at fields
        rw [groupsOf, if_pos rfl] at others
        rw [parse?, splitGap_side front_]
        simp only [fields, others, Option.bind_eq_bind, Option.bind_some, if_pos few]
        exact ofGroups?_eq_some_iff.mpr same

/-! ### What spellings are made of -/

section

variable {dotted : Bool} {text : List Char} {groups : List UInt16} {address : Ipv6}

theorem length_row_le (row : Row dotted text groups) :
    text.length ≤ 5 * groups.length + if dotted then 5 else 0 := by
  induction row with
  | last hextet =>
      have short := hextet.1
      simp only [List.length_singleton]
      omega
  | quad address allowed =>
      have short := address.length_chars_le
      rw [allowed]
      simp only [ofIpv4, List.length_cons, List.length_nil, if_true]
      omega
  | more hextet row ih =>
      have short := hextet.1
      rw [List.length_append, List.length_cons, List.length_cons]
      omega

theorem length_side_le (side : Side dotted text groups) :
    text.length ≤ 5 * groups.length + if dotted then 5 else 0 := by
  rcases side with ⟨rfl, _⟩ | row
  · exact Nat.zero_le _
  · exact length_row_le row

theorem length_spelled_le (spelled : Spelled text address) : text.length ≤ 45 := by
  cases spelled with
  | whole row =>
      have short := length_row_le row
      rw [address.length_groups, if_pos rfl] at short
      exact short
  | gap front back few =>
      have before := length_side_le front
      have after := length_side_le back
      simp only [Bool.false_eq_true, if_false, if_true] at before after
      rw [List.length_append, List.length_cons, List.length_cons]
      omega

def IsMark (character : Char) : Prop :=
  character = ':' ∨ character = '.' ∨ ∃ value < 16, character.toLower = value.digitChar

theorem isMark_of_row (row : Row dotted text groups) : ∀ character ∈ text, IsMark character := by
  induction row with
  | last hextet => exact fun character member => .inr (.inr (hextet.hexadecimal member))
  | quad address =>
      intro character member
      rcases Ipv4.mem_chars member with dot | ⟨value, small, rfl⟩
      · exact .inr (.inl dot)
      · have every : ∀ value < 10, value.digitChar.toLower = value.digitChar := by decide
        exact .inr (.inr ⟨value, by omega, every value small⟩)
  | more hextet row ih =>
      intro character member
      rcases List.mem_append.mp member with digit | member
      · exact .inr (.inr (hextet.hexadecimal digit))
      · rcases List.mem_cons.mp member with colon | member
        · exact .inl colon
        · exact ih character member

theorem isMark_of_spelled (spelled : Spelled text address) :
    ∀ character ∈ text, IsMark character := by
  have side : ∀ {dotted text groups}, Side dotted text groups →
      ∀ character ∈ text, IsMark character := by
    rintro dotted text groups (⟨rfl, _⟩ | row)
    · exact fun _ member => absurd member (List.not_mem_nil)
    · exact isMark_of_row row
  cases spelled with
  | whole row => exact isMark_of_row row
  | gap front back few =>
      intro character member
      rcases List.mem_append.mp member with member | member
      · exact side front character member
      · rcases List.mem_cons.mp member with colon | member
        · exact .inl colon
        · rcases List.mem_cons.mp member with colon | member
          · exact .inl colon
          · exact side back character member

theorem IsMark.ascii {character : Char} (mark : IsMark character) : character.toNat < 128 := by
  rcases mark with rfl | rfl | ⟨value, small, same⟩
  · decide
  · decide
  · exact (hexValue?_lt (hexValue?_eq_some_iff.mpr ⟨small, same⟩)).1

/-- No address is longer in bytes than its longest spelling in characters. -/
theorem length_bytesOf_spelled (spelled : Spelled text address) :
    (bytesOf (String.ofList text)).length ≤ 45 := by
  rw [length_bytesOf,
    utf8ByteSize_of_ascii fun character member => (isMark_of_spelled spelled character member).ascii]
  exact length_spelled_le spelled

theorem not_mem_spelled (spelled : Spelled text address) {character : Char}
    (other : character ≠ ':' ∧ character ≠ '.' ∧
      ∀ value < 16, character.toLower ≠ value.digitChar) : character ∉ text := by
  intro member
  rcases isMark_of_spelled spelled character member with colon | dot | ⟨value, small, same⟩
  · exact other.1 colon
  · exact other.2.1 dot
  · exact other.2.2 value small same

end

end Ipv6

end Superserver
