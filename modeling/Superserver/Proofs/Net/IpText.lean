import Superserver.Net.Ipv6
import Superserver.Proofs.Text.Fields

/-!
Internet addresses are read back from their text: every IPv4 address from its dotted form, and every
IPv6 address from the form that is written for it, with or without a gap or a dotted tail.
-/

namespace Superserver

open Text

/-! ### IPv4 -/

namespace Ipv4

theorem octet?_toDigits (octet : UInt8) : octet? (Nat.toDigits 10 octet.toNat) = some octet := by
  have small : octet.toNat < 256 := octet.toNat_lt
  have numeric : (Nat.toDigits 10 octet.toNat).all isDigit = true :=
    List.all_eq_true.mpr fun digit member => isDigit_of_mem_toDigits member
  have short : (Nat.toDigits 10 octet.toNat).length ≤ 3 :=
    (Nat.length_toDigits_le_iff (by decide) (by decide)).mpr (by omega)
  have plain : ((Nat.toDigits 10 octet.toNat).head? != some '0' ||
      (Nat.toDigits 10 octet.toNat).length == 1) = true := by
    by_cases zero : octet.toNat = 0
    · rw [zero]
      rfl
    · have front := head?_toDigits (Nat.pos_of_ne_zero zero)
      simp [front]
  have value : digitsValue (Nat.toDigits 10 octet.toNat) = octet.toNat := digitsValue_toDigits _
  rw [octet?, if_pos, value, UInt8.ofNat_toNat]
  simp only [numeric, short, plain, value, decide_true, Bool.true_and, Bool.and_true,
    Bool.and_eq_true, decide_eq_true_eq, bne_iff_ne, ne_eq]
  exact ⟨Nat.toDigits_ne_nil, by omega⟩

theorem dot_not_mem (number : Nat) : '.' ∉ Nat.toDigits 10 number := by
  intro member
  cases isDigit_of_mem_toDigits member

theorem chars_eq (address : Ipv4) :
    address.chars = Nat.toDigits 10 address.first.toNat ++
      '.' :: (Nat.toDigits 10 address.second.toNat ++
        '.' :: (Nat.toDigits 10 address.third.toNat ++
          '.' :: Nat.toDigits 10 address.fourth.toNat)) := by
  simp [chars, octets]

theorem parse?_chars (address : Ipv4) : parse? address.chars = some address := by
  rw [parse?, chars, pieces_intercalate]
  · simp only [octets, List.map_cons, List.map_nil, octet?_toDigits]
  · simp [octets]
  · intro field member
    obtain ⟨octet, _, rfl⟩ := List.mem_map.mp member
    exact dot_not_mem octet.toNat

/-- What dotted forms are made of. -/
theorem mem_chars {address : Ipv4} {character : Char} (member : character ∈ address.chars) :
    character = '.' ∨ ∃ value < 10, character = value.digitChar := by
  have numeral : ∀ {number : Nat}, character ∈ Nat.toDigits 10 number →
      ∃ value < 10, character = value.digitChar := exists_digitChar_of_mem (by decide)
  rw [chars_eq] at member
  simp only [List.mem_append, List.mem_cons] at member
  rcases member with first | dot | second | dot | third | dot | fourth
  · exact .inr (numeral first)
  · exact .inl dot
  · exact .inr (numeral second)
  · exact .inl dot
  · exact .inr (numeral third)
  · exact .inl dot
  · exact .inr (numeral fourth)

theorem length_chars_le (address : Ipv4) : address.chars.length ≤ 15 := by
  have short : ∀ octet : UInt8, (Nat.toDigits 10 octet.toNat).length ≤ 3 := by
    intro octet
    have small := octet.toNat_lt
    exact (Nat.length_toDigits_le_iff (by decide) (by decide)).mpr (by omega)
  have first := short address.first
  have second := short address.second
  have third := short address.third
  have fourth := short address.fourth
  rw [chars_eq]
  simp only [List.length_append, List.length_cons]
  omega

end Ipv4

/-! ### Groups of IPv6 -/

namespace Ipv6

theorem hexValue?_digitChar {value : Nat} (small : value < 16) :
    hexValue? value.digitChar = some value := by
  have every : ∀ value < 16, hexValue? value.digitChar = some value := by decide
  exact every value small

theorem mapM_hexValue? (number : Nat) :
    ∃ values, (Nat.toDigits 16 number).mapM hexValue? = some values ∧
      values.foldl (fun value digit => value * 16 + digit) 0 = number := by
  induction number using Nat.strongRecOn with
  | ind number ih =>
      by_cases small : number < 16
      · refine ⟨[number], ?_, by simp⟩
        rw [Nat.toDigits_of_lt_base small]
        simp [hexValue?_digitChar small]
      · obtain ⟨values, read, value⟩ := ih (number / 16) (by omega)
        have last := hexValue?_digitChar (Nat.mod_lt number (by decide : 0 < 16))
        refine ⟨values ++ [number % 16], ?_, ?_⟩
        · rw [Nat.toDigits_of_base_le (by omega) (by omega), List.mapM_append, read]
          simp [last]
        · rw [List.foldl_append, value]
          simp only [List.foldl_cons, List.foldl_nil]
          omega

def digits (group : UInt16) : List Char := Nat.toDigits 16 group.toNat

theorem length_digits_le (group : UInt16) : (digits group).length ≤ 4 :=
  (Nat.length_toDigits_le_iff (by decide) (by decide)).mpr group.toNat_lt

theorem digits_ne_nil (group : UInt16) : digits group ≠ [] := Nat.toDigits_ne_nil

theorem group?_digits (group : UInt16) : group? (digits group) = some group := by
  obtain ⟨values, read, value⟩ := mapM_hexValue? group.toNat
  have sized :
      (decide (1 ≤ (digits group).length) && decide ((digits group).length ≤ 4)) = true := by
    rw [Bool.and_eq_true, decide_eq_true_eq, decide_eq_true_eq]
    exact ⟨List.length_pos_iff.mpr (digits_ne_nil group), length_digits_le group⟩
  have read : (digits group).mapM hexValue? = some values := read
  rw [group?, if_pos sized, read, Option.map_some, value,
    UInt16.ofNat_toNat]

theorem colon_not_mem (group : UInt16) : ':' ∉ digits group := by
  intro member
  obtain ⟨value, small, same⟩ := exists_digitChar_of_mem (by decide) member
  have every : ∀ value < 16, ':' ≠ value.digitChar := by decide
  exact every value small same

theorem joined_eq (groups : List UInt16) : joined groups = [':'].intercalate (groups.map digits) :=
  rfl

theorem joined_cons (group : UInt16) {groups : List UInt16} (more : groups ≠ []) :
    joined (group :: groups) = digits group ++ ':' :: joined groups := by
  rw [joined_eq, List.map_cons, List.intercalate_cons_of_ne_nil (by simpa using more)]
  simp [joined_eq]

theorem joined_ne_nil {groups : List UInt16} (some_ : groups ≠ []) : joined groups ≠ [] := by
  cases groups with
  | nil => exact absurd rfl some_
  | cons group groups =>
      cases groups with
      | nil => simpa [joined_eq] using digits_ne_nil group
      | cons next groups => simp [joined_cons]

theorem fields_joined (groups : List UInt16) : fields (joined groups) = groups.map digits := by
  by_cases none : groups = []
  · subst none
    rfl
  · rw [fields, if_neg (by simpa using joined_ne_nil none), joined_eq, pieces_intercalate]
    · simpa using none
    · intro field member
      obtain ⟨group, _, rfl⟩ := List.mem_map.mp member
      exact colon_not_mem group

theorem mapM_group?_digits (groups : List UInt16) :
    (groups.map digits).mapM group? = some groups := by
  induction groups with
  | nil => rfl
  | cons group groups ih => simp [group?_digits, ih]

theorem groups?_digits (groups : List UInt16) : groups? (groups.map digits) = some groups := by
  induction groups with
  | nil => rfl
  | cons group groups ih =>
      cases groups with
      | nil => simp [groups?, group?_digits]
      | cons next groups =>
          rw [List.map_cons, List.map_cons, groups?, ← List.map_cons, ih]
          · simp [group?_digits]
          · simp

/-! ### The gap -/

theorem splitGap_append_free {front : List Char} (free : ':' ∉ front) (rest : List Char) :
    splitGap (front ++ rest) =
      (splitGap rest).map fun sides => (front ++ sides.1, sides.2) := by
  induction front with
  | nil => simp
  | cons character front ih =>
      have differ : character ≠ ':' := by
        rintro rfl
        exact free (List.mem_cons_self ..)
      have ih := ih fun member => free (List.mem_cons_of_mem _ member)
      rw [List.cons_append, splitGap, ih]
      · cases splitGap rest <;> rfl
      · intro _ same
        exact absurd same differ

/-- A colon with something else behind it is no gap. -/
theorem splitGap_colon {rest : List Char} (other : rest.head? ≠ some ':') :
    splitGap (':' :: rest) = (splitGap rest).map fun sides => (':' :: sides.1, sides.2) := by
  rw [splitGap]
  intro tail _ same
  rw [same] at other
  exact other rfl

theorem head?_joined (groups : List UInt16) (rest : List Char) (some_ : groups ≠ []) :
    (joined groups ++ rest).head? ≠ some ':' := by
  cases groups with
  | nil => exact absurd rfl some_
  | cons group groups =>
      cases shape : digits group with
      | nil => exact absurd shape (digits_ne_nil group)
      | cons digit others =>
          have first : (joined (group :: groups) ++ rest).head? = some digit := by
            cases groups with
            | nil => simp [joined_eq, shape]
            | cons next groups => simp [joined_cons, shape]
          rw [first]
          intro same
          cases same
          apply colon_not_mem group
          rw [shape]
          exact List.mem_cons_self ..

/-- Groups between single colons have no gap among them. -/
theorem splitGap_joined (groups : List UInt16) (rest : List Char) :
    splitGap (joined groups ++ rest) =
      (splitGap rest).map fun sides => (joined groups ++ sides.1, sides.2) := by
  induction groups with
  | nil => simp [joined_eq]
  | cons group groups ih =>
      by_cases last : groups = []
      · subst last
        have alone : joined [group] = digits group := by simp [joined_eq]
        rw [alone]
        exact splitGap_append_free (colon_not_mem group) rest
      · rw [joined_cons group last, List.append_assoc, List.cons_append,
          splitGap_append_free (colon_not_mem group),
          splitGap_colon (head?_joined groups rest last), ih]
        cases splitGap rest <;> simp

theorem splitGap_none (groups : List UInt16) : splitGap (joined groups) = none := by
  have whole := splitGap_joined groups []
  rwa [List.append_nil] at whole

theorem splitGap_gap (groups : List UInt16) (rest : List Char) :
    splitGap (joined groups ++ ':' :: ':' :: rest) = some (joined groups, rest) := by
  rw [splitGap_joined, splitGap]
  simp

/-! ### The run of zeros -/

structure ZeroRun (groups : List UInt16) (run : Nat × Nat) : Prop where
  inside : run.1 + run.2 ≤ groups.length
  zeros : (groups.drop run.1).take run.2 = List.replicate run.2 0

theorem leadingZeros_spec (groups : List UInt16) :
    leadingZeros groups ≤ groups.length ∧
      groups.take (leadingZeros groups) = List.replicate (leadingZeros groups) 0 := by
  unfold leadingZeros
  induction groups with
  | nil => simp
  | cons group groups ih =>
      by_cases zero : group = 0
      · subst zero
        simpa [List.replicate_succ] using ih
      · simp [zero]

theorem zeroRun_spec (groups : List UInt16) : ZeroRun groups (zeroRun groups) := by
  unfold zeroRun
  have every : ∀ (starts : List Nat) (best : Nat × Nat), ZeroRun groups best →
      (∀ start ∈ starts, start < groups.length) →
      ZeroRun groups (starts.foldl (fun best start =>
        let length := leadingZeros (groups.drop start)
        if best.2 < length then (start, length) else best) best) := by
    intro starts
    induction starts with
    | nil => exact fun best holds _ => holds
    | cons start starts ih =>
        intro best holds bounded
        refine ih _ ?_ fun other member => bounded other (List.mem_cons_of_mem _ member)
        have here := bounded start (List.mem_cons_self ..)
        obtain ⟨short, zeros⟩ := leadingZeros_spec (groups.drop start)
        rw [List.length_drop] at short
        simp only
        split
        · exact ⟨by simp only; omega, zeros⟩
        · exact holds
  refine every _ (0, 0) ⟨by simp, by simp⟩ ?_
  intro start member
  exact List.mem_range.mp member

theorem ZeroRun.filled {groups : List UInt16} {run : Nat × Nat} (zeroes : ZeroRun groups run) :
    groups.take run.1 ++ List.replicate run.2 0 ++ groups.drop (run.1 + run.2) = groups := by
  rw [← zeroes.zeros, ← List.drop_drop, List.append_assoc, List.take_append_drop,
    List.take_append_drop]

/-! ### Addresses -/

theorem ofGroups?_groups (address : Ipv6) : ofGroups? address.groups = some address := by
  rw [ofGroups?, dif_pos address.length_groups]

theorem parse?_joined (address : Ipv6) : parse? (joined address.groups) = some address := by
  rw [parse?, splitGap_none]
  simp only
  rw [fields_joined, groups?_digits, Option.bind_some, ofGroups?_groups]

theorem parse?_gap (address : Ipv6) {run : Nat × Nat} (zeroes : ZeroRun address.groups run)
    (some_ : 0 < run.2) :
    parse? (joined (address.groups.take run.1) ++ [':', ':'] ++
      joined (address.groups.drop (run.1 + run.2))) = some address := by
  have inside := zeroes.inside
  have length := address.length_groups
  have front : (address.groups.take run.1).length = run.1 := by
    rw [List.length_take]
    omega
  have back : (address.groups.drop (run.1 + run.2)).length = 8 - (run.1 + run.2) := by
    rw [List.length_drop, length]
  have missing : 8 - run.1 - (8 - (run.1 + run.2)) = run.2 := by omega
  rw [parse?, List.append_assoc]
  simp only [List.cons_append, List.nil_append, splitGap_gap, fields_joined, mapM_group?_digits,
    groups?_digits, front, back, Option.bind_eq_bind, Option.bind_some]
  rw [if_pos (by omega), missing, zeroes.filled, ofGroups?_groups]

/-! ### The dotted tail -/

theorem group?_quad (quad : Ipv4) : group? quad.chars = none := by
  have dot : hexValue? '.' = none := by decide
  have unread : quad.chars.mapM hexValue? = none := by
    rw [Ipv4.chars_eq, List.mapM_append, List.mapM_cons, dot]
    cases (Nat.toDigits 10 quad.first.toNat).mapM hexValue? <;> rfl
  rw [group?, unread]
  split <;> rfl

theorem colon_not_mem_quad (quad : Ipv4) : ':' ∉ quad.chars := by
  have free : ∀ number, ':' ∉ Nat.toDigits 10 number := by
    intro number member
    cases isDigit_of_mem_toDigits member
  simp [Ipv4.chars_eq, free]

theorem parse?_tail (quad : Ipv4) :
    parse? ("::ffff:".toList ++ quad.chars) =
      ofGroups? ([0, 0, 0, 0, 0, 0xFFFF] ++ ofIpv4 quad) := by
  have cut : fields (['f', 'f', 'f', 'f'] ++ ':' :: quad.chars) =
      [['f', 'f', 'f', 'f'], quad.chars] := by
    have free : ∀ digit ∈ ['f', 'f', 'f', 'f'], (digit == ':') = false := by simp
    rw [fields, if_neg (by simp), pieces_eq_splitOnP,
      List.splitOnP_append_cons_of_forall_mem free _ (by decide), List.splitOnP_eq_singleton]
    intro character member
    rw [beq_eq_false_iff_ne]
    rintro rfl
    exact colon_not_mem_quad quad member
  have front : group? ['f', 'f', 'f', 'f'] = some 0xFFFF := by decide
  have back : groups? [['f', 'f', 'f', 'f'], quad.chars] = some (0xFFFF :: ofIpv4 quad) := by
    rw [groups?, front, groups?, group?_quad, Ipv4.parse?_chars]
    · rfl
    · simp
  have whole : "::ffff:".toList ++ quad.chars =
      ':' :: ':' :: (['f', 'f', 'f', 'f'] ++ ':' :: quad.chars) := rfl
  rw [whole, parse?, splitGap]
  simp only [cut, back]
  rfl

theorem ofIpv4_halves (high low : UInt16) :
    ofIpv4 ⟨(high / 256).toUInt8, (high % 256).toUInt8, (low / 256).toUInt8,
      (low % 256).toUInt8⟩ = [high, low] := by
  have whole : ∀ group : UInt16,
      (group / 256).toUInt8.toUInt16 * 256 + (group % 256).toUInt8.toUInt16 = group := by
    intro group
    have small := group.toNat_lt
    apply UInt16.toNat_inj.mp
    simp
    omega
  simp only [ofIpv4, whole]

theorem groups_of_mapped {address : Ipv6} {quad : Ipv4} (mapped : address.mapped? = some quad) :
    [0, 0, 0, 0, 0, 0xFFFF] ++ ofIpv4 quad = address.groups := by
  unfold mapped? at mapped
  split at mapped
  · rename_i high low groups
    cases mapped
    rw [groups, ofIpv4_halves]
    rfl
  · cases mapped

/-- Every IPv6 address is read back from its text. -/
theorem parse?_chars (address : Ipv6) : parse? address.chars = some address := by
  unfold chars
  split
  · rename_i quad mapped
    rw [parse?_tail, groups_of_mapped mapped, ofGroups?_groups]
  · by_cases gap : 1 < (zeroRun address.groups).2
    · simp only [if_pos gap]
      exact parse?_gap address (zeroRun_spec address.groups) (by omega)
    · simp only [if_neg gap]
      exact parse?_joined address

/-! ### What the texts are made of -/

theorem mem_joined {groups : List UInt16} {character : Char} (member : character ∈ joined groups) :
    character = ':' ∨ ∃ value < 16, character = value.digitChar := by
  have numeral : ∀ {group : UInt16}, character ∈ digits group →
      ∃ value < 16, character = value.digitChar := exists_digitChar_of_mem (by decide)
  induction groups with
  | nil => cases member
  | cons group groups ih =>
      by_cases last : groups = []
      · subst last
        exact .inr (numeral (by simpa [joined_eq] using member))
      · rw [joined_cons group last, List.mem_append, List.mem_cons] at member
        rcases member with here | colon | later
        · exact .inr (numeral here)
        · exact .inl colon
        · exact ih later

theorem length_joined_le (groups : List UInt16) : (joined groups).length ≤ 5 * groups.length := by
  induction groups with
  | nil => exact Nat.le_refl 0
  | cons group groups ih =>
      have short := length_digits_le group
      by_cases last : groups = []
      · subst last
        simp only [joined_eq, List.map_cons, List.map_nil, List.intercalate_singleton,
          List.length_singleton]
        omega
      · rw [joined_cons group last, List.length_append, List.length_cons, List.length_cons]
        omega

theorem mem_chars {address : Ipv6} {character : Char} (member : character ∈ address.chars) :
    character = ':' ∨ character = '.' ∨ ∃ value < 16, character = value.digitChar := by
  have among : ∀ {groups : List UInt16}, character ∈ joined groups →
      character = ':' ∨ character = '.' ∨ ∃ value < 16, character = value.digitChar := by
    intro groups member
    rcases mem_joined member with colon | numeral
    · exact .inl colon
    · exact .inr (.inr numeral)
  unfold chars at member
  split at member
  · rename_i quad _
    rcases List.mem_append.mp member with prefixed | tail
    · have whole : "::ffff:".toList = [':', ':', 'f', 'f', 'f', 'f', ':'] := rfl
      rw [whole] at prefixed
      simp only [List.mem_cons, List.not_mem_nil, or_false] at prefixed
      have letter : 'f' = Nat.digitChar 15 := rfl
      rcases prefixed with rfl | rfl | rfl | rfl | rfl | rfl | rfl
      all_goals first | exact .inl rfl | exact .inr (.inr ⟨15, by decide, letter⟩)
    · rcases Ipv4.mem_chars tail with dot | ⟨value, small, same⟩
      · exact .inr (.inl dot)
      · exact .inr (.inr ⟨value, by omega, same⟩)
  · simp only at member
    split at member
    · rw [List.mem_append, List.mem_append] at member
      rcases member with (front | gap) | back
      · exact among front
      · exact .inl (by simpa using gap)
      · exact among back
    · exact among member

theorem length_chars_le (address : Ipv6) : address.chars.length ≤ 42 := by
  unfold chars
  split
  · rename_i quad _
    have tail := quad.length_chars_le
    have front : "::ffff:".toList.length = 7 := rfl
    rw [List.length_append]
    omega
  · have length := address.length_groups
    simp only
    split
    · have front := length_joined_le (address.groups.take (zeroRun address.groups).1)
      have back := length_joined_le (address.groups.drop
        ((zeroRun address.groups).1 + (zeroRun address.groups).2))
      have inside := (zeroRun_spec address.groups).inside
      rw [List.length_take] at front
      rw [List.length_drop] at back
      simp only [List.length_append, List.length_cons, List.length_nil]
      omega
    · have all := length_joined_le address.groups
      omega

end Ipv6

end Superserver
