import Superserver.Net.RawAddress
import Superserver.Proofs.Net.AddressText

/-!
Addresses in the kernel's form. Main statement: the addresses that have no such form are the unix
paths and X.25 addresses that do not fit their fields, and every other one is found again in its
form, which is zero wherever no part of the address stands.
-/

namespace Superserver

open Text

/-! ### What the form of an address is -/

namespace ListenAddress

/-- What does not fit: a path that leaves no room for the closing NUL or holds one itself, and
digits that leave no room for theirs. -/
def Unfit : ListenAddress → Prop
  | .unix path => 108 ≤ path.length ∨ 0 ∈ path
  | .x25 digits => 16 ≤ digits.utf8ByteSize
  | _ => False

instance (address : ListenAddress) : Decidable address.Unfit :=
  match address with
  | .unix path => inferInstanceAs (Decidable (108 ≤ path.length ∨ 0 ∈ path))
  | .x25 digits => inferInstanceAs (Decidable (16 ≤ digits.utf8ByteSize))
  | .inet _ _ | .inet6 _ _ _ _ | .vsock _ _ => inferInstanceAs (Decidable False)

/-- X.25 digits are digits; the type of an address alone does not say so. -/
def Digital : ListenAddress → Prop
  | .x25 digits => digits.toList.all isDigit = true
  | _ => True

instance (address : ListenAddress) : Decidable address.Digital :=
  match address with
  | .x25 digits => inferInstanceAs (Decidable (digits.toList.all isDigit = true))
  | .inet _ _ | .inet6 _ _ _ _ | .unix _ | .vsock _ _ => inferInstanceAs (Decidable True)

theorem digital_of_textual {address : ListenAddress} (textual : address.Textual) :
    address.Digital := by
  cases address with
  | x25 digits => exact textual.2
  | _ => trivial

def familyNumber : ListenAddress → Nat
  | .inet _ _ => 2
  | .inet6 _ _ _ _ => 10
  | .unix _ => 1
  | .vsock _ _ => 40
  | .x25 _ => 9

def rawLength : ListenAddress → Nat
  | .inet _ _ => 16
  | .inet6 _ _ _ _ => 28
  | .unix _ => 110
  | .vsock _ _ => 16
  | .x25 _ => 18

/-- The positions of the storage that the family and the parts of the address take. -/
def Occupies (address : ListenAddress) (position : Nat) : Prop :=
  match address with
  | .inet _ _ => position < 8
  | .inet6 _ _ _ _ => position < 28
  | .unix path => position < 2 + path.length
  | .vsock _ _ => position < 2 ∨ (4 ≤ position ∧ position < 12)
  | .x25 digits => position < 2 + digits.utf8ByteSize

def peer : ListenAddress → PeerAddress
  | .inet ip port => .inet ip port
  | .inet6 ip port flowInfo scopeId => .inet6 ip port flowInfo scopeId
  | .unix [] => .unix none
  | .unix path => .unix (some path)
  | .vsock port cid => .vsock cid port
  | .x25 digits => .x25 digits

end ListenAddress

/-- The form says the address and nothing else. -/
structure RawAddress.Faithful (raw : RawAddress) (address : ListenAddress) : Prop where
  family : raw.family = address.familyNumber
  length : raw.length = address.rawLength
  blank : ∀ position < 128, ¬ address.Occupies position → raw.storage[position]? = some 0
  decoded : raw.decode = .ok address.peer

/-! ### Numbers in bytes -/

@[simp] theorem length_littleEndian (count value : Nat) :
    (littleEndian count value).length = count := by
  induction count generalizing value with
  | zero => rfl
  | succ count ih => simp [littleEndian, ih]

namespace RawAddress

@[simp] theorem length_portBytes (port : UInt16) : (portBytes port).length = 2 := by
  simp [portBytes]

theorem length_groups (ip : Ipv6) : (ip.groups.flatMap groupBytes).length = 16 := by
  have pair : ∀ group, (groupBytes group).length = 2 := by simp [groupBytes]
  rw [List.length_flatMap, List.map_congr_left fun group _ => pair group, List.map_const',
    List.sum_replicate_nat, ip.length_groups]

theorem port_of_field {raw : RawAddress} {port : UInt16} (field : raw.field 2 2 = portBytes port) :
    raw.port = port := by
  rw [RawAddress.port, field, portBytes, List.reverse_reverse,
    ofLittleEndian_littleEndian 2 port.toNat port.toNat_lt, UInt16.ofNat_toNat]

theorem word_of_field {raw : RawAddress} {start : Nat} {value : UInt32}
    (field : raw.field start 4 = littleEndian 4 value.toNat) :
    UInt32.ofNat (raw.number start 4) = value := by
  rw [number, field, ofLittleEndian_littleEndian 4 value.toNat value.toNat_lt, UInt32.ofNat_toNat]

theorem groupsOf_groupBytes (groups : List UInt16) :
    groupsOf (groups.flatMap groupBytes) = groups := by
  induction groups with
  | nil => rfl
  | cons group groups ih =>
      have whole : (UInt8.ofNat (group.toNat / 256)).toUInt16 * 256 +
          (UInt8.ofNat group.toNat).toUInt16 = group := by
        have small := group.toNat_lt
        apply UInt16.toNat_inj.mp
        simp
        omega
      have pair : groupBytes group =
          [UInt8.ofNat (group.toNat / 256), UInt8.ofNat group.toNat] := rfl
      rw [List.flatMap_cons, pair]
      simp only [List.cons_append, List.nil_append, groupsOf, ih, whole]

/-! ### Fields -/

theorem field_of_append {raw : RawAddress} {front middle back : Bytes}
    (storage : raw.storage = front ++ middle ++ back) {start count : Nat}
    (before : front.length = start) (size : middle.length = count) :
    raw.field start count = middle := by
  subst before size
  rw [field, storage, List.append_assoc, List.drop_left, List.take_left]

section Parts

variable {raw : RawAddress} {family length : Nat} {payload : Bytes}
  (formed : raw = ofParts family payload length) (fits : payload.length ≤ 126)
include formed fits

theorem storage_ofParts :
    raw.storage = littleEndian 2 family ++ payload ++ List.replicate (126 - payload.length) 0 := by
  have total : (littleEndian 2 family ++ payload).length = 2 + payload.length := by simp
  have short : (littleEndian 2 family ++ payload).length ≤ 128 := by omega
  have rest : 128 - (littleEndian 2 family ++ payload).length = 126 - payload.length := by omega
  rw [formed]
  dsimp only [ofParts, padded]
  rw [List.take_of_length_le short, rest]

theorem family_ofParts (small : family < 65536) : raw.family = family := by
  have storage : raw.storage =
      [] ++ littleEndian 2 family ++ (payload ++ List.replicate (126 - payload.length) 0) := by
    rw [storage_ofParts formed fits, List.append_assoc]
    rfl
  have word : raw.field 0 2 = littleEndian 2 family :=
    field_of_append storage rfl (length_littleEndian 2 family)
  rw [RawAddress.family, number, word, ofLittleEndian_littleEndian 2 family small]

/-- A part of the payload stands two bytes further on in the storage. -/
theorem field_ofParts (front middle back : Bytes) (same : payload = front ++ middle ++ back)
    {start count : Nat} (before : 2 + front.length = start) (size : middle.length = count) :
    raw.field start count = middle := by
  have storage : raw.storage = (littleEndian 2 family ++ front) ++ middle ++
      (back ++ List.replicate (126 - payload.length) 0) := by
    rw [storage_ofParts formed fits, same]
    simp
  refine field_of_append storage ?_ size
  rw [List.length_append, length_littleEndian, before]

theorem blank_ofParts {position : Nat} (after : 2 + payload.length ≤ position)
    (inside : position < 128) : raw.storage[position]? = some 0 := by
  have total : (littleEndian 2 family ++ payload).length = 2 + payload.length := by simp
  have ends : (littleEndian 2 family ++ payload).length ≤ position := by omega
  rw [storage_ofParts formed fits, List.getElem?_append_right ends, List.getElem?_replicate,
    if_pos (by omega)]

/-- A payload without zeros is followed by one wherever a field of the payload goes on. -/
theorem untilNul_ofParts (free : 0 ∉ payload) {count : Nat} (room : payload.length ≤ count) :
    untilNul (raw.field 2 count) = payload := by
  have differ : ∀ byte ∈ payload, (byte != 0) = true := by
    intro byte member
    rw [bne_iff_ne]
    rintro rfl
    exact free member
  have zeros : ∀ size, (List.replicate size (0 : UInt8)).takeWhile (· != 0) = [] := by
    intro size
    cases size <;> rfl
  have field : raw.field 2 count =
      payload ++ (List.replicate (126 - payload.length) 0).take (count - payload.length) := by
    rw [RawAddress.field, storage_ofParts formed fits, List.append_assoc,
      List.drop_left' (length_littleEndian 2 family), List.take_append, List.take_of_length_le room]
  rw [field, untilNul, List.takeWhile_append_of_pos differ, List.take_replicate, zeros,
    List.append_nil]

end Parts

/-! ### The families -/

section Families

variable {raw : RawAddress}

theorem faithful_inet {ip : Ipv4} {port : UInt16}
    (formed : raw = ofParts Family.inet (portBytes port ++ ip.octets) 16) :
    raw.Faithful (.inet ip port) := by
  have size : (portBytes port ++ ip.octets).length = 6 := rfl
  have fits : (portBytes port ++ ip.octets).length ≤ 126 := by omega
  have numbered : raw.family = 2 := family_ofParts formed fits (by decide)
  have portField : raw.field 2 2 = portBytes port :=
    field_ofParts formed fits [] (portBytes port) ip.octets rfl rfl rfl
  have octets : raw.field 4 4 = ip.octets :=
    field_ofParts formed fits (portBytes port) ip.octets [] (by simp) rfl rfl
  constructor
  · exact numbered
  · rw [formed]
    rfl
  · intro position inside free
    have after : 8 ≤ position := Nat.le_of_not_lt free
    exact blank_ofParts formed fits (by omega) inside
  · rw [decode, numbered, octets, port_of_field portField]
    rfl

theorem faithful_inet6 {ip : Ipv6} {port : UInt16} {flowInfo scopeId : UInt32}
    (formed : raw = ofParts Family.inet6
      (portBytes port ++ littleEndian 4 flowInfo.toNat ++ ip.groups.flatMap groupBytes ++
        littleEndian 4 scopeId.toNat) 28) :
    raw.Faithful (.inet6 ip port flowInfo scopeId) := by
  have size : (portBytes port ++ littleEndian 4 flowInfo.toNat ++ ip.groups.flatMap groupBytes ++
      littleEndian 4 scopeId.toNat).length = 26 := by
    simp only [List.length_append, length_portBytes, length_littleEndian, length_groups]
  have fits := Nat.le_trans (Nat.le_of_eq size) (show 26 ≤ 126 by decide)
  have numbered : raw.family = 10 := family_ofParts formed fits (by decide)
  have portField : raw.field 2 2 = portBytes port :=
    field_ofParts formed fits [] (portBytes port)
      (littleEndian 4 flowInfo.toNat ++ ip.groups.flatMap groupBytes ++
        littleEndian 4 scopeId.toNat) (by simp) rfl rfl
  have flow : raw.field 4 4 = littleEndian 4 flowInfo.toNat :=
    field_ofParts formed fits (portBytes port) (littleEndian 4 flowInfo.toNat)
      (ip.groups.flatMap groupBytes ++ littleEndian 4 scopeId.toNat) (by simp) rfl rfl
  have groups : raw.field 8 16 = ip.groups.flatMap groupBytes :=
    field_ofParts formed fits (portBytes port ++ littleEndian 4 flowInfo.toNat)
      (ip.groups.flatMap groupBytes) (littleEndian 4 scopeId.toNat) rfl rfl (length_groups ip)
  have scope : raw.field 24 4 = littleEndian 4 scopeId.toNat :=
    field_ofParts formed fits
      (portBytes port ++ littleEndian 4 flowInfo.toNat ++ ip.groups.flatMap groupBytes)
      (littleEndian 4 scopeId.toNat) [] (by simp)
      (by simp only [List.length_append, length_portBytes, length_littleEndian, length_groups]) rfl
  constructor
  · exact numbered
  · rw [formed]
    rfl
  · intro position inside free
    have after : 28 ≤ position := Nat.le_of_not_lt free
    exact blank_ofParts formed fits (by omega) inside
  · rw [decode, numbered, groups, groupsOf_groupBytes, Ipv6.ofGroups?_groups,
      port_of_field portField, word_of_field flow, word_of_field scope]
    rfl

theorem faithful_unix {path : Bytes} (short : path.length < 108) (free : 0 ∉ path)
    (formed : raw = ofParts Family.unix path 110) : raw.Faithful (.unix path) := by
  have fits : path.length ≤ 126 := by omega
  have numbered : raw.family = 1 := family_ofParts formed fits (by decide)
  have told : raw.length = 110 := by
    rw [formed]
    rfl
  have found : raw.unixPath = path := by
    rw [unixPath, told]
    exact untilNul_ofParts formed fits free (Nat.le_of_lt short)
  constructor
  · exact numbered
  · exact told
  · intro position inside free
    exact blank_ofParts formed fits (Nat.le_of_not_lt free) inside
  · rw [decode, numbered, found]
    cases path <;> rfl

theorem faithful_vsock {port cid : UInt32}
    (formed : raw = ofParts Family.vsock
      ([0, 0] ++ littleEndian 4 port.toNat ++ littleEndian 4 cid.toNat) 16) :
    raw.Faithful (.vsock port cid) := by
  have size : ([0, 0] ++ littleEndian 4 port.toNat ++ littleEndian 4 cid.toNat).length = 10 := rfl
  have fits := Nat.le_trans (Nat.le_of_eq size) (show 10 ≤ 126 by decide)
  have numbered : raw.family = 40 := family_ofParts formed fits (by decide)
  have portField : raw.field 4 4 = littleEndian 4 port.toNat :=
    field_ofParts formed fits [0, 0] (littleEndian 4 port.toNat) (littleEndian 4 cid.toNat)
      rfl rfl rfl
  have cidField : raw.field 8 4 = littleEndian 4 cid.toNat :=
    field_ofParts formed fits ([0, 0] ++ littleEndian 4 port.toNat) (littleEndian 4 cid.toNat) []
      (by simp) rfl rfl
  constructor
  · exact numbered
  · rw [formed]
    rfl
  · intro position inside free
    -- Two reserved bytes stand between the family and the port.
    by_cases early : position < 4
    · have between : position = 2 ∨ position = 3 := by
        simp only [ListenAddress.Occupies, not_or] at free
        omega
      rw [storage_ofParts formed fits]
      rcases between with rfl | rfl <;> rfl
    · have after : 12 ≤ position := by
        simp only [ListenAddress.Occupies, not_or] at free
        omega
      exact blank_ofParts formed fits (by omega) inside
  · rw [decode, numbered, word_of_field cidField, word_of_field portField]
    rfl

theorem faithful_x25 {digits : String} (short : digits.utf8ByteSize < 16)
    (numeric : digits.toList.all isDigit = true)
    (formed : raw = ofParts Family.x25 (bytesOf digits) 18) : raw.Faithful (.x25 digits) := by
  have size := length_bytesOf digits
  have fits : (bytesOf digits).length ≤ 126 := by omega
  have numbered : raw.family = 9 := family_ofParts formed fits (by decide)
  have among : ∀ digit ∈ digits.toList, 0 < digit.toNat ∧ digit.toNat < 0x80 := by
    intro digit member
    have bounds := List.all_eq_true.mp numeric digit member
    simp only [isDigit, Bool.and_eq_true, decide_eq_true_eq] at bounds
    have least : '0'.toNat ≤ digit.toNat := bounds.1
    have most : digit.toNat ≤ '9'.toNat := bounds.2
    have zero : '0'.toNat = 48 := rfl
    have nine : '9'.toNat = 57 := rfl
    omega
  have bytes : bytesOf digits = digits.toList.map fun digit => UInt8.ofNat digit.toNat := by
    rw [← bytesOf_of_ascii fun digit member => (among digit member).2, String.ofList_toList]
  have narrow : ∀ digit ∈ digits.toList, (UInt8.ofNat digit.toNat).toNat = digit.toNat := by
    intro digit member
    have bound := (among digit member).2
    exact UInt8.toNat_ofNat_of_lt' (Nat.lt_trans bound (by decide))
  have free : 0 ∉ bytesOf digits := by
    rw [bytes]
    intro zero
    obtain ⟨digit, member, same⟩ := List.mem_map.mp zero
    have value := narrow digit member
    have positive := (among digit member).1
    rw [same, UInt8.toNat_zero] at value
    omega
  have found : untilNul (raw.field 2 x25Room) = bytesOf digits :=
    untilNul_ofParts formed fits free (by rw [size]; exact Nat.le_of_lt short)
  -- The kernel's form has one byte for each digit, so taking bytes for characters undoes it.
  have read : (bytesOf digits).map (fun byte => Char.ofNat byte.toNat) = digits.toList := by
    rw [bytes, List.map_map]
    refine Eq.trans (List.map_congr_left ?_) (List.map_id _)
    intro digit member
    rw [Function.comp_apply, narrow digit member, Char.ofNat_toNat]
    rfl
  constructor
  · exact numbered
  · rw [formed]
    rfl
  · intro position inside free
    have after : 2 + digits.utf8ByteSize ≤ position := Nat.le_of_not_lt free
    exact blank_ofParts formed fits (by omega) inside
  · rw [decode, numbered, found, read, String.ofList_toList]
    rfl

end Families

/-! ### Encoding -/

theorem encode_of_unfit {address : ListenAddress} (unfit : address.Unfit) :
    ∃ fault, encode address = .error fault := by
  cases address with
  | inet ip port => exact unfit.elim
  | inet6 ip port flowInfo scopeId => exact unfit.elim
  | unix path =>
      have refused : (decide (ListenAddress.pathRoom ≤ path.length) || path.contains 0) = true := by
        rw [Bool.or_eq_true, decide_eq_true_eq, List.contains_iff_mem]
        exact unfit
      exact ⟨unusablePath path, if_pos refused⟩
  | vsock port cid => exact unfit.elim
  | x25 digits => exact ⟨_, if_pos unfit⟩

theorem encode_of_fit {address : ListenAddress} (fit : ¬ address.Unfit) :
    ∃ raw, encode address = .ok raw ∧ (address.Digital → raw.Faithful address) := by
  cases address with
  | inet ip port => exact ⟨_, rfl, fun _ => faithful_inet rfl⟩
  | inet6 ip port flowInfo scopeId => exact ⟨_, rfl, fun _ => faithful_inet6 rfl⟩
  | unix path =>
      have accepted :
          ¬ (decide (ListenAddress.pathRoom ≤ path.length) || path.contains 0) = true := by
        rw [Bool.or_eq_true, decide_eq_true_eq, List.contains_iff_mem]
        exact fit
      have short : path.length < 108 := Nat.lt_of_not_le fun long => fit (.inl long)
      have free : 0 ∉ path := fun member => fit (.inr member)
      exact ⟨_, if_neg accepted, fun _ => faithful_unix short free rfl⟩
  | vsock port cid => exact ⟨_, rfl, fun _ => faithful_vsock rfl⟩
  | x25 digits =>
      have short : digits.utf8ByteSize < 16 := Nat.lt_of_not_le fit
      exact ⟨_, if_neg fit, fun digital => faithful_x25 short digital rfl⟩

/-- The parser's own bounds leave room for every closing NUL. -/
theorem unfit_iff_of_textual {address : ListenAddress} (textual : address.Textual) :
    address.Unfit ↔ ∃ path, address = .unix path ∧ 0 ∈ path := by
  cases address with
  | inet ip port => simp [ListenAddress.Unfit]
  | inet6 ip port flowInfo scopeId => simp [ListenAddress.Unfit]
  | unix path =>
      obtain ⟨name, _, short, rfl⟩ := textual
      have room : ListenAddress.pathRoom = 108 := rfl
      constructor
      · rintro (long | zero)
        · rw [length_bytesOf] at long
          omega
        · exact ⟨bytesOf name, rfl, zero⟩
      · rintro ⟨path, same, zero⟩
        cases same
        exact .inr zero
  | vsock port cid => simp [ListenAddress.Unfit]
  | x25 digits =>
      have short := textual.1
      have most : ListenAddress.x25DigitsMax = 15 := rfl
      simp only [ListenAddress.Unfit, reduceCtorEq, false_and, exists_false, iff_false]
      omega

/-- An address has a kernel's form if it fits, and its form says it faithfully. What a text can
say fits, but for a path with a NUL. -/
theorem encode_faithful (address : ListenAddress) :
    ((∃ fault, encode address = .error fault) ↔ address.Unfit) ∧
      (¬ address.Unfit →
        ∃ raw, encode address = .ok raw ∧ (address.Digital → raw.Faithful address)) ∧
      ∀ spelling, ListenAddress.parse spelling = .ok address →
        (¬ ∃ path, address = .unix path ∧ 0 ∈ path) →
          ∃ raw, encode address = .ok raw ∧ raw.Faithful address := by
  refine ⟨⟨?_, encode_of_unfit⟩, encode_of_fit, ?_⟩
  · rintro ⟨fault, failed⟩
    by_cases unfit : address.Unfit
    · exact unfit
    · obtain ⟨raw, encoded, _⟩ := encode_of_fit unfit
      rw [encoded] at failed
      cases failed
  · intro spelling read free
    have textual := ListenAddress.textual_of_parse read
    have fit : ¬ address.Unfit := fun unfit => free ((unfit_iff_of_textual textual).mp unfit)
    obtain ⟨raw, encoded, faithful⟩ := encode_of_fit fit
    exact ⟨raw, encoded, faithful (ListenAddress.digital_of_textual textual)⟩

/-- Port and context identifier keep their places, and a path with a NUL is read but has no
form. -/
theorem encode_faithful_at :
    (∃ raw, encode (.vsock 8 3) = .ok raw ∧ raw.decode = .ok (.vsock 3 8)) ∧
    (∃ raw, encode (.x25 "0123") = .ok raw ∧ raw.length = 18 ∧
      raw.decode = .ok (.x25 "0123")) ∧
    (∃ fault, encode (.x25 "0123456789012345") = .error fault) ∧
    (ListenAddress.parse "unix a\x00b" = .ok (.unix [97, 0, 98]) ∧
      ∃ fault, encode (.unix [97, 0, 98]) = .error fault) ∧
    (ListenAddress.parse "unix" = .ok (.unix (bytesOf "serve.sock")) ∧
      ∃ raw, encode (.unix (bytesOf "serve.sock")) = .ok raw ∧
        raw.decode = .ok (.unix (some (bytesOf "serve.sock")))) := by
  refine ⟨?_, ?_, ?_, ?_, ?_⟩
  · obtain ⟨raw, encoded, faithful⟩ := (encode_faithful (.vsock 8 3)).2.1 id
    exact ⟨raw, encoded, (faithful trivial).decoded⟩
  · obtain ⟨raw, encoded, faithful⟩ := (encode_faithful (.x25 "0123")).2.1 (by decide)
    have digital : ListenAddress.Digital (.x25 "0123") := by decide
    exact ⟨raw, encoded, (faithful digital).length, (faithful digital).decoded⟩
  · exact (encode_faithful (.x25 "0123456789012345")).1.mpr (by decide)
  · exact ⟨rfl, (encode_faithful (.unix [97, 0, 98])).1.mpr (.inr (by decide))⟩
  · have named : ListenAddress.parse "unix" = .ok (.unix (bytesOf "serve.sock")) := rfl
    have free : ¬ ∃ path, ListenAddress.unix (bytesOf "serve.sock") = .unix path ∧ 0 ∈ path := by
      rintro ⟨path, same, zero⟩
      cases same
      exact absurd zero (by decide)
    obtain ⟨raw, encoded, faithful⟩ :=
      (encode_faithful (.unix (bytesOf "serve.sock"))).2.2 "unix" named free
    exact ⟨named, raw, encoded, faithful.decoded⟩

end RawAddress

end Superserver
