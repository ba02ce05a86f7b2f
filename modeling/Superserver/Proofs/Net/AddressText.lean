import Superserver.Net.ListenAddress
import Superserver.Proofs.Net.IpText
import Superserver.Proofs.Text.Decoding

/-!
The texts of listen addresses. Main statement: an address that was read from a text, in whatever
spelling, is written in a text from which the same address is read.
-/

namespace Superserver

open Text

namespace ListenAddress

/-- Whether a text can say the address. -/
def Textual : ListenAddress → Prop
  | .inet _ _ | .vsock _ _ => True
  | .inet6 _ _ flowInfo scopeId => flowInfo = 0 ∧ scopeId = 0
  | .unix path => ∃ text : String, text ≠ "" ∧ text.utf8ByteSize < pathRoom ∧ path = bytesOf text
  | .x25 digits => digits.utf8ByteSize ≤ x25DigitsMax ∧ digits.toList.all isDigit = true

/-! ### What is read can be said -/

theorem exists_of_map_parsePort {digits : List Char} {build : UInt16 → ListenAddress}
    {address : ListenAddress} (read : (parsePort digits).map build = .ok address) :
    ∃ port, address = build port := by
  cases number : parsePort digits with
  | error fault =>
      rw [number] at read
      cases read
  | ok port =>
      rw [number] at read
      cases read
      exact ⟨port, rfl⟩

theorem textual_of_parseInet {rest : List Char} {address : ListenAddress}
    (read : parseInet rest = .ok address) : address.Textual := by
  unfold parseInet at read
  split at read
  · cases read
    trivial
  · dsimp only at read
    split at read
    · cases read
    · split at read
      · cases read
      · obtain ⟨port, rfl⟩ := exists_of_map_parsePort read
        trivial

theorem textual_of_parseInet6 {rest : List Char} {address : ListenAddress}
    (read : parseInet6 rest = .ok address) : address.Textual := by
  unfold parseInet6 at read
  split at read
  · cases read
    exact ⟨rfl, rfl⟩
  · dsimp only at read
    split at read
    · cases read
    · split at read
      · cases read
      · split at read
        · cases read
        · obtain ⟨port, rfl⟩ := exists_of_map_parsePort read
          exact ⟨rfl, rfl⟩

theorem textual_of_parseUnix {rest : List Char} {address : ListenAddress}
    (read : parseUnix rest = .ok address) : address.Textual := by
  have named : (if rest.isEmpty then defaultPath else String.ofList rest) ≠ "" := by
    split
    · decide
    · rename_i some_
      intro empty
      apply some_
      have none := String.toList_inj.mpr empty
      rw [String.toList_ofList] at none
      rw [none]
      rfl
  unfold parseUnix at read
  by_cases long : pathRoom ≤ (if rest.isEmpty then defaultPath else String.ofList rest).utf8ByteSize
  · rw [if_pos long] at read
    cases read
  · rw [if_neg long] at read
    cases read
    exact ⟨_, named, Nat.lt_of_not_le long, rfl⟩

theorem textual_of_parseVsock {rest : List Char} {address : ListenAddress}
    (read : parseVsock rest = .ok address) : address.Textual := by
  unfold parseVsock at read
  split at read
  · cases read
  · split at read
    · cases read
    · split at read
      · cases read
        trivial
      · cases read

theorem textual_of_parseX25 {rest : List Char} {address : ListenAddress}
    (read : parseX25 rest = .ok address) : address.Textual := by
  unfold parseX25 at read
  dsimp only at read
  split at read
  · cases read
  · rename_i short
    split at read
    · rename_i numeric
      cases read
      rw [← String.toList_ofList (l := rest)] at numeric
      exact ⟨Nat.le_of_not_lt short, numeric⟩
    · cases read

theorem textual_of_parse {spelling : String} {address : ListenAddress}
    (read : parse spelling = .ok address) : address.Textual := by
  unfold parse at read
  dsimp only at read
  split at read
  · exact textual_of_parseInet read
  · exact textual_of_parseInet6 read
  · exact textual_of_parseUnix read
  · exact textual_of_parseVsock read
  · exact textual_of_parseX25 read
  · cases read

/-! ### The word of the family, a space and the rest -/

def reader : ListenAddress → List Char → Except AddressError ListenAddress
  | .inet _ _ => parseInet
  | .inet6 _ _ _ _ => parseInet6
  | .unix _ => parseUnix
  | .vsock _ _ => parseVsock
  | .x25 _ => parseX25

def remainder : ListenAddress → List Char
  | .inet ip port => ip.chars ++ ' ' :: Nat.toDigits 10 port.toNat
  | .inet6 ip port _ _ => ip.chars ++ ' ' :: Nat.toDigits 10 port.toNat
  | .unix path => (Utf8.decodeLossy path).toList
  | .vsock port cid => Nat.toDigits 10 port.toNat ++ ' ' :: Nat.toDigits 10 cid.toNat
  | .x25 digits => digits.toList

theorem text_eq (address : ListenAddress) :
    address.text = String.ofList (address.family.toList ++ ' ' :: address.remainder) := by
  apply String.toList_inj.mp
  cases address <;> simp [text, family, remainder, toString]

theorem parse_family (address : ListenAddress) (rest : List Char) :
    parse (String.ofList (address.family.toList ++ ' ' :: rest)) = address.reader rest := by
  have free : ' ' ∉ address.family.toList := by
    cases address <;> (dsimp only [family]; decide)
  -- The word holds no space, so the first space of the text is the one after it.
  rw [parse, String.toList_ofList, splitFirst_of_free free]
  dsimp only [Option.getD_some]
  rw [String.ofList_toList]
  cases address <;> rfl

/-! ### What can be said is read back -/

theorem parsePort_toDigits (port : UInt16) :
    parsePort (Nat.toDigits 10 port.toNat) = .ok port := by
  have small := port.toNat_lt
  have numeric : (Nat.toDigits 10 port.toNat).all isDigit = true :=
    List.all_eq_true.mpr fun digit member => isDigit_of_mem_toDigits member
  have value : digitsValue (Nat.toDigits 10 port.toNat) = port.toNat := digitsValue_toDigits _
  have some_ : (Nat.toDigits 10 port.toNat).isEmpty = false := by simp
  rw [parsePort, some_, numeric, value, if_neg (by simp), if_pos (by omega), UInt16.ofNat_toNat]

theorem space_not_mem_ipv4 (ip : Ipv4) : ' ' ∉ ip.chars := by
  intro member
  rcases Ipv4.mem_chars member with dot | ⟨value, small, same⟩
  · cases dot
  · have every : ∀ value < 10, ' ' ≠ value.digitChar := by decide
    exact every value small same

theorem space_not_mem_ipv6 (ip : Ipv6) : ' ' ∉ ip.chars := by
  intro member
  rcases Ipv6.mem_chars member with colon | dot | ⟨value, small, same⟩
  · cases colon
  · cases dot
  · have every : ∀ value < 16, ' ' ≠ value.digitChar := by decide
    exact every value small same

theorem utf8ByteSize_ipv6_le (ip : Ipv6) :
    (String.ofList ip.chars).utf8ByteSize ≤ ipv6TextMax := by
  have ascii : ∀ character ∈ ip.chars, character.toNat < 0x80 := by
    intro character member
    have every : ∀ value < 16, value.digitChar.toNat < 0x80 := by decide
    rcases Ipv6.mem_chars member with rfl | rfl | ⟨value, small, rfl⟩
    · decide
    · decide
    · exact every value small
  have short := ip.length_chars_le
  have max : ipv6TextMax = 45 := rfl
  rw [utf8ByteSize_of_ascii ascii]
  omega

theorem parseInet_text (ip : Ipv4) (port : UInt16) :
    parseInet (ip.chars ++ ' ' :: Nat.toDigits 10 port.toNat) = .ok (.inet ip port) := by
  rw [parseInet]
  · rw [splitFirst_of_free (space_not_mem_ipv4 ip)]
    dsimp only
    rw [Ipv4.parse?_chars]
    dsimp only
    rw [parsePort_toDigits]
    rfl
  · simp

theorem parseInet6_text (ip : Ipv6) (port : UInt16) :
    parseInet6 (ip.chars ++ ' ' :: Nat.toDigits 10 port.toNat) = .ok (.inet6 ip port 0 0) := by
  rw [parseInet6]
  · rw [splitFirst_of_free (space_not_mem_ipv6 ip)]
    dsimp only
    rw [if_neg (Nat.not_lt.mpr (utf8ByteSize_ipv6_le ip)), Ipv6.parse?_chars]
    dsimp only
    rw [parsePort_toDigits]
    rfl
  · simp

theorem parseUnix_text {path : String} (named : path ≠ "") (short : path.utf8ByteSize < pathRoom) :
    parseUnix path.toList = .ok (.unix (bytesOf path)) := by
  have some_ : path.toList.isEmpty = false := by simpa using named
  rw [parseUnix, some_, if_neg Bool.false_ne_true, String.ofList_toList,
    if_neg (Nat.not_le.mpr short)]

theorem isBlank_eq_false_of_mem_toDigits {number : Nat} :
    ∀ digit ∈ Nat.toDigits 10 number, isBlank digit = false := by
  intro digit member
  obtain ⟨value, small, rfl⟩ := exists_digitChar_of_mem (by decide) member
  have every : ∀ value < 10, isBlank value.digitChar = false := by decide
  exact every value small

theorem parseVsock_text (port cid : UInt32) :
    parseVsock (Nat.toDigits 10 port.toNat ++ ' ' :: Nat.toDigits 10 cid.toNat) =
      .ok (.vsock port cid) := by
  have readable : ∀ number : UInt32,
      readUnsigned (UInt32.size - 1) (Nat.toDigits 10 number.toNat) = .ok number.toNat := by
    intro number
    have small := number.toNat_lt_size
    exact readUnsigned_toDigits (by omega)
  rw [parseVsock, words_pair Nat.toDigits_ne_nil Nat.toDigits_ne_nil
    isBlank_eq_false_of_mem_toDigits isBlank_eq_false_of_mem_toDigits]
  dsimp only
  rw [readable port]
  dsimp only [List.head?_cons, Option.map_some]
  rw [readable cid]
  dsimp only
  rw [UInt32.ofNat_toNat, UInt32.ofNat_toNat]

theorem parseX25_text {digits : String} (short : digits.utf8ByteSize ≤ x25DigitsMax)
    (numeric : digits.toList.all isDigit = true) :
    parseX25 digits.toList = .ok (.x25 digits) := by
  rw [parseX25, String.ofList_toList, if_neg (Nat.not_lt.mpr short), if_pos numeric]

theorem reader_remainder {address : ListenAddress} (textual : address.Textual) :
    address.reader address.remainder = .ok address := by
  cases address with
  | inet ip port => exact parseInet_text ip port
  | inet6 ip port flowInfo scopeId =>
      obtain ⟨rfl, rfl⟩ := textual
      exact parseInet6_text ip port
  | unix path =>
      obtain ⟨name, named, short, rfl⟩ := textual
      rw [remainder, (Utf8.decode_bytesOf name).1]
      exact parseUnix_text named short
  | vsock port cid => exact parseVsock_text port cid
  | x25 digits => exact parseX25_text textual.1 textual.2

theorem parse_text_of_textual {address : ListenAddress} (textual : address.Textual) :
    parse address.text = .ok address := by
  rw [text_eq, parse_family, reader_remainder textual]

/-- Whatever spelling an address was read from, its own text says the same address. -/
theorem parse_text_of_parse {spelling : String} {address : ListenAddress}
    (read : parse spelling = .ok address) : parse address.text = .ok address :=
  parse_text_of_textual (textual_of_parse read)

/-- Spellings and the texts that come back: upper case and leading zeros, the mapped range, no rest
at all, a path that begins with a space, signs and white space, no digits. -/
theorem parse_text_of_spellings :
    (parse "inet6 2001:DB8:0::1 08080" =
        .ok (.inet6 ⟨[0x2001, 0xDB8, 0, 0, 0, 0, 0, 1], rfl⟩ 8080 0 0) ∧
      parse "inet6 2001:db8::1 8080" =
        .ok (.inet6 ⟨[0x2001, 0xDB8, 0, 0, 0, 0, 0, 1], rfl⟩ 8080 0 0)) ∧
    (parse "inet6 ::FFFF:102:304 80" =
        .ok (.inet6 ⟨[0, 0, 0, 0, 0, 0xFFFF, 0x102, 0x304], rfl⟩ 80 0 0) ∧
      parse "inet6 ::ffff:1.2.3.4 80" =
        .ok (.inet6 ⟨[0, 0, 0, 0, 0, 0xFFFF, 0x102, 0x304], rfl⟩ 80 0 0)) ∧
    (parse "inet" = .ok (.inet Ipv4.unspecified 4869) ∧
      parse "inet 0.0.0.0 4869" = .ok (.inet Ipv4.unspecified 4869)) ∧
    (parse "unix  a b" = .ok (.unix (bytesOf " a b")) ∧
      parse (text (.unix (bytesOf " a b"))) = .ok (.unix (bytesOf " a b"))) ∧
    (parse "vsock  +08\t003" = .ok (.vsock 8 3) ∧ parse "vsock 8 3" = .ok (.vsock 8 3)) ∧
    (parse "x25" = .ok (.x25 "") ∧ parse "x25 " = .ok (.x25 "")) := by
  have compressed : parse "inet6 2001:DB8:0::1 08080" =
      .ok (.inet6 ⟨[0x2001, 0xDB8, 0, 0, 0, 0, 0, 1], rfl⟩ 8080 0 0) := rfl
  have mapped : parse "inet6 ::FFFF:102:304 80" =
      .ok (.inet6 ⟨[0, 0, 0, 0, 0, 0xFFFF, 0x102, 0x304], rfl⟩ 80 0 0) := rfl
  have defaulted : parse "inet" = .ok (.inet Ipv4.unspecified 4869) := rfl
  have spaced : parse "unix  a b" = .ok (.unix (bytesOf " a b")) := rfl
  have signed : parse "vsock  +08\t003" = .ok (.vsock 8 3) := rfl
  have empty : parse "x25" = .ok (.x25 "") := rfl
  exact ⟨⟨compressed, parse_text_of_parse compressed⟩, ⟨mapped, parse_text_of_parse mapped⟩,
    ⟨defaulted, parse_text_of_parse defaulted⟩, ⟨spaced, parse_text_of_parse spaced⟩,
    ⟨signed, parse_text_of_parse signed⟩, ⟨empty, parse_text_of_parse empty⟩⟩

end ListenAddress

end Superserver
