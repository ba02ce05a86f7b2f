import Superserver.Proofs.Net.AddressText
import Superserver.Proofs.Net.IpGrammar

/-!
What listen addresses look like and what is said of every other text. Main statement: the answer to
a text is the one the grammar gives it, of which there is exactly one for every text.
-/

namespace Superserver

open Text

namespace ListenAddress

/-! ### Ports -/

inductive PortSays : List Char → Except AddressError UInt16 → Prop where
  | port (zeros : Nat) (port : UInt16) :
      PortSays (List.replicate zeros '0' ++ Nat.toDigits 10 port.toNat) (.ok port)
  | outOfRange (zeros : Nat) {number : Nat} : 65535 < number →
      PortSays (List.replicate zeros '0' ++ Nat.toDigits 10 number) (.error .portOutOfRange)
  | missing : PortSays [] (.error (.portNotNumeric ""))
  | notNumeric {digits : List Char} {character : Char} :
      character ∈ digits → isDigit character = false →
        PortSays digits (.error (.portNotNumeric (String.ofList digits)))

theorem parsePort_numeral (zeros number : Nat) :
    parsePort (List.replicate zeros '0' ++ Nat.toDigits 10 number) =
      if number ≤ 65535 then .ok (UInt16.ofNat number) else .error .portOutOfRange := by
  have some_ : (List.replicate zeros '0' ++ Nat.toDigits 10 number).isEmpty = false := by simp
  have numeric : (List.replicate zeros '0' ++ Nat.toDigits 10 number).all isDigit = true :=
    List.all_eq_true.mpr fun digit member => isDigit_of_mem_numeral member
  rw [parsePort, some_, numeric, digitsValue_numeral, if_neg (by simp)]

theorem parsePort_of_other {digits : List Char} {character : Char} (member : character ∈ digits)
    (other : isDigit character = false) :
    parsePort digits = .error (.portNotNumeric (String.ofList digits)) := by
  have refused : digits.all isDigit = false :=
    List.all_eq_false.mpr ⟨character, member, by simp [other]⟩
  rw [parsePort, refused, if_pos (by simp)]

theorem portSays_parsePort (digits : List Char) : PortSays digits (parsePort digits) := by
  by_cases empty : digits = []
  · subst empty
    exact .missing
  by_cases numeric : ∀ digit ∈ digits, isDigit digit = true
  · obtain ⟨zeros, same⟩ := exists_zeros_of_numeric empty numeric
    rw [same, parsePort_numeral]
    split
    · rename_i small
      have value : (UInt16.ofNat (digitsValue digits)).toNat = digitsValue digits :=
        UInt16.toNat_ofNat_of_lt' (Nat.lt_succ_of_le small)
      have said := PortSays.port zeros (UInt16.ofNat (digitsValue digits))
      rwa [value] at said
    · rename_i large
      exact .outOfRange zeros (Nat.lt_of_not_le large)
  · simp only [not_forall, Bool.not_eq_true] at numeric
    obtain ⟨character, member, other⟩ := numeric
    rw [parsePort_of_other member other]
    exact .notNumeric member other

theorem PortSays.answer {digits : List Char} {answer : Except AddressError UInt16}
    (said : PortSays digits answer) : parsePort digits = answer := by
  cases said with
  | port zeros port =>
      have small := port.toNat_lt
      rw [parsePort_numeral, if_pos (by omega), UInt16.ofNat_toNat]
  | outOfRange zeros large => rw [parsePort_numeral, if_neg (by omega)]
  | missing => rfl
  | notNumeric member other => exact parsePort_of_other member other

/-! ### A host, a space and a port -/

structure HostFamily (Ip : Type) where
  Names : List Char → Ip → Prop
  wildcard : ListenAddress
  invalid : String → AddressError
  address : Ip → UInt16 → ListenAddress

namespace HostFamily

variable {Ip : Type}

/-- What is said of the rest of an address of the family. -/
inductive Says (family : HostFamily Ip) :
    List Char → Except AddressError ListenAddress → Prop where
  | missing : Says family [] (.ok family.wildcard)
  | noSpace {rest : List Char} : rest ≠ [] → ' ' ∉ rest →
      Says family rest (.error (family.invalid (String.ofList rest)))
  | badHost {host port : List Char} : ' ' ∉ host → (∀ ip, ¬ family.Names host ip) →
      Says family (host ++ ' ' :: port)
        (.error (family.invalid (String.ofList (host ++ ' ' :: port))))
  | badPort {host port : List Char} {ip : Ip} {fault : AddressError} :
      family.Names host ip → PortSays port (.error fault) →
        Says family (host ++ ' ' :: port) (.error fault)
  | address {host port : List Char} {ip : Ip} {number : UInt16} :
      family.Names host ip → PortSays port (.ok number) →
        Says family (host ++ ' ' :: port) (.ok (family.address ip number))

structure Reads (family : HostFamily Ip) (parse? : List Char → Option Ip)
    (reader : List Char → Except AddressError ListenAddress) : Prop where
  missing : reader [] = .ok family.wildcard
  noSpace {rest : List Char} : rest ≠ [] → ' ' ∉ rest →
    reader rest = .error (family.invalid (String.ofList rest))
  spaced {host : List Char} (port : List Char) : ' ' ∉ host →
    reader (host ++ ' ' :: port) =
      match parse? host with
      | none => .error (family.invalid (String.ofList (host ++ ' ' :: port)))
      | some ip => (parsePort port).map (family.address ip)

theorem Reads.eq_iff {family : HostFamily Ip} {parse? : List Char → Option Ip}
    {reader : List Char → Except AddressError ListenAddress} (reads : family.Reads parse? reader)
    (names : ∀ {host ip}, parse? host = some ip ↔ family.Names host ip)
    (free : ∀ {host ip}, family.Names host ip → ' ' ∉ host) {rest : List Char}
    {answer : Except AddressError ListenAddress} :
    reader rest = answer ↔ family.Says rest answer := by
  constructor
  · rintro rfl
    by_cases empty : rest = []
    · subst empty
      rw [reads.missing]
      exact .missing
    by_cases spaced : ' ' ∈ rest
    · obtain ⟨host, port, rfl, unspaced⟩ := List.eq_append_cons_of_mem spaced
      rw [reads.spaced port unspaced]
      cases named : parse? host with
      | none =>
          have nameless : ∀ ip, ¬ family.Names host ip := by
            intro ip name
            rw [names.mpr name] at named
            cases named
          exact .badHost unspaced nameless
      | some ip =>
          have said := portSays_parsePort port
          cases answer : parsePort port with
          | error fault =>
              rw [answer] at said
              exact .badPort (names.mp named) said
          | ok number =>
              rw [answer] at said
              exact .address (names.mp named) said
    · rw [reads.noSpace empty spaced]
      exact .noSpace empty spaced
  · intro said
    cases said with
    | missing => exact reads.missing
    | noSpace some_ unspaced => exact reads.noSpace some_ unspaced
    | @badHost host port unspaced nameless =>
        have none : parse? host = none :=
          Option.eq_none_iff_forall_ne_some.mpr fun ip named => nameless ip (names.mp named)
        rw [reads.spaced port unspaced, none]
    | @badPort host port ip fault name said =>
        rw [reads.spaced port (free name), names.mpr name]
        exact congrArg (Except.map (family.address ip)) said.answer
    | @address host port ip number name said =>
        rw [reads.spaced port (free name), names.mpr name]
        exact congrArg (Except.map (family.address ip)) said.answer

def inet : HostFamily Ipv4 where
  Names host ip := host = ip.chars
  wildcard := .inet Ipv4.unspecified defaultPort
  invalid := .invalidInet
  address := .inet

def inet6 : HostFamily Ipv6 where
  Names := Ipv6.Spelled
  wildcard := .inet6 Ipv6.unspecified defaultPort 0 0
  invalid := .invalidInet6
  address ip port := .inet6 ip port 0 0

end HostFamily

theorem reads_parseInet : HostFamily.inet.Reads Ipv4.parse? parseInet where
  missing := rfl
  noSpace some_ unspaced := by
    rw [parseInet, splitFirst_eq_none_iff.mpr unspaced]
    · rfl
    · exact some_
  spaced := by
    intro host port unspaced
    rw [parseInet, splitFirst_of_free unspaced]
    · dsimp only
      cases Ipv4.parse? host <;> rfl
    · simp

theorem reads_parseInet6 : HostFamily.inet6.Reads Ipv6.parse? parseInet6 where
  missing := rfl
  noSpace some_ unspaced := by
    rw [parseInet6, splitFirst_eq_none_iff.mpr unspaced]
    · rfl
    · exact some_
  spaced := by
    intro host port unspaced
    rw [parseInet6, splitFirst_of_free unspaced]
    · dsimp only
      cases named : Ipv6.parse? host with
      | none => exact ite_self _
      | some ip =>
          -- A host that names an address is never too long.
          have short := Ipv6.length_bytesOf_spelled (Ipv6.parse?_eq_some_iff.mp named)
          rw [length_bytesOf] at short
          exact if_neg (Nat.not_lt.mpr short)
    · simp

theorem parseInet_eq_iff {rest : List Char} {answer : Except AddressError ListenAddress} :
    parseInet rest = answer ↔ HostFamily.inet.Says rest answer := by
  apply reads_parseInet.eq_iff Ipv4.parse?_eq_some_iff
  rintro host ip rfl
  exact space_not_mem_ipv4 ip

theorem parseInet6_eq_iff {rest : List Char} {answer : Except AddressError ListenAddress} :
    parseInet6 rest = answer ↔ HostFamily.inet6.Says rest answer := by
  apply reads_parseInet6.eq_iff Ipv6.parse?_eq_some_iff
  intro host ip spelled
  exact Ipv6.not_mem_spelled spelled (by decide)

/-! ### Paths and digits -/

inductive UnixSays : List Char → Except AddressError ListenAddress → Prop where
  | missing : UnixSays [] (.ok (.unix (bytesOf "serve.sock")))
  | path {rest : List Char} : rest ≠ [] → (bytesOf (String.ofList rest)).length < 108 →
      UnixSays rest (.ok (.unix (bytesOf (String.ofList rest))))
  | tooLong {rest : List Char} : 108 ≤ (bytesOf (String.ofList rest)).length →
      UnixSays rest (.error (.unixPathTooLong (String.ofList rest) 107))

theorem parseUnix_of_some {rest : List Char} (some_ : rest ≠ []) :
    parseUnix rest =
      if 108 ≤ (bytesOf (String.ofList rest)).length then
        .error (.unixPathTooLong (String.ofList rest) 107)
      else .ok (.unix (bytesOf (String.ofList rest))) := by
  have filled : rest.isEmpty = false := by simpa using some_
  rw [parseUnix, filled, if_neg Bool.false_ne_true, length_bytesOf]
  rfl

theorem parseUnix_eq_iff {rest : List Char} {answer : Except AddressError ListenAddress} :
    parseUnix rest = answer ↔ UnixSays rest answer := by
  constructor
  · rintro rfl
    by_cases empty : rest = []
    · subst empty
      exact .missing
    · rw [parseUnix_of_some empty]
      split
      · rename_i long
        exact .tooLong long
      · rename_i short
        exact .path empty (Nat.lt_of_not_le short)
  · intro said
    cases said with
    | missing => rfl
    | path some_ short => rw [parseUnix_of_some some_, if_neg (Nat.not_le.mpr short)]
    | tooLong long =>
        have some_ : rest ≠ [] := by
          rintro rfl
          exact absurd long (by decide)
        rw [parseUnix_of_some some_, if_pos long]

inductive X25Says : List Char → Except AddressError ListenAddress → Prop where
  | digits {rest : List Char} : rest.length ≤ 15 → (∀ digit ∈ rest, isDigit digit = true) →
      X25Says rest (.ok (.x25 (String.ofList rest)))
  | tooLong {rest : List Char} : 15 < (bytesOf (String.ofList rest)).length →
      X25Says rest (.error (.x25TooLong (String.ofList rest)))
  | forbidden {rest : List Char} {character : Char} :
      (bytesOf (String.ofList rest)).length ≤ 15 → character ∈ rest → isDigit character = false →
        X25Says rest (.error (.x25Forbidden (String.ofList rest)))

theorem length_bytesOf_numeric {digits : List Char}
    (numeric : ∀ digit ∈ digits, isDigit digit = true) :
    (bytesOf (String.ofList digits)).length = digits.length := by
  rw [length_bytesOf]
  apply utf8ByteSize_of_ascii
  intro digit member
  obtain ⟨small, same⟩ := digitChar_digitValue (numeric digit member)
  have every : ∀ value < 10, value.digitChar.toNat < 0x80 := by decide
  rw [← same]
  exact every _ small

theorem parseX25_eq (rest : List Char) :
    parseX25 rest =
      if 15 < (bytesOf (String.ofList rest)).length then .error (.x25TooLong (String.ofList rest))
      else if rest.all isDigit then .ok (.x25 (String.ofList rest))
      else .error (.x25Forbidden (String.ofList rest)) := by
  rw [length_bytesOf]
  rfl

theorem parseX25_eq_iff {rest : List Char} {answer : Except AddressError ListenAddress} :
    parseX25 rest = answer ↔ X25Says rest answer := by
  rw [parseX25_eq]
  constructor
  · rintro rfl
    split
    · rename_i long
      exact .tooLong long
    · rename_i short
      split
      · rename_i numeric
        rw [List.all_eq_true] at numeric
        rw [length_bytesOf_numeric numeric] at short
        exact .digits (Nat.le_of_not_lt short) numeric
      · rename_i other
        rw [List.all_eq_true, not_forall] at other
        obtain ⟨character, other⟩ := other
        rw [not_forall, Bool.not_eq_true] at other
        obtain ⟨member, other⟩ := other
        exact .forbidden (Nat.le_of_not_lt short) member other
  · intro said
    cases said with
    | digits short numeric =>
        rw [length_bytesOf_numeric numeric, if_neg (Nat.not_lt.mpr short),
          if_pos (List.all_eq_true.mpr numeric)]
    | tooLong long => rw [if_pos long]
    | forbidden short member other =>
        rw [if_neg (Nat.not_lt.mpr short), if_neg]
        intro numeric
        rw [List.all_eq_true.mp numeric _ member] at other
        cases other

/-! ### The word of the family -/

/-- The word is what stands before the first space of the text, all of it if there is none. -/
def Headed (text word rest : List Char) : Prop :=
  ' ' ∉ word ∧ (text = word ∧ rest = [] ∨ text = word ++ ' ' :: rest)

theorem exists_headed (text : List Char) : ∃ word rest, Headed text word rest := by
  by_cases spaced : ' ' ∈ text
  · obtain ⟨word, rest, same, free⟩ := List.eq_append_cons_of_mem spaced
    exact ⟨word, rest, free, .inr same⟩
  · exact ⟨text, [], spaced, .inl ⟨rfl, rfl⟩⟩

def words : List String := ["inet", "inet6", "unix", "vsock", "x25"]

def readBehind (word : String) (rest : List Char) : Except AddressError ListenAddress :=
  match word with
  | "inet" => parseInet rest
  | "inet6" => parseInet6 rest
  | "unix" => parseUnix rest
  | "vsock" => parseVsock rest
  | "x25" => parseX25 rest
  | other => .error (.unsupportedFamily other)

theorem parse_of_headed {text word : String} {rest : List Char}
    (headed : Headed text.toList word.toList rest) : parse text = readBehind word rest := by
  obtain ⟨free, ⟨alone, rfl⟩ | behind⟩ := headed
  · obtain rfl := String.toList_inj.mp alone
    rw [parse, splitFirst_eq_none_iff.mpr free]
    simp only [Option.getD_none, String.ofList_toList]
    rfl
  · rw [parse, behind, splitFirst_of_free free]
    simp only [Option.getD_some, String.ofList_toList]
    rfl

theorem readBehind_of_not_mem {word : String} (unknown : word ∉ words) (rest : List Char) :
    readBehind word rest = .error (.unsupportedFamily word) := by
  simp only [words, List.mem_cons, List.not_mem_nil, or_false, not_or] at unknown
  unfold readBehind
  split
  all_goals first | rfl | simp_all

inductive Says : List Char → Except AddressError ListenAddress → Prop where
  | inet {text rest : List Char} {answer : Except AddressError ListenAddress} :
      Headed text "inet".toList rest → HostFamily.inet.Says rest answer → Says text answer
  | inet6 {text rest : List Char} {answer : Except AddressError ListenAddress} :
      Headed text "inet6".toList rest → HostFamily.inet6.Says rest answer → Says text answer
  | unix {text rest : List Char} {answer : Except AddressError ListenAddress} :
      Headed text "unix".toList rest → UnixSays rest answer → Says text answer
  | vsock {text rest : List Char} {answer : Except AddressError ListenAddress} :
      Headed text "vsock".toList rest → parseVsock rest = answer → Says text answer
  | x25 {text rest : List Char} {answer : Except AddressError ListenAddress} :
      Headed text "x25".toList rest → X25Says rest answer → Says text answer
  | unsupported {text rest : List Char} {word : String} :
      Headed text word.toList rest → word ∉ words → Says text (.error (.unsupportedFamily word))

theorem parse_eq_iff {text : String} {answer : Except AddressError ListenAddress} :
    parse text = answer ↔ Says text.toList answer := by
  constructor
  · rintro rfl
    obtain ⟨word, rest, headed⟩ := exists_headed text.toList
    rw [← String.toList_ofList (l := word)] at headed
    rw [parse_of_headed headed]
    by_cases known : String.ofList word ∈ words
    · simp only [words, List.mem_cons, List.not_mem_nil, or_false] at known
      rcases known with family | family | family | family | family
      all_goals rw [family] at headed ⊢
      · exact .inet headed (parseInet_eq_iff.mp rfl)
      · exact .inet6 headed (parseInet6_eq_iff.mp rfl)
      · exact .unix headed (parseUnix_eq_iff.mp rfl)
      · exact .vsock headed rfl
      · exact .x25 headed (parseX25_eq_iff.mp rfl)
    · rw [readBehind_of_not_mem known]
      exact .unsupported headed known
  · intro said
    cases said with
    | inet headed said => exact (parse_of_headed headed).trans (parseInet_eq_iff.mpr said)
    | inet6 headed said => exact (parse_of_headed headed).trans (parseInet6_eq_iff.mpr said)
    | unix headed said => exact (parse_of_headed headed).trans (parseUnix_eq_iff.mpr said)
    | vsock headed said => exact (parse_of_headed headed).trans said
    | x25 headed said => exact (parse_of_headed headed).trans (parseX25_eq_iff.mpr said)
    | unsupported headed unknown =>
        exact (parse_of_headed headed).trans (readBehind_of_not_mem unknown _)

theorem parseVsock_ne_unsupported (rest : List Char) (word : String) :
    parseVsock rest ≠ .error (.unsupportedFamily word) := by
  intro refused
  unfold parseVsock at refused
  split at refused
  · cases refused
  · split at refused
    · cases refused
    · split at refused <;> cases refused

theorem not_mem_of_unsupported {text : List Char} {word : String}
    (said : Says text (.error (.unsupportedFamily word))) :
    word ∉ words ∧ ∃ rest, Headed text word.toList rest := by
  cases said with
  | inet headed said =>
      cases said with
      | badPort name said => cases said
  | inet6 headed said =>
      cases said with
      | badPort name said => cases said
  | unix headed said => cases said
  | vsock headed said => exact absurd said (parseVsock_ne_unsupported _ word)
  | x25 headed said => cases said
  | unsupported headed unknown => exact ⟨unknown, _, headed⟩

/-- The answer to a text is the one the grammar gives it. Only a word that names no family is
refused as one, and the bound on the text of an IPv6 address refuses none. -/
theorem parse_follows_grammar :
    (∀ (text : String) (answer : Except AddressError ListenAddress),
      parse text = answer ↔ Says text.toList answer) ∧
    (∀ (text word : String), parse text = .error (.unsupportedFamily word) ↔
      word ∉ words ∧ ∃ rest, Headed text.toList word.toList rest) ∧
    ∀ (host : List Char) (ip : Ipv6), Ipv6.Spelled host ip →
      '%' ∉ host ∧ (bytesOf (String.ofList host)).length ≤ ipv6TextMax := by
  refine ⟨fun text answer => parse_eq_iff, ?_, ?_⟩
  · intro text word
    rw [parse_eq_iff]
    constructor
    · exact not_mem_of_unsupported
    · rintro ⟨unknown, rest, headed⟩
      exact .unsupported headed unknown
  · intro host ip spelled
    exact ⟨Ipv6.not_mem_spelled spelled (by decide), Ipv6.length_bytesOf_spelled spelled⟩

/-- The longest host there is, at a port with many zeros in front. -/
theorem parse_follows_grammar_at_longest :
    '%' ∉ "ffff:ffff:ffff:ffff:ffff:ffff:255.255.255.255".toList ∧
      (bytesOf "ffff:ffff:ffff:ffff:ffff:ffff:255.255.255.255").length = ipv6TextMax ∧
      Says "inet6 ffff:ffff:ffff:ffff:ffff:ffff:255.255.255.255 000000000000000000000065535".toList
        (.ok (.inet6 ⟨List.replicate 8 0xFFFF, rfl⟩ 65535 0 0)) := by
  have spelled : Ipv6.Spelled "ffff:ffff:ffff:ffff:ffff:ffff:255.255.255.255".toList
      ⟨List.replicate 8 0xFFFF, rfl⟩ := Ipv6.parse?_eq_some_iff.mp rfl
  exact ⟨(parse_follows_grammar.2.2 _ _ spelled).1, rfl, (parse_follows_grammar.1 _ _).mp rfl⟩

end ListenAddress

end Superserver
