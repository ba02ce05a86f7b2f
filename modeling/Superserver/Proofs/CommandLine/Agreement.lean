import Superserver.Proofs.CommandLine.Insertion
import Superserver.Proofs.Text.Words

/-!
The command line and the configuration file. Main statement: a value has the same effect wherever it
is given, a bad address is refused in the same words, and what both give is decided by the command
line.
-/

namespace Superserver

namespace Parameter

def key : Parameter → String
  | .address => "address"
  | .backlog => "backlog"
  | .socketKind => "socket_type"
  | .maxProcesses => "max_processes"
  | .command => "command"

end Parameter

/-! ### Values as they are written -/

inductive Written where
  | address (text : String)
  | backlog (number : Int64)
  | socketKind (text : String)
  | maxProcesses (count : Nat) (inside : count ≤ Int64.maxValue.toInt)
  | command (text : String)

namespace Written

def parameter : Written → Parameter
  | .address _ => .address
  | .backlog _ => .backlog
  | .socketKind _ => .socketKind
  | .maxProcesses .. => .maxProcesses
  | .command _ => .command

def reading : (written : Written) → Except AddressError written.parameter.Value
  | .address text => ListenAddress.parse text
  | .backlog number => .ok number.toInt
  | .socketKind text => SocketKind.parse text
  | .maxProcesses count _ => .ok (UInt64.ofNat count)
  | .command text => .ok text

def text : Written → String
  | .address text | .socketKind text | .command text => text
  | .backlog number => toString number.toInt
  | .maxProcesses count _ => toString count

def argument (written : Written) : String :=
  match written.parameter.setting? with
  | some setting => Scan.assignment setting written.text
  | none => written.text

def value : Written → Toml.Value
  | .address text | .socketKind text | .command text => .string text
  | .backlog number => .integer number.toInt
  | .maxProcesses count _ => .integer count

/-- The argument may stand behind these: they do not end with an option that lacks its value, and
an option stands before the double dash, as a command behind it has to if it begins with a dash. -/
def Fits (written : Written) (before : List String) : Prop :=
  ∀ scan, before.foldlM Scan.next {} = .ok scan → scan.hungry? = none ∧
    match written.parameter.setting? with
    | some _ => scan.operandsOnly = false
    | none => scan.operandsOnly = true ∨
        ∀ letter letters, written.text.toList ≠ '-' :: letter :: letters

variable {written : Written}

/-! ### On the command line -/

/-- The option's own reader finds what is written. -/
theorem set_eq {setting : Setting} (own : written.parameter.setting? = some setting)
    (options : Options) :
    Scan.set options setting written.text =
      (written.reading.mapError fun error =>
        .invalid setting written.text error.message).map (options.put written.parameter) := by
  cases written with
  | address text =>
      cases own
      simp only [Scan.set, Written.text, reading]
      cases ListenAddress.parse text <;> rfl
  | backlog number =>
      cases own
      have low : -((UInt64.size / 2 - 1 : Nat) : Int) - 1 ≤ number.toInt := number.le_toInt
      have high : number.toInt ≤ ((UInt64.size / 2 - 1 : Nat) : Int) :=
        Int.le_sub_one_of_lt number.toInt_lt
      simp only [Scan.set, Written.text, Text.readSigned_toString low high]
      rfl
  | socketKind text =>
      cases own
      simp only [Scan.set, Written.text, reading]
      cases SocketKind.parse text <;> rfl
  | maxProcesses count inside =>
      cases own
      have small : count ≤ UInt64.size - 1 :=
        Int.ofNat_le.mp (Int.le_trans inside (by decide))
      simp only [Scan.set, Written.text, Text.toList_nat, Text.readUnsigned_toDigits small]
      rfl
  | command text => cases own

theorem parse_of_reading {value : written.parameter.Value} (read : written.reading = .ok value)
    {before : List String} (fits : written.Fits before) (after : List String) :
    Scan.Adds written.parameter value (Options.parse (before ++ after)).toOption
      (Options.parse (before ++ written.argument :: after)).toOption := by
  refine Scan.parse_insert fun scan scanned => ?_
  obtain ⟨fed, place⟩ := fits scan scanned
  unfold argument
  cases own : written.parameter.setting? with
  | some setting =>
      rw [own] at place
      have done (options : Options) : Scan.set options setting written.text =
          .ok (options.put written.parameter value) := by
        rw [set_eq own, read]
        rfl
      exact Scan.takes_assignment own done fed place
  | none =>
      rw [own] at place
      cases written with
      | command text =>
          cases read
          exact Scan.takes_operand place fed
      | _ => cases own

theorem parse_of_unreadable {error : AddressError} (unread : written.reading = .error error)
    {before : List String} (fits : written.Fits before) (after : List String) :
    (∃ refusal, Options.parse (before ++ written.argument :: after) = .error refusal) ∧
      ∀ options, Options.parse (before ++ after) = .ok options →
        options.get written.parameter = none → ∃ setting,
          Options.parse (before ++ written.argument :: after) =
            .error (.invalid setting written.text error.message) := by
  have optional : ∃ setting, written.parameter.setting? = some setting := by
    cases written with
    | command text => cases unread
    | _ => exact ⟨_, rfl⟩
  obtain ⟨setting, own⟩ := optional
  have refused (options : Options) : Scan.set options setting written.text =
      .error (.invalid setting written.text error.message) := by
    rw [set_eq own, unread]
    rfl
  have place : ∀ scan, before.foldlM Scan.next {} = .ok scan →
      scan.hungry? = none ∧ scan.operandsOnly = false := by
    intro scan scanned
    have fits := fits scan scanned
    rwa [own] at fits
  have argument : written.argument = Scan.assignment setting written.text := by
    rw [Written.argument, own]
  rw [argument]
  obtain ⟨ends, exactly⟩ := Scan.parse_unreadable own refused place
  exact ⟨ends, fun options parsed unsaid => ⟨setting, exactly options parsed unsaid⟩⟩

/-- The argument leaves its value in the options. -/
theorem given_of_parse {before after : List String} (fits : written.Fits before)
    (unsaid : ∀ options, Options.parse (before ++ after) = .ok options →
      options.get written.parameter = none)
    {options : Options}
    (parsed : Options.parse (before ++ written.argument :: after) = .ok options) :
    ∃ value, options.get written.parameter = some value := by
  cases read : written.reading with
  | error error =>
      obtain ⟨⟨refusal, refused⟩, _⟩ := parse_of_unreadable read fits after
      cases parsed.symm.trans refused
  | ok value =>
      have adds := parse_of_reading read fits after
      rw [parsed] at adds
      cases shorter : Options.parse (before ++ after) with
      | error error =>
          rw [shorter] at adds
          cases adds
      | ok others =>
          rw [shorter] at adds
          obtain rfl := Option.some.inj (adds (unsaid others shorter))
          exact ⟨value, Options.get_put others value⟩

end Written

/-! ### In the file -/

namespace Config

variable {entry : Toml.Entry Toml.Value} {config after : Config} {parameter : Parameter}

def readEntry (entry : Toml.Entry Toml.Value) :
    (parameter : Parameter) → Except Misfit parameter.Value
  | .address => (addressOf entry.value).mapError (⟨·, entry.place⟩)
  | .backlog => (integerOf entry.value).mapError (⟨·, entry.place⟩)
  | .socketKind => kindOf entry
  | .maxProcesses => (countOf entry.value).mapError (⟨·, entry.place⟩)
  | .command => (textOf entry.value).mapError (⟨·, entry.place⟩)

theorem set_of_key (key : entry.key.name = parameter.key) (config : Config) :
    config.set entry = (readEntry entry parameter).map (config.put parameter) := by
  unfold set
  rw [key]
  cases parameter with
  | address => simp only [Parameter.key, readEntry]; cases addressOf entry.value <;> rfl
  | backlog => simp only [Parameter.key, readEntry]; cases integerOf entry.value <;> rfl
  | socketKind => simp only [Parameter.key, readEntry]; cases kindOf entry <;> rfl
  | maxProcesses => simp only [Parameter.key, readEntry]; cases countOf entry.value <;> rfl
  | command => simp only [Parameter.key, readEntry]; cases textOf entry.value <;> rfl

theorem key_cases (entry : Toml.Entry Toml.Value) :
    (∃ parameter : Parameter, entry.key.name = parameter.key) ∨
      ∃ misfit, ∀ config : Config, config.set entry = .error misfit := by
  by_cases known : ∃ parameter : Parameter, entry.key.name = parameter.key
  · exact .inl known
  · refine .inr ⟨⟨.unknownKey entry.key.name, entry.key.place⟩, fun config => ?_⟩
    unfold set
    split
    · rename_i same
      exact absurd ⟨.address, same⟩ known
    · rename_i same
      exact absurd ⟨.backlog, same⟩ known
    · rename_i same
      exact absurd ⟨.socketKind, same⟩ known
    · rename_i same
      exact absurd ⟨.maxProcesses, same⟩ known
    · rename_i same
      exact absurd ⟨.command, same⟩ known
    · rfl

theorem set_put_of_ne (other : entry.key.name ≠ parameter.key) (value : parameter.Value) :
    (config.put parameter value).set entry =
      (config.set entry).map (·.put parameter value) := by
  rcases key_cases entry with ⟨own, key⟩ | ⟨misfit, unknown⟩
  · have differ : own ≠ parameter := by
      rintro rfl
      exact other key
    rw [set_of_key key, set_of_key key]
    cases readEntry entry own with
    | error misfit => rfl
    | ok next => exact congrArg Except.ok (put_comm differ value next)
  · rw [unknown, unknown]
    rfl

theorem foldlM_put {back : Toml.Entries} (absent : ∀ other ∈ back, other.key.name ≠ parameter.key)
    (value : parameter.Value) :
    back.foldlM set (config.put parameter value) =
      (back.foldlM set config).map (·.put parameter value) := by
  induction back generalizing config with
  | nil => rfl
  | cons other back ih =>
      rw [List.foldlM_cons, List.foldlM_cons, set_put_of_ne (absent other (List.mem_cons_self ..))]
      cases config.set other with
      | error misfit => rfl
      | ok next => exact ih fun other member => absent other (List.mem_cons_of_mem _ member)

/-- One entry more adds its value to what the others give. -/
theorem ofEntries_insert {value : parameter.Value} (key : entry.key.name = parameter.key)
    (read : readEntry entry parameter = .ok value) (front : Toml.Entries) {back : Toml.Entries}
    (absent : ∀ other ∈ back, other.key.name ≠ parameter.key) :
    ofEntries (front ++ entry :: back) =
      (ofEntries (front ++ back)).map (·.put parameter value) := by
  unfold ofEntries
  rw [List.foldlM_append, List.foldlM_append]
  cases front.foldlM set {} with
  | error misfit => rfl
  | ok config =>
      have rest : (entry :: back).foldlM set config =
          back.foldlM set (config.put parameter value) := by
        rw [List.foldlM_cons, set_of_key key, read]
        rfl
      exact rest.trans (foldlM_put absent value)

theorem ofEntries_misfit {misfit : Misfit} (key : entry.key.name = parameter.key)
    (unread : readEntry entry parameter = .error misfit) (front back : Toml.Entries) :
    (∃ other, ofEntries (front ++ entry :: back) = .error other) ∧
      ∀ config, ofEntries (front ++ back) = .ok config →
        ofEntries (front ++ entry :: back) = .error misfit := by
  unfold ofEntries
  rw [List.foldlM_append, List.foldlM_append]
  cases front.foldlM set {} with
  | error other => exact ⟨⟨other, rfl⟩, fun config done => by cases done⟩
  | ok config =>
      have refused : (entry :: back).foldlM set config = .error misfit := by
        rw [List.foldlM_cons, set_of_key key, unread]
        rfl
      exact ⟨⟨misfit, refused⟩, fun _ _ => refused⟩

end Config

/-- What the file's reader of a parameter finds of what is written, and what it has against it. -/
def Written.fault : Written → AddressError → Config.Fault
  | .socketKind text, _ => .unknownKind text
  | _, error => .address error

/-- The file knows the socket types by the names that the command line has for them. -/
theorem Config.kindNamed_eq (name : String) :
    kindNamed name = (SocketKind.parse name).mapError fun _ => .unknownKind name := by
  unfold kindNamed
  split
  · rfl
  · rfl
  · rename_i other unstreamed unpacketed
    simp [SocketKind.parse, Except.mapError]

theorem Config.readEntry_eq {written : Written} {entry : Toml.Entry Toml.Value}
    (value : entry.value = written.value) :
    readEntry entry written.parameter =
      written.reading.mapError fun error => ⟨written.fault error, entry.place⟩ := by
  cases written with
  | address text =>
      have read : addressOf (.string text) = (ListenAddress.parse text).mapError .address := rfl
      simp only [Written.parameter, readEntry, Written.reading, value, Written.value, read]
      cases ListenAddress.parse text <;> rfl
  | backlog number =>
      simp only [Written.parameter, readEntry, value, Written.value, integerOf]
      rfl
  | socketKind text =>
      simp only [Written.parameter, readEntry, kindOf, value, Written.value, kindNamed_eq,
        Written.reading]
      cases SocketKind.parse text <;> rfl
  | maxProcesses count inside =>
      have positive : ¬((count : Int) < 0) := by omega
      simp only [Written.parameter, readEntry, value, Written.value, countOf, if_neg positive]
      rfl
  | command text =>
      simp only [Written.parameter, readEntry, value, Written.value, textOf]
      rfl

/-! ### Together -/

inductive Settings.Refusal where
  | usage (error : UsageError)
  | file (misfit : Config.Misfit)

/-- What the arguments and the file's entries come to; nothing without a command. -/
def Settings.gather (arguments : List String) (entries : Toml.Entries) :
    Except Settings.Refusal (Option Settings) := do
  let options ← (Options.parse arguments).mapError .usage
  let config ← (Config.ofEntries entries).mapError .file
  return Settings.resolve options config

namespace Settings

variable {written : Written} {before after : List String} {front back : Toml.Entries}
  {entry : Toml.Entry Toml.Value}

theorem gather_of_ok {arguments : List String} {entries : Toml.Entries} {options : Options}
    {config : Config} (parsed : Options.parse arguments = .ok options)
    (read : Config.ofEntries entries = .ok config) :
    gather arguments entries = .ok (resolve options config) := by
  rw [gather, parsed, read]
  rfl

theorem gather_of_usage {arguments : List String} {error : UsageError}
    (failed : Options.parse arguments = .error error) (entries : Toml.Entries) :
    gather arguments entries = .error (.usage error) := by
  rw [gather, failed]
  rfl

theorem gather_of_misfit {arguments : List String} {entries : Toml.Entries} {options : Options}
    {misfit : Config.Misfit} (parsed : Options.parse arguments = .ok options)
    (failed : Config.ofEntries entries = .error misfit) :
    gather arguments entries = .error (.file misfit) := by
  rw [gather, parsed, failed]
  rfl

theorem toOption_gather (arguments : List String) (entries : Toml.Entries) :
    (gather arguments entries).toOption =
      (Options.parse arguments).toOption.bind fun options =>
        (Config.ofEntries entries).toOption.map (resolve options) := by
  unfold gather
  cases Options.parse arguments with
  | error error => rfl
  | ok options => cases Config.ofEntries entries <;> rfl

/-- Wherever the value is given, the settings are the same. -/
theorem gather_given (fits : written.Fits before)
    (unsaid : ∀ options, Options.parse (before ++ after) = .ok options →
      options.get written.parameter = none)
    (key : entry.key.name = written.parameter.key) (value : entry.value = written.value)
    (absent : ∀ other ∈ front ++ back, other.key.name ≠ written.parameter.key) :
    (gather (before ++ written.argument :: after) (front ++ back)).toOption =
      (gather (before ++ after) (front ++ entry :: back)).toOption := by
  have behind : ∀ other ∈ back, other.key.name ≠ written.parameter.key :=
    fun other member => absent other (List.mem_append_right _ member)
  have reads := Config.readEntry_eq value
  rw [toOption_gather, toOption_gather]
  cases read : written.reading with
  | error error =>
      rw [read] at reads
      obtain ⟨⟨refusal, refused⟩, _⟩ := Written.parse_of_unreadable read fits after
      obtain ⟨⟨misfit, failed⟩, _⟩ := Config.ofEntries_misfit key reads front back
      rw [refused, failed]
      cases Options.parse (before ++ after) <;> rfl
  | ok given =>
      rw [read] at reads
      have adds := Written.parse_of_reading read fits after
      rw [Config.ofEntries_insert key reads front behind]
      cases parsed : Options.parse (before ++ after) with
      | error error =>
          rw [parsed] at adds
          have refused : (Options.parse (before ++ written.argument :: after)).toOption = none :=
            adds
          rw [refused]
          rfl
      | ok options =>
          rw [parsed] at adds
          rw [adds (unsaid options parsed)]
          cases Config.ofEntries (front ++ back) with
          | error misfit => rfl
          | ok config =>
              exact congrArg some (resolve_put_of_none (unsaid options parsed) given)

/-- What the command line gives makes the file's value void. -/
theorem gather_overridden (fits : written.Fits before)
    (unsaid : ∀ options, Options.parse (before ++ after) = .ok options →
      options.get written.parameter = none)
    (key : entry.key.name = written.parameter.key)
    (absent : ∀ other ∈ front ++ back, other.key.name ≠ written.parameter.key) {config : Config}
    (file : Config.ofEntries (front ++ entry :: back) = .ok config) :
    gather (before ++ written.argument :: after) (front ++ entry :: back) =
      gather (before ++ written.argument :: after) (front ++ back) := by
  have behind : ∀ other ∈ back, other.key.name ≠ written.parameter.key :=
    fun other member => absent other (List.mem_append_right _ member)
  cases reads : Config.readEntry entry written.parameter with
  | error misfit =>
      obtain ⟨⟨other, failed⟩, _⟩ := Config.ofEntries_misfit key reads front back
      cases file.symm.trans failed
  | ok other =>
      have inserted := Config.ofEntries_insert key reads front behind
      cases others : Config.ofEntries (front ++ back) with
      | error misfit =>
          rw [inserted, others] at file
          cases file
      | ok rest =>
          cases parsed : Options.parse (before ++ written.argument :: after) with
          | error error => rw [gather_of_usage parsed, gather_of_usage parsed]
          | ok options =>
              obtain ⟨given, said⟩ := Written.given_of_parse fits unsaid parsed
              have longer : Config.ofEntries (front ++ entry :: back) =
                  .ok (rest.put written.parameter other) := by
                rw [inserted, others]
                rfl
              rw [gather_of_ok parsed longer, gather_of_ok parsed others,
                resolve_put_of_some said other]

/-- Parameters are independent of each other, and each has the same effect whether it is given on
the command line or in the file. An address that is no good is refused in the same words, and where
both give a value the command line decides. -/
theorem command_line_and_file_agree (fits : written.Fits before)
    (unsaid : ∀ options, Options.parse (before ++ after) = .ok options →
      options.get written.parameter = none)
    (key : entry.key.name = written.parameter.key) (value : entry.value = written.value)
    (absent : ∀ other ∈ front ++ back, other.key.name ≠ written.parameter.key) :
    (gather (before ++ written.argument :: after) (front ++ back)).toOption =
      (gather (before ++ after) (front ++ entry :: back)).toOption ∧
    (∀ text error options config, written = .address text →
      ListenAddress.parse text = .error error →
      Options.parse (before ++ after) = .ok options →
      Config.ofEntries (front ++ back) = .ok config →
      ∃ refusal misfit,
        gather (before ++ written.argument :: after) (front ++ back) = .error (.usage refusal) ∧
        refusal.cause? = some error.message ∧
        gather (before ++ after) (front ++ entry :: back) = .error (.file misfit) ∧
        misfit.fault.message = error.message) ∧
    (∀ other config, other.key.name = written.parameter.key →
      Config.ofEntries (front ++ other :: back) = .ok config →
      gather (before ++ written.argument :: after) (front ++ other :: back) =
        gather (before ++ written.argument :: after) (front ++ back)) ∧
    ∀ options config settings, resolve options config = some settings ↔
      ∀ parameter : Parameter,
        parameter.outcome (said options config parameter) = some (settings.get parameter) := by
  refine ⟨gather_given fits unsaid key value absent, ?_, ?_, ?_⟩
  · rintro text error options config rfl bad parsed others
    have unread : (Written.address text).reading = .error error := bad
    obtain ⟨_, refused⟩ := Written.parse_of_unreadable unread fits after
    obtain ⟨setting, refused⟩ := refused options parsed (unsaid options parsed)
    have reads := Config.readEntry_eq value
    rw [unread] at reads
    obtain ⟨_, failed⟩ := Config.ofEntries_misfit key reads front back
    have misfits := gather_of_misfit parsed (failed config others)
    exact ⟨_, _, gather_of_usage refused _, rfl, misfits, rfl⟩
  · intro other config another file
    exact gather_overridden fits unsaid another absent file
  · intro options config settings
    exact resolve_eq_some_iff

def stated (key text : String) : Toml.Entry Toml.Value :=
  { key := { name := key, place := ⟨[], []⟩ }, own := none, value := .string text }

theorem dashed_command_agrees :
    let written := Written.command "-n 5"
    let before := ["-t", "seqpacket", "--"]
    let front := [stated "address" "x25 12"]
    let entry := stated "command" "-n 5"
    written.Fits before ∧
      (∀ options, Options.parse before = .ok options → options.get written.parameter = none) ∧
      (∀ other ∈ front, other.key.name ≠ written.parameter.key) ∧
      (gather (before ++ [written.argument]) front).toOption =
        (gather before (front ++ [entry])).toOption ∧
      (gather before (front ++ [entry])).toOption =
        some (some
          { address := .x25 "12", socketKind := .seqpacket, backlog := 4096,
            maxProcesses := AdmissionLimit.defaultCeiling, command := ⟨"-n 5"⟩ }) := by
  intro written before front entry
  have scanned : before.foldlM Scan.next {} = .ok
      { waiting := some (.setting .socketKind (some "seqpacket")), operandsOnly := true } := rfl
  have fits : written.Fits before := by
    intro scan same
    obtain rfl := Except.ok.inj (scanned.symm.trans same)
    exact ⟨rfl, .inl rfl⟩
  have parsed : Options.parse before = .ok { socketKind := some .seqpacket } := rfl
  have unsaid : ∀ options, Options.parse before = .ok options →
      options.get written.parameter = none := by
    intro options same
    obtain rfl := Except.ok.inj (parsed.symm.trans same)
    rfl
  have absent : ∀ other ∈ front, other.key.name ≠ written.parameter.key := by
    simp [front, stated, written, Written.parameter, Parameter.key]
  have agree := @command_line_and_file_agree written before [] front [] entry fits unsaid rfl rfl
    absent
  exact ⟨fits, unsaid, absent, agree.1, rfl⟩

end Settings

end Superserver
