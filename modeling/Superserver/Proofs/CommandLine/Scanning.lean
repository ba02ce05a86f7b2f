import Superserver.CommandLine.Parse
import Superserver.Proofs.CommandLine.Parameters

/-!
Scans of a command line. Main statements: an argument asks for steps that depend on nothing but what
the scan lacks; no value is lost that has been read; and looking at what waits before the next
argument changes nothing.
-/

namespace Superserver

namespace Parameter

def setting? : Parameter → Option Setting
  | .address => some .address
  | .backlog => some .backlog
  | .socketKind => some .socketKind
  | .maxProcesses => some .maxProcesses
  | .command => none

end Parameter

namespace Scan

variable {scan after : Scan} {options : Options} {parameter : Parameter}

/-! ### Reading values -/

theorem bind_eq_ok {α β : Type} {result : Except UsageError α} {step : α → Except UsageError β}
    {last : β} (done : result >>= step = .ok last) :
    ∃ ready, result = .ok ready ∧ step ready = .ok last := by
  cases result with
  | error error => cases done
  | ok ready => exact ⟨ready, rfl, done⟩

theorem get_of_set {setting : Setting} {text : String} {after : Options}
    (read : set options setting text = .ok after) (parameter : Parameter) :
    if parameter.setting? = some setting then (after.get parameter).isSome = true
    else after.get parameter = options.get parameter := by
  cases setting <;> simp only [set, Bind.bind, Except.bind, Pure.pure, Except.pure] at read <;>
    first
    | cases read; cases parameter <;> simp [Parameter.setting?, Options.get]
    | split at read <;> cases read
      cases parameter <;> simp [Parameter.setting?, Options.get]

theorem set_put {setting : Setting} (differ : parameter.setting? ≠ some setting)
    (value : parameter.Value) (text : String) :
    set (options.put parameter value) setting text =
      (set options setting text).map (·.put parameter value) := by
  cases setting <;> cases parameter <;> first
    | exact absurd rfl differ
    | rfl
    | simp only [set, Bind.bind, Except.bind, Pure.pure, Except.pure]; split <;> rfl

theorem take_eq_ok {setting : Setting} {text : String}
    (taken : scan.take setting text = .ok after) :
    setting ∉ scan.given ∧ ∃ options, set scan.options setting text = .ok options ∧
      after = { scan with options, given := setting :: scan.given } := by
  unfold take at taken
  split at taken
  · cases taken
  · rename_i fresh
    cases read : set scan.options setting text with
    | error error =>
        rw [read] at taken
        cases taken
    | ok options =>
        rw [read] at taken
        cases taken
        exact ⟨by simpa using fresh, options, rfl, rfl⟩

theorem settle_eq_ok (settled : scan.settle = .ok after) :
    (scan.waiting = none ∧ after = scan) ∨
    (∃ setting text, scan.waiting = some (.setting setting (some text)) ∧
      take { scan with waiting := none } setting text = .ok after) ∨
    ∃ text, scan.waiting = some (.command text) ∧
      after = { scan with waiting := none, options := scan.options.put .command text } := by
  unfold settle at settled
  split at settled
  · rename_i idle
    cases settled
    exact .inl ⟨idle, rfl⟩
  · cases settled
  · rename_i setting text waits
    exact .inr (.inl ⟨setting, text, waits, settled⟩)
  · rename_i text waits
    cases settled
    exact .inr (.inr ⟨text, waits, rfl⟩)

theorem waiting_of_settle (settled : scan.settle = .ok after) : after.waiting = none := by
  rcases settle_eq_ok settled with ⟨idle, rfl⟩ | ⟨setting, text, _, taken⟩ | ⟨text, _, rfl⟩
  · exact idle
  · obtain ⟨_, options, _, rfl⟩ := take_eq_ok taken
    rfl
  · rfl

def mark (scan : Scan) (flag : Flag) : Except UsageError Scan := do
  if flag = .help then throw .help
  if flag = .version then throw .version
  if scan.flags.contains flag then throw (.repeatedFlag flag)
  let options := match flag with
    | .daemon => { scan.options with daemon := true }
    | .verbose => { scan.options with verbose := true }
    | .help | .version => scan.options
  return { scan with options, flags := flag :: scan.flags }

theorem raiseFlag_eq (scan : Scan) (flag : Flag) :
    scan.raiseFlag flag = scan.settle >>= fun ready => ready.mark flag := rfl

/-! ### What an argument asks for -/

inductive Act where
  | beginSetting (setting : Setting) (attached : Option String)
  | raiseFlag (flag : Flag)
  | plain (text : String)
  | operand (text : String)
  | divide
  | refuse (error : UsageError)

def act (scan : Scan) : Act → Except UsageError Scan
  | .beginSetting setting attached => scan.beginSetting setting attached
  | .raiseFlag flag => scan.raiseFlag flag
  | .plain text => scan.plain text
  | .operand text => scan.operand text
  | .divide => .ok { scan with operandsOnly := true }
  | .refuse error => .error error

def namedActs (name : String) (value : Option String) : List Act :=
  match Setting.all.find? fun setting => setting.long = name with
  | some setting => [.beginSetting setting value]
  | none =>
      match Flag.all.find? fun flag => flag.long = name with
      | none => [.refuse (.unknown s!"--{name}")]
      | some flag =>
          match value with
          | some value => [.refuse (.unneededValue flag value)]
          | none => [.raiseFlag flag]

def longActs (text : List Char) : List Act :=
  match Text.splitFirst '=' text with
  | some (name, value) => namedActs (String.ofList name) (some (String.ofList value))
  | none => namedActs (String.ofList text) none

def shortActs : List Char → List Act
  | [] => []
  | letter :: rest =>
      match Setting.all.find? fun setting => setting.short? = some letter with
      | some setting =>
          let attached := match rest with
            | [] => none
            | '=' :: value => some (String.ofList value)
            | value => some (String.ofList value)
          [.beginSetting setting attached]
      | none =>
          match Flag.all.find? fun flag => flag.short = letter with
          | none => [.refuse (.unknown (String.ofList ['-', letter]))]
          | some flag => .raiseFlag flag :: shortActs rest

def dashedActs (scan : Scan) (argument : String) (letters : List Char) : List Act :=
  if (scan.hungry?.map Setting.takesNegative).getD false && looksNumeric letters
  then [.plain argument]
  else shortActs letters

/-- What an argument asks for; that depends only on the option that lacks its value and on whether
there are operands only. -/
def acts (scan : Scan) (argument : String) : List Act :=
  if scan.operandsOnly then [.operand argument]
  else match argument.toList with
    | ['-', '-'] => [.divide]
    | '-' :: '-' :: text => longActs text
    | '-' :: letter :: letters => scan.dashedActs argument (letter :: letters)
    | _ => [.plain argument]

theorem acts_congr {other : Scan} (hungry : scan.hungry? = other.hungry?)
    (divided : scan.operandsOnly = other.operandsOnly) (argument : String) :
    scan.acts argument = other.acts argument := by
  unfold acts dashedActs
  rw [hungry, divided]

theorem foldlM_singleton (scan : Scan) (asked : Act) :
    [asked].foldlM act scan = scan.act asked := by
  rw [List.foldlM_cons]
  cases scan.act asked <;> rfl

theorem long_eq_acts (scan : Scan) (text : List Char) :
    scan.long text = (longActs text).foldlM act scan := by
  have named : ∀ (name : String) (value : Option String),
      (match Setting.all.find? fun setting => setting.long = name with
        | some setting => scan.beginSetting setting value
        | none =>
            match Flag.all.find? fun flag => flag.long = name with
            | none => .error (.unknown s!"--{name}")
            | some flag =>
                match value with
                | some value => .error (.unneededValue flag value)
                | none => scan.raiseFlag flag) = (namedActs name value).foldlM act scan := by
    intro name value
    unfold namedActs
    cases Setting.all.find? fun setting => setting.long = name with
    | some setting => exact (foldlM_singleton scan (.beginSetting setting value)).symm
    | none =>
        cases Flag.all.find? fun flag => flag.long = name with
        | none => rfl
        | some flag =>
            cases value with
            | some value => rfl
            | none => exact (foldlM_singleton scan (.raiseFlag flag)).symm
  unfold long longActs
  cases Text.splitFirst '=' text with
  | some parts => exact named _ _
  | none => exact named _ _

theorem short_eq_acts (scan : Scan) (letters : List Char) :
    scan.short letters = (shortActs letters).foldlM act scan := by
  induction letters generalizing scan with
  | nil => rfl
  | cons letter rest ih =>
      unfold short shortActs
      cases Setting.all.find? fun setting => setting.short? = some letter with
      | some setting => exact (foldlM_singleton scan (.beginSetting setting _)).symm
      | none =>
          dsimp only
          cases Flag.all.find? fun flag => flag.short = letter with
          | none => rfl
          | some flag =>
              dsimp only
              rw [List.foldlM_cons]
              exact congrArg _ (funext ih)

theorem dashed_eq_acts (scan : Scan) (argument : String) (letters : List Char) :
    (if (scan.hungry?.map Setting.takesNegative).getD false && looksNumeric letters
      then scan.plain argument
      else scan.short letters) = (scan.dashedActs argument letters).foldlM act scan := by
  unfold dashedActs
  split
  · exact (foldlM_singleton scan (.plain argument)).symm
  · exact short_eq_acts scan letters

theorem next_eq_acts (scan : Scan) (argument : String) :
    scan.next argument = (scan.acts argument).foldlM act scan := by
  unfold next acts
  by_cases divided : scan.operandsOnly = true
  · rw [if_pos divided, if_pos divided]
    exact (foldlM_singleton scan (.operand argument)).symm
  · rw [if_neg divided, if_neg divided]
    generalize argument.toList = text
    split
    · rfl
    · exact (long_eq_acts scan _).trans (by simp)
    · exact (dashed_eq_acts scan argument _).trans (by simp)
    · simp [act]

/-! ### What a scan has -/

/-- The scan has a value for the parameter, if only one that still waits. -/
def Holds (scan : Scan) (parameter : Parameter) : Prop :=
  (scan.options.get parameter).isSome = true ∨
    parameter = .command ∧ ∃ text, scan.waiting = some (.command text)

/-- The scan refuses another value for the parameter. -/
def Counts (scan : Scan) (parameter : Parameter) : Prop :=
  match parameter.setting? with
  | some setting => setting ∈ scan.given
  | none => scan.commandTaken = true

structure Grows (scan after : Scan) : Prop where
  holds : ∀ parameter, scan.Holds parameter → after.Holds parameter
  counts : ∀ parameter, after.Counts parameter → scan.Counts parameter ∨ after.Holds parameter

namespace Grows

theorem refl (scan : Scan) : Grows scan scan := ⟨fun _ holds => holds, fun _ counts => .inl counts⟩

theorem trans {last : Scan} (grows : Grows scan after) (next : Grows after last) :
    Grows scan last := by
  refine ⟨fun parameter holds => next.holds parameter (grows.holds parameter holds), ?_⟩
  intro parameter counts
  rcases next.counts parameter counts with counts | holds
  · rcases grows.counts parameter counts with counts | holds
    · exact .inl counts
    · exact .inr (next.holds parameter holds)
  · exact .inr holds

theorem of_same (options : ∀ parameter, after.options.get parameter = scan.options.get parameter)
    (given : after.given = scan.given) (taken : after.commandTaken = scan.commandTaken)
    (waits : ∀ text, scan.waiting = some (.command text) →
      after.waiting = some (.command text)) : Grows scan after := by
  refine ⟨?_, ?_⟩
  · rintro parameter (had | ⟨command, text, waiting⟩)
    · exact .inl (by rwa [options])
    · exact .inr ⟨command, text, waits text waiting⟩
  · intro parameter counts
    unfold Counts at counts ⊢
    rw [given, taken] at counts
    exact .inl counts

theorem take {setting : Setting} {text : String} (taken : scan.take setting text = .ok after) :
    Grows scan after := by
  obtain ⟨_, options, read, rfl⟩ := take_eq_ok taken
  refine ⟨?_, ?_⟩
  · rintro parameter (had | waits)
    · have kept := get_of_set read parameter
      split at kept
      · exact .inl kept
      · exact .inl (by rwa [kept])
    · exact .inr waits
  · intro parameter counts
    have kept := get_of_set read parameter
    cases own : parameter.setting? with
    | none =>
        simp only [Counts, own] at counts ⊢
        exact .inl counts
    | some other =>
        simp only [Counts, own] at counts ⊢
        rcases List.mem_cons.mp counts with rfl | counts
        · rw [if_pos own] at kept
          exact .inr (.inl kept)
        · exact .inl counts

theorem settle (settled : scan.settle = .ok after) : Grows scan after := by
  rcases settle_eq_ok settled with ⟨_, rfl⟩ | ⟨setting, text, waits, taken⟩ | ⟨text, waits, rfl⟩
  · exact refl _
  · have idle : Grows scan { scan with waiting := none } := by
      refine of_same (fun _ => rfl) rfl rfl fun other same => ?_
      cases waits.symm.trans same
    exact idle.trans (take taken)
  · refine ⟨?_, fun parameter counts => .inl counts⟩
    intro parameter holds
    by_cases command : parameter = .command
    · subst command
      exact .inl (by simp)
    · rcases holds with had | ⟨own, _⟩
      · exact .inl (by rwa [Options.get_put_of_ne command])
      · exact absurd own command

theorem await (idle : scan.waiting = none) (setting : Setting) (attached : Option String) :
    Grows scan { scan with waiting := some (.setting setting attached) } := by
  refine of_same (fun _ => rfl) rfl rfl fun text waits => ?_
  cases idle.symm.trans waits

theorem beginSetting {setting : Setting} {attached : Option String}
    (begun : scan.beginSetting setting attached = .ok after) : Grows scan after := by
  obtain ⟨ready, settled, done⟩ := bind_eq_ok begun
  refine (settle settled).trans ?_
  cases attached with
  | some text => exact take done
  | none =>
      cases done
      exact await (waiting_of_settle settled) setting none

theorem mark {flag : Flag} (marked : scan.mark flag = .ok after) : Grows scan after := by
  simp only [Scan.mark, Bind.bind, Except.bind, Pure.pure, Except.pure, throw, throwThe,
    MonadExceptOf.throw] at marked
  split at marked
  · cases marked
  split at marked
  · cases marked
  split at marked
  · cases marked
  cases marked
  refine of_same (fun parameter => ?_) rfl rfl fun text waits => waits
  cases flag <;> cases parameter <;> rfl

theorem raiseFlag {flag : Flag} (raised : scan.raiseFlag flag = .ok after) :
    Grows scan after := by
  rw [raiseFlag_eq] at raised
  obtain ⟨ready, settled, marked⟩ := bind_eq_ok raised
  exact (settle settled).trans (mark marked)

theorem place (idle : scan.waiting = none) (text : String) :
    Grows scan { scan with waiting := some (.command text), commandTaken := true } := by
  refine ⟨?_, ?_⟩
  · rintro parameter (had | ⟨_, other, waits⟩)
    · exact .inl had
    · cases idle.symm.trans waits
  · intro parameter counts
    cases parameter with
    | command => exact .inr (.inr ⟨rfl, text, rfl⟩)
    | _ => exact .inl counts

theorem operand {text : String} (taken : scan.operand text = .ok after) : Grows scan after := by
  unfold Scan.operand at taken
  split at taken
  · cases taken
  · obtain ⟨ready, settled, done⟩ := bind_eq_ok taken
    cases done
    exact (settle settled).trans (place (waiting_of_settle settled) text)

theorem plain {text : String} (taken : scan.plain text = .ok after) : Grows scan after := by
  unfold Scan.plain at taken
  split at taken
  · rename_i setting hungry
    cases taken
    refine of_same (fun _ => rfl) rfl rfl fun text waits => ?_
    simp [hungry?, waits] at hungry
  · exact operand taken

theorem act {asked : Act} (acted : scan.act asked = .ok after) : Grows scan after := by
  cases asked with
  | beginSetting setting attached => exact beginSetting acted
  | raiseFlag flag => exact raiseFlag acted
  | plain text => exact plain acted
  | operand text => exact operand acted
  | divide =>
      cases acted
      exact of_same (fun _ => rfl) rfl rfl fun _ waits => waits
  | refuse error => cases acted

theorem foldlM {α : Type} {step : Scan → α → Except UsageError Scan}
    (grows : ∀ scan item after, step scan item = .ok after → Grows scan after) {items : List α}
    (done : items.foldlM step scan = .ok after) : Grows scan after := by
  induction items generalizing scan with
  | nil =>
      cases done
      exact refl _
  | cons item items ih =>
      rw [List.foldlM_cons] at done
      cases stepped : step scan item with
      | error error =>
          rw [stepped] at done
          cases done
      | ok next =>
          rw [stepped] at done
          exact (grows scan item next stepped).trans (ih done)

theorem next {argument : String} (read : scan.next argument = .ok after) : Grows scan after := by
  rw [next_eq_acts] at read
  exact foldlM (fun _ _ _ => act) read

theorem arguments {arguments : List String} (read : arguments.foldlM Scan.next scan = .ok after) :
    Grows scan after :=
  foldlM (fun _ _ _ => next) read

end Grows

/-- What is counted is had. -/
theorem holds_of_counts (grows : Grows {} scan) (counts : scan.Counts parameter) :
    scan.Holds parameter := by
  rcases grows.counts parameter counts with counts | holds
  · cases parameter <;> cases counts
  · exact holds

/-! ### The rest of a command line -/

def run (scan : Scan) (arguments : List String) : Except UsageError Options :=
  arguments.foldlM Scan.next scan >>= finish

theorem parse_append (before after : List String) :
    Options.parse (before ++ after) =
      before.foldlM Scan.next {} >>= fun scan => scan.run after := by
  unfold Options.parse
  rw [List.foldlM_append]
  cases before.foldlM Scan.next {} <;> rfl

theorem parse_of_read {before : List String} (read : before.foldlM Scan.next {} = .ok scan)
    (after : List String) : Options.parse (before ++ after) = scan.run after := by
  rw [parse_append, read]
  rfl

def conclude (scan : Scan) : Except UsageError Options :=
  if !scan.options.daemon && scan.given.any Setting.needsDaemon then .error .missingDaemon
  else .ok scan.options

theorem finish_eq (scan : Scan) : scan.finish = scan.settle >>= conclude := by
  unfold finish conclude
  cases scan.settle with
  | error error => rfl
  | ok ready =>
      simp only [Bind.bind, Except.bind, Pure.pure, Except.pure, throw, throwThe,
        MonadExceptOf.throw]

theorem get_of_conclude (idle : scan.waiting = none) (holds : scan.Holds parameter)
    (done : scan.conclude = .ok options) : (options.get parameter).isSome = true := by
  unfold conclude at done
  split at done
  · cases done
  cases done
  rcases holds with had | ⟨_, text, waits⟩
  · exact had
  · cases idle.symm.trans waits

theorem get_of_finish (holds : scan.Holds parameter) (done : scan.finish = .ok options) :
    (options.get parameter).isSome = true := by
  rw [finish_eq] at done
  obtain ⟨ready, settled, concluded⟩ := bind_eq_ok done
  have kept := (Grows.settle settled).holds parameter holds
  exact get_of_conclude (waiting_of_settle settled) kept concluded

theorem get_of_run {arguments : List String} (holds : scan.Holds parameter)
    (done : scan.run arguments = .ok options) : (options.get parameter).isSome = true := by
  obtain ⟨after, read, finished⟩ := bind_eq_ok done
  exact get_of_finish ((Grows.arguments read).holds parameter holds) finished

/-! ### Looking at what waits -/

theorem settle_of_idle (idle : scan.waiting = none) : scan.settle = .ok scan := by
  rw [settle, idle]

theorem settle_of_settle (settled : scan.settle = .ok after) : after.settle = .ok after :=
  settle_of_idle (waiting_of_settle settled)

theorem hungry?_of_settle (settled : scan.settle = .ok after) : after.hungry? = none := by
  rw [hungry?, waiting_of_settle settled]

/-- Looking at what waits changes nothing that decides how arguments are taken. -/
theorem same_of_settle (settled : scan.settle = .ok after) :
    after.commandTaken = scan.commandTaken ∧ after.operandsOnly = scan.operandsOnly := by
  rcases settle_eq_ok settled with ⟨_, rfl⟩ | ⟨setting, text, _, taken⟩ | ⟨text, _, rfl⟩
  · exact ⟨rfl, rfl⟩
  · obtain ⟨_, options, _, rfl⟩ := take_eq_ok taken
    exact ⟨rfl, rfl⟩
  · exact ⟨rfl, rfl⟩

theorem act_of_settle (fed : scan.hungry? = none) (settled : scan.settle = .ok after) {asked : Act}
    (onward : asked ≠ .divide) : scan.act asked = after.act asked := by
  have again := settle_of_settle settled
  have taken : ∀ text, scan.operand text = after.operand text := by
    intro text
    unfold operand
    rw [(same_of_settle settled).1, settled, again]
  cases asked with
  | beginSetting setting attached => simp only [act, beginSetting, settled, again]
  | raiseFlag flag => simp only [act, raiseFlag, settled, again]
  | plain text => simp only [act, plain, fed, hungry?_of_settle settled, taken]
  | operand text => exact taken text
  | divide => exact absurd rfl onward
  | refuse error => rfl

theorem act_of_unsettled (fed : scan.hungry? = none) {error : UsageError}
    (failed : scan.settle = .error error) {asked : Act} (onward : asked ≠ .divide) :
    ∃ fault, scan.act asked = .error fault := by
  have refused : ∀ text, ∃ fault, scan.operand text = .error fault := by
    intro text
    unfold operand
    rw [failed]
    split <;> exact ⟨_, rfl⟩
  cases asked with
  | beginSetting setting attached => exact ⟨error, by rw [act, beginSetting, failed]; rfl⟩
  | raiseFlag flag => exact ⟨error, by rw [act, raiseFlag, failed]; rfl⟩
  | plain text =>
      rw [act, plain, fed]
      exact refused text
  | operand text => exact refused text
  | divide => exact absurd rfl onward
  | refuse error => exact ⟨error, rfl⟩

def Onward (asked : List Act) : Prop := ∃ first rest, asked = first :: rest ∧ first ≠ .divide

theorem onward_namedActs (name : String) (value : Option String) :
    Onward (namedActs name value) := by
  unfold namedActs
  split
  · exact ⟨_, _, rfl, by simp⟩
  · split
    · exact ⟨_, _, rfl, by simp⟩
    · split <;> exact ⟨_, _, rfl, by simp⟩

theorem onward_longActs (text : List Char) : Onward (longActs text) := by
  unfold longActs
  split <;> exact onward_namedActs _ _

theorem onward_shortActs (letter : Char) (letters : List Char) :
    Onward (shortActs (letter :: letters)) := by
  unfold shortActs
  split
  · exact ⟨_, _, rfl, by simp⟩
  · split <;> exact ⟨_, _, rfl, by simp⟩

theorem acts_cases (scan : Scan) (argument : String) :
    scan.acts argument = [.divide] ∨ Onward (scan.acts argument) := by
  unfold acts
  split
  · exact .inr ⟨_, _, rfl, by simp⟩
  · split
    · exact .inl rfl
    · exact .inr (onward_longActs _)
    · unfold dashedActs
      split
      · exact .inr ⟨_, _, rfl, by simp⟩
      · exact .inr (onward_shortActs _ _)
    · exact .inr ⟨_, _, rfl, by simp⟩

theorem settle_divided (scan : Scan) :
    settle { scan with operandsOnly := true } =
      scan.settle.map fun ready => { ready with operandsOnly := true } := by
  obtain ⟨options, waiting, given, flags, commandTaken, operandsOnly⟩ := scan
  cases waiting with
  | none => rfl
  | some waiting =>
      cases waiting with
      | command text => rfl
      | setting setting attached =>
          cases attached with
          | none => rfl
          | some text =>
              simp only [settle, take]
              split
              · rfl
              · cases set options setting text <;> rfl

theorem run_cons (scan : Scan) (argument : String) (arguments : List String) :
    scan.run (argument :: arguments) = scan.next argument >>= fun after => after.run arguments := by
  unfold run
  rw [List.foldlM_cons]
  cases scan.next argument <;> rfl

theorem run_of_settle (fed : scan.hungry? = none) (settled : scan.settle = .ok after)
    (arguments : List String) : scan.run arguments = after.run arguments := by
  induction arguments generalizing scan after with
  | nil =>
      have finished : scan.finish = after.finish := by
        rw [finish_eq, finish_eq, settled, settle_of_settle settled]
      exact finished
  | cons argument arguments ih =>
      have hungry := fed.trans (hungry?_of_settle settled).symm
      have same := acts_congr hungry (same_of_settle settled).2.symm argument
      rw [run_cons, run_cons, next_eq_acts, next_eq_acts, ← same]
      rcases scan.acts_cases argument with divided | ⟨first, rest, asked, onward⟩
      · rw [divided]
        have next := settle_divided scan
        rw [settled] at next
        exact ih fed next
      · rw [asked, List.foldlM_cons, List.foldlM_cons, act_of_settle fed settled onward]

/-- What waits and is no good is an end in any case. -/
theorem run_of_unsettled (fed : scan.hungry? = none) {error : UsageError}
    (failed : scan.settle = .error error) (arguments : List String) :
    ∃ fault, scan.run arguments = .error fault := by
  induction arguments generalizing scan with
  | nil => exact ⟨error, (finish_eq scan).trans (by rw [failed]; rfl)⟩
  | cons argument arguments ih =>
      rw [run_cons, next_eq_acts]
      rcases scan.acts_cases argument with divided | ⟨first, rest, asked, onward⟩
      · rw [divided]
        have next := settle_divided scan
        rw [failed] at next
        exact ih fed next
      · obtain ⟨fault, refused⟩ := act_of_unsettled fed failed onward
        rw [asked, List.foldlM_cons, refused]
        exact ⟨fault, rfl⟩

end Scan

end Superserver
