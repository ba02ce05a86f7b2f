import Superserver.Proofs.CommandLine.Scanning
import Superserver.Proofs.Text.Fields

/-!
One argument more on a command line. Main statement: with an option or the command put in, a command
line gives what it gave before and the new value, and is refused if it was refused before.
-/

namespace Superserver

namespace Scan

variable {scan after : Scan} {options : Options} {parameter : Parameter}

/-! ### A scan that has read one value more -/

/-- The other scan differs only in that it has read a value for the parameter, of which the first
one has none. -/
structure Extends (parameter : Parameter) (value : parameter.Value) (base scan : Scan) : Prop where
  options : scan.options = base.options.put parameter value
  waiting : scan.waiting = base.waiting
  given : ∀ setting, setting ∈ scan.given ↔
    parameter.setting? = some setting ∨ setting ∈ base.given
  flags : scan.flags = base.flags
  taken : scan.commandTaken = (decide (parameter = .command) || base.commandTaken)
  divided : scan.operandsOnly = base.operandsOnly
  idle : parameter = .command → ∀ text, base.waiting ≠ some (.command text)

/-- What the scan with one value more comes to: it fails where the other one does, and where the
other one reads a value for the parameter itself. -/
def Follows (parameter : Parameter) (value : parameter.Value) :
    Except UsageError Scan → Except UsageError Scan → Prop
  | .error _, result => ∃ error, result = .error error
  | .ok base, result =>
      (∃ scan, result = .ok scan ∧ Extends parameter value base scan) ∨
        (∃ error, result = .error error) ∧ base.Holds parameter

section Following

variable {value : parameter.Value} {base : Scan}

theorem Extends.follows (more : Extends parameter value base scan) :
    Follows parameter value (.ok base) (.ok scan) := .inl ⟨scan, rfl, more⟩

theorem Follows.bind {step : Scan → Except UsageError Scan}
    {result other : Except UsageError Scan} (follows : Follows parameter value result other)
    (grows : ∀ base after, result = .ok base → step base = .ok after → Grows base after)
    (next : ∀ base scan, Extends parameter value base scan →
      Follows parameter value (step base) (step scan)) :
    Follows parameter value (result >>= step) (other >>= step) := by
  cases result with
  | error error =>
      obtain ⟨fault, rfl⟩ := follows
      exact ⟨fault, rfl⟩
  | ok base =>
      rcases follows with ⟨scan, rfl, more⟩ | ⟨⟨fault, rfl⟩, holds⟩
      · exact next base scan more
      · have refused : Follows parameter value (step base) (.error fault) := by
          cases stepped : step base with
          | error error => exact ⟨fault, rfl⟩
          | ok after => exact .inr ⟨⟨fault, rfl⟩, (grows base after rfl stepped).holds _ holds⟩
        exact refused

theorem Follows.foldlM {α : Type} {step : Scan → α → Except UsageError Scan}
    (grows : ∀ scan item after, step scan item = .ok after → Grows scan after)
    (next : ∀ base scan item, Extends parameter value base scan →
      Follows parameter value (step base item) (step scan item))
    (more : Extends parameter value base scan) (items : List α) :
    Follows parameter value (items.foldlM step base) (items.foldlM step scan) := by
  induction items generalizing base scan with
  | nil => exact more.follows
  | cons item items ih =>
      rw [List.foldlM_cons, List.foldlM_cons]
      refine (next base scan item more).bind (fun scan after _ done => ?_) ?_
      · exact Grows.foldlM grows done
      · exact fun base scan more => ih more

theorem Extends.take (more : Extends parameter value base scan) (setting : Setting)
    (text : String) :
    Follows parameter value (base.take setting text) (scan.take setting text) := by
  by_cases own : parameter.setting? = some setting
  · -- The value that has been read stands against another one.
    have repeated : scan.take setting text = .error (.repeatedSetting setting) := by
      have member := (more.given setting).mpr (.inl own)
      rw [Scan.take, if_pos (by simpa using member)]
    rw [repeated]
    cases taken : base.take setting text with
    | error error => exact ⟨_, rfl⟩
    | ok after =>
        obtain ⟨_, options, read, rfl⟩ := take_eq_ok taken
        have had := get_of_set read parameter
        rw [if_pos own] at had
        exact .inr ⟨⟨_, rfl⟩, .inl had⟩
  · have same : scan.given.contains setting = base.given.contains setting := by
      rw [Bool.eq_iff_iff, List.contains_iff_mem, List.contains_iff_mem, more.given]
      exact or_iff_right own
    unfold Scan.take
    rw [same, more.options, set_put own]
    split
    · exact ⟨_, rfl⟩
    · cases set base.options setting text with
      | error error => exact ⟨_, rfl⟩
      | ok options =>
          refine Extends.follows ⟨rfl, more.waiting, ?_, more.flags, more.taken,
            more.divided, more.idle⟩
          intro other
          simp only [List.mem_cons, more.given]
          exact or_left_comm

theorem Extends.settle (more : Extends parameter value base scan) :
    Follows parameter value base.settle scan.settle := by
  have rested : Extends parameter value { base with waiting := none }
      { scan with waiting := none } :=
    ⟨more.options, rfl, more.given, more.flags, more.taken, more.divided,
      fun _ _ => by simp⟩
  unfold Scan.settle
  rw [more.waiting]
  cases waits : base.waiting with
  | none => exact more.follows
  | some waiting =>
      cases waiting with
      | setting setting attached =>
          cases attached with
          | none => exact ⟨_, rfl⟩
          | some text => exact rested.take setting text
      | command text =>
          have other : .command ≠ parameter := by
            rintro rfl
            exact more.idle rfl text waits
          refine Extends.follows ⟨?_, rfl, rested.given, rested.flags, rested.taken,
            rested.divided, rested.idle⟩
          rw [more.options]
          exact @Options.put_comm base.options parameter .command other value text

/-- The scan waits for what belongs to an option. -/
theorem Extends.await (more : Extends parameter value base scan) (setting : Setting)
    (attached : Option String) :
    Extends parameter value { base with waiting := some (.setting setting attached) }
      { scan with waiting := some (.setting setting attached) } :=
  ⟨more.options, rfl, more.given, more.flags, more.taken, more.divided, fun _ _ => by simp⟩

theorem Extends.beginSetting (more : Extends parameter value base scan) (setting : Setting)
    (attached : Option String) :
    Follows parameter value (base.beginSetting setting attached)
      (scan.beginSetting setting attached) := by
  unfold Scan.beginSetting
  cases attached with
  | some text => exact more.settle.bind (fun _ _ _ => Grows.take) fun _ _ more => more.take _ _
  | none =>
      refine more.settle.bind (fun ready after settled done => ?_) fun ready scan more => ?_
      · cases done
        exact Grows.await (waiting_of_settle settled) setting none
      · exact (more.await setting none).follows

theorem Extends.mark (more : Extends parameter value base scan) (flag : Flag) :
    Follows parameter value (base.mark flag) (scan.mark flag) := by
  simp only [Scan.mark, Bind.bind, Except.bind, Pure.pure, Except.pure, throw, throwThe,
    MonadExceptOf.throw, more.flags]
  split
  · exact ⟨_, rfl⟩
  split
  · exact ⟨_, rfl⟩
  split
  · exact ⟨_, rfl⟩
  refine Extends.follows ⟨?_, more.waiting, more.given, rfl, more.taken, more.divided, more.idle⟩
  rw [more.options]
  cases flag <;> cases parameter <;> rfl

theorem Extends.raiseFlag (more : Extends parameter value base scan) (flag : Flag) :
    Follows parameter value (base.raiseFlag flag) (scan.raiseFlag flag) := by
  rw [raiseFlag_eq, raiseFlag_eq]
  exact more.settle.bind (fun _ _ _ => Grows.mark) fun _ _ more => more.mark flag

theorem Extends.operand (more : Extends parameter value base scan) (text : String) :
    Follows parameter value (base.operand text) (scan.operand text) := by
  by_cases command : parameter = .command
  · subst command
    have refused : scan.operand text = .error (.unknown text) := by
      rw [Scan.operand, if_pos (by simp [more.taken])]
    rw [refused]
    cases taken : base.operand text with
    | error error => exact ⟨_, rfl⟩
    | ok after =>
        unfold Scan.operand at taken
        split at taken
        · cases taken
        · obtain ⟨ready, _, done⟩ := bind_eq_ok taken
          cases done
          exact .inr ⟨⟨_, rfl⟩, .inr ⟨rfl, text, rfl⟩⟩
  · have same : scan.commandTaken = base.commandTaken := by simp [more.taken, command]
    unfold Scan.operand
    rw [same]
    split
    · exact ⟨_, rfl⟩
    · refine more.settle.bind (fun ready after settled done => ?_) fun ready scan more => ?_
      · cases done
        exact Grows.place (waiting_of_settle settled) text
      · exact Extends.follows ⟨more.options, rfl, more.given, more.flags, by simp, more.divided,
          fun own => absurd own command⟩

theorem Extends.plain (more : Extends parameter value base scan) (text : String) :
    Follows parameter value (base.plain text) (scan.plain text) := by
  have same : scan.hungry? = base.hungry? := by rw [hungry?, hungry?, more.waiting]
  unfold Scan.plain
  rw [same]
  split
  · exact (more.await _ _).follows
  · exact more.operand text

theorem Extends.act (more : Extends parameter value base scan) (asked : Act) :
    Follows parameter value (base.act asked) (scan.act asked) := by
  cases asked with
  | beginSetting setting attached => exact more.beginSetting setting attached
  | raiseFlag flag => exact more.raiseFlag flag
  | plain text => exact more.plain text
  | operand text => exact more.operand text
  | divide =>
      exact Extends.follows ⟨more.options, more.waiting, more.given, more.flags, more.taken, rfl,
        more.idle⟩
  | refuse error => exact ⟨error, rfl⟩

theorem Extends.next (more : Extends parameter value base scan) (argument : String) :
    Follows parameter value (base.next argument) (scan.next argument) := by
  have hungry : scan.hungry? = base.hungry? := by rw [hungry?, hungry?, more.waiting]
  have same := acts_congr hungry more.divided argument
  rw [next_eq_acts, next_eq_acts, same]
  exact Follows.foldlM (fun _ _ _ => Grows.act) (fun _ _ asked more => more.act asked) more _

theorem Extends.arguments (more : Extends parameter value base scan) (arguments : List String) :
    Follows parameter value (arguments.foldlM Scan.next base)
      (arguments.foldlM Scan.next scan) :=
  Follows.foldlM (fun _ _ _ => Grows.next) (fun _ _ argument more => more.next argument) more _

end Following

/-! ### Options with one value more -/

def Adds (parameter : Parameter) (value : parameter.Value) : Option Options → Option Options → Prop
  | none, result => result = none
  | some options, result =>
      options.get parameter = none → result = some (options.put parameter value)

section Adding

variable {value : parameter.Value} {base : Scan}

/-- Where the parameter is had already, there is nothing to add. -/
theorem adds_of_had {result : Except UsageError Options}
    (had : ∀ options, result = .ok options → (options.get parameter).isSome = true) :
    Adds parameter value result.toOption none := by
  cases result with
  | error error => rfl
  | ok options =>
      intro missing
      have had := had options rfl
      rw [missing] at had
      cases had

theorem Follows.adds {step : Scan → Except UsageError Options}
    {result other : Except UsageError Scan} (follows : Follows parameter value result other)
    (had : ∀ base options, result = .ok base → base.Holds parameter → step base = .ok options →
      (options.get parameter).isSome = true)
    (next : ∀ base scan, Extends parameter value base scan →
      Adds parameter value (step base).toOption (step scan).toOption) :
    Adds parameter value (result >>= step).toOption (other >>= step).toOption := by
  cases result with
  | error error =>
      obtain ⟨fault, rfl⟩ := follows
      rfl
  | ok base =>
      rcases follows with ⟨scan, rfl, more⟩ | ⟨⟨fault, rfl⟩, holds⟩
      · exact next base scan more
      · exact adds_of_had fun options done => had base options rfl holds done

theorem Extends.conclude (more : Extends parameter value base scan) :
    Adds parameter value base.conclude.toOption scan.conclude.toOption := by
  have daemon : scan.options.daemon = base.options.daemon := by
    rw [more.options]
    cases parameter <;> rfl
  have needing : scan.given.any Setting.needsDaemon = base.given.any Setting.needsDaemon := by
    rw [Bool.eq_iff_iff, List.any_eq_true, List.any_eq_true]
    refine exists_congr fun setting => and_congr_left fun needs => ?_
    rw [more.given]
    refine or_iff_right fun own => ?_
    cases parameter <;> cases own <;> cases needs
  unfold Scan.conclude
  rw [daemon, needing]
  split
  · rfl
  · intro _
    exact congrArg some more.options

theorem Extends.finish (more : Extends parameter value base scan) :
    Adds parameter value base.finish.toOption scan.finish.toOption := by
  rw [finish_eq, finish_eq]
  refine more.settle.adds (fun ready options settled holds done => ?_) fun _ _ => conclude
  exact get_of_conclude (waiting_of_settle settled) holds done

theorem Extends.run (more : Extends parameter value base scan) (arguments : List String) :
    Adds parameter value (base.run arguments).toOption (scan.run arguments).toOption :=
  (more.arguments arguments).adds (fun _ _ _ => get_of_finish) fun _ _ => finish

end Adding

/-! ### One argument more -/

/-- The next argument is taken for the parameter, unless there is a value for it already. -/
structure Takes (parameter : Parameter) (value : parameter.Value) (scan : Scan)
    (argument : String) : Prop where
  fed : scan.hungry? = none
  unsettled : ∀ error, scan.settle = .error error → ∃ fault, scan.next argument = .error fault
  settled : ∀ ready, scan.settle = .ok ready →
    (ready.Counts parameter ∧ ∃ fault, scan.next argument = .error fault) ∨
      ∃ next longer, scan.next argument = .ok next ∧ next.hungry? = none ∧
        next.settle = .ok longer ∧ Extends parameter value ready longer

theorem parse_insert {value : parameter.Value} {before after : List String} {argument : String}
    (takes : ∀ scan, before.foldlM Scan.next {} = .ok scan →
      Takes parameter value scan argument) :
    Adds parameter value (Options.parse (before ++ after)).toOption
      (Options.parse (before ++ argument :: after)).toOption := by
  cases read : before.foldlM Scan.next {} with
  | error error =>
      rw [parse_append, parse_append, read]
      rfl
  | ok scan =>
      have takes := takes scan read
      rw [parse_of_read read, parse_of_read read, run_cons]
      cases settled : scan.settle with
      | error error =>
          obtain ⟨fault, failed⟩ := run_of_unsettled takes.fed settled after
          obtain ⟨refusal, refused⟩ := takes.unsettled error settled
          rw [failed, refused]
          rfl
      | ok ready =>
          rw [run_of_settle takes.fed settled]
          rcases takes.settled ready settled with ⟨counts, fault, refused⟩ |
            ⟨next, longer, done, fed, rested, more⟩
          · rw [refused]
            have grows := (Grows.arguments read).trans (Grows.settle settled)
            exact adds_of_had fun options done => get_of_run (holds_of_counts grows counts) done
          · rw [done]
            have rest := more.run after
            rw [← run_of_settle fed rested] at rest
            exact rest

def assignment (setting : Setting) (text : String) : String := s!"--{setting.long}={text}"

theorem next_assignment (joined : scan.operandsOnly = false) (setting : Setting) (text : String) :
    scan.next (assignment setting text) = scan.beginSetting setting (some text) := by
  have spelled : (assignment setting text).toList =
      '-' :: '-' :: (setting.long.toList ++ '=' :: text.toList) := by
    simp [assignment, toString]
  have free : '=' ∉ setting.long.toList := by cases setting <;> decide
  have found : Setting.all.find? (fun other => other.long = setting.long) = some setting := by
    cases setting <;> decide
  have asked : longActs (setting.long.toList ++ '=' :: text.toList) =
      [.beginSetting setting (some text)] := by
    rw [longActs, Text.splitFirst_of_free free]
    simp only [String.ofList_toList, namedActs, found]
  have long : scan.long (setting.long.toList ++ '=' :: text.toList) =
      scan.beginSetting setting (some text) := by
    rw [long_eq_acts, asked, foldlM_singleton]
    rfl
  have filled : setting.long.toList ++ '=' :: text.toList ≠ [] := by simp
  rw [next, joined, if_neg (by simp), spelled]
  generalize setting.long.toList ++ '=' :: text.toList = rest at long filled
  cases rest with
  | nil => exact absurd rfl filled
  | cons character rest => exact long

theorem takes_assignment {value : parameter.Value} {setting : Setting} {text : String}
    (own : parameter.setting? = some setting)
    (read : ∀ options, set options setting text = .ok (options.put parameter value))
    (fed : scan.hungry? = none) (joined : scan.operandsOnly = false) :
    Takes parameter value scan (assignment setting text) := by
  have next : scan.next (assignment setting text) =
      scan.settle >>= fun ready => ready.take setting text := next_assignment joined setting text
  have optional : parameter ≠ .command := by
    rintro rfl
    cases own
  refine ⟨fed, fun error failed => ⟨error, by rw [next, failed]; rfl⟩, fun ready settled => ?_⟩
  have idle := waiting_of_settle settled
  by_cases repeated : setting ∈ ready.given
  · refine .inl ⟨by simpa only [Counts, own] using repeated, .repeatedSetting setting, ?_⟩
    rw [next, settled]
    exact if_pos (by simpa using repeated)
  · let longer : Scan :=
      { ready with options := ready.options.put parameter value, given := setting :: ready.given }
    have taken : ready.take setting text = .ok longer := by
      rw [take, if_neg (by simpa using repeated), read]
      rfl
    have rested : longer.waiting = none := idle
    refine .inr ⟨longer, longer, ?_, ?_, settle_of_idle rested, ?_⟩
    · rw [next, settled]
      exact taken
    · rw [hungry?, rested]
    · refine ⟨rfl, rfl, fun other => ?_, rfl, by simp [longer, optional], rfl, ?_⟩
      · simp [longer, own, eq_comm]
      · exact fun command => absurd command optional

theorem next_of_bare {text : String}
    (bare : scan.operandsOnly = true ∨ ∀ letter letters, text.toList ≠ '-' :: letter :: letters)
    (fed : scan.hungry? = none) : scan.next text = scan.operand text := by
  unfold next
  split
  · rfl
  · rename_i joined
    have bare := bare.resolve_left joined
    split
    · rename_i dashes
      exact absurd dashes (bare _ _)
    · rename_i dashes
      exact absurd dashes (bare _ _)
    · rename_i dashed
      exact absurd dashed (bare _ _)
    · rw [plain, fed]

theorem takes_operand {text : String}
    (bare : scan.operandsOnly = true ∨ ∀ letter letters, text.toList ≠ '-' :: letter :: letters)
    (fed : scan.hungry? = none) : Takes .command text scan text := by
  have next := next_of_bare bare fed
  refine ⟨fed, fun error failed => ?_, fun ready settled => ?_⟩
  · rw [next, operand, failed]
    split <;> exact ⟨_, rfl⟩
  have idle := waiting_of_settle settled
  have same := (same_of_settle settled).1
  by_cases taken : scan.commandTaken = true
  · refine .inl ⟨same.trans taken, .unknown text, ?_⟩
    rw [next, operand, if_pos taken]
  · let waits : Scan :=
      { ready with waiting := some (.command text), commandTaken := true }
    let longer : Scan :=
      { ready with options := ready.options.put .command text, commandTaken := true }
    refine .inr ⟨waits, longer, ?_, rfl, ?_, ?_⟩
    · rw [next, operand, if_neg taken, settled]
      rfl
    · simp [waits, longer, settle, idle, Options.put]
    · refine ⟨rfl, rfl, fun setting => ?_, rfl, by simp [longer], rfl, ?_⟩
      · simp [longer, Parameter.setting?]
      · rintro _ other waits
        cases idle.symm.trans waits

/-- What a line without the value comes to when the option with a bad one is put in. -/
theorem parse_unreadable {setting : Setting} {text : String} {fault : UsageError}
    (own : parameter.setting? = some setting)
    (unread : ∀ options, set options setting text = .error fault) {before after : List String}
    (fits : ∀ scan, before.foldlM Scan.next {} = .ok scan →
      scan.hungry? = none ∧ scan.operandsOnly = false) :
    (∃ error, Options.parse (before ++ assignment setting text :: after) = .error error) ∧
      ∀ options, Options.parse (before ++ after) = .ok options → options.get parameter = none →
        Options.parse (before ++ assignment setting text :: after) = .error fault := by
  cases read : before.foldlM Scan.next {} with
  | error error =>
      rw [parse_append, parse_append, read]
      exact ⟨⟨error, rfl⟩, fun options done => by cases done⟩
  | ok scan =>
      obtain ⟨fed, joined⟩ := fits scan read
      rw [parse_of_read read, parse_of_read read, run_cons, next_assignment joined]
      cases settled : scan.settle with
      | error error =>
          obtain ⟨other, failed⟩ := run_of_unsettled fed settled after
          have refused : scan.beginSetting setting (some text) = .error error := by
            rw [beginSetting, settled]
            rfl
          rw [refused, failed]
          exact ⟨⟨error, rfl⟩, fun options done => by cases done⟩
      | ok ready =>
          rw [run_of_settle fed settled]
          have begun : scan.beginSetting setting (some text) = ready.take setting text := by
            rw [beginSetting, settled]
            rfl
          by_cases repeated : setting ∈ ready.given
          · have refused : ready.take setting text = .error (.repeatedSetting setting) := by
              rw [take, if_pos (by simpa using repeated)]
            rw [begun, refused]
            refine ⟨⟨_, rfl⟩, fun options done missing => ?_⟩
            have grows := (Grows.arguments read).trans (Grows.settle settled)
            have counts : ready.Counts parameter := by simpa only [Counts, own] using repeated
            have had := get_of_run (holds_of_counts grows counts) done
            rw [missing] at had
            cases had
          · have refused : ready.take setting text = .error fault := by
              rw [take, if_neg (by simpa using repeated), unread]
              rfl
            rw [begun, refused]
            exact ⟨⟨fault, rfl⟩, fun _ _ _ => rfl⟩

end Scan

end Superserver
