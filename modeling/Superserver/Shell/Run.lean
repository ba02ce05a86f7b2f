import Superserver.Shell.Start

/-!
Running commands. A script is read and run line by line. What an error ends depends on where it
happens: in a special command, in a redirection of one and in putting in values it ends the shell,
in other commands of the shell only these. Every function gets fuel, of which a script that ends
needs no more than its loops take turns.
-/

namespace Superserver.Shell

inductive Turn where
  | complete
  | next
  | leave
deriving DecidableEq

def turn (action : Run Unit) : Run Turn :=
  try
    action
    return .complete
  catch
    | .breaking loops => if loops ≤ 1 then return .leave else throw (.breaking (loops - 1))
    | .continuing loops => if loops ≤ 1 then return .next else throw (.continuing (loops - 1))
    | stop => throw stop

def andThen (action last : Run Unit) : Run Unit := do
  let result : Except Stop Unit ←
    try
      action
      pure (.ok ())
    catch stop => pure (.error stop)
  last
  match result with
  | .ok () => return
  | .error stop => throw stop

def inLoop (action : Run Unit) : Run Unit := do
  modify fun shell => { shell with loops := shell.loops + 1 }
  andThen action (modify fun shell => { shell with loops := shell.loops - 1 })

def keepingStreams (action : Run Unit) : Run Unit := do
  let streams := (← get).streams
  andThen action (modify fun shell => { shell with streams })

def restore (slots : List (String × Option Variable)) : Run Unit := do
  for (name, slot) in slots do
    match slot with
    | some slot => putSlot name slot
    | none => dropSlot name

def asFunction (arguments : List Octets) (body : Run Unit) : Run Unit := do
  let outer ← get
  set { outer with positional := arguments, locals := [] :: outer.locals, loops := 0 }
  let whole : Run Unit :=
    try body
    catch
      | .returning => return
      | stop => throw stop
  andThen whole do
    restore ((← get).locals.headD [])
    modify fun shell =>
      { shell with positional := outer.positional, locals := outer.locals, loops := outer.loops }

/-- Runs a command of the shell under its name. An error in one that is not special ends only the
command. -/
def asBuiltin (name : String) (special : Bool) (action : Run Unit) : Run Unit := do
  let outer := (← get).running
  modify fun shell => { shell with running := some name }
  let whole : Run Unit :=
    try action
    catch
      | .error => if special then throw .error
      | stop => throw stop
  andThen whole (modify fun shell => { shell with running := outer })

def trace (assignments : List (String × Octets)) (words : List Octets) : Run Unit := do
  let shell ← get
  if shell.isSet 'x' then
    let given := assignments.map fun (name, value) => name.toList ++ '=' :: value
    let lead := (shell.lookup? "PS4").getD []
    let _ ← write 2 (lead ++ [' '].intercalate (given ++ words) ++ ['\n'])

def openFault (mode : FileMode) (path : Octets) (number : Nat) : Octets :=
  let missing := number = Errno.noEntry || number = Errno.notDirectory
  let verb := if mode = .read then "open" else "create"
  let reason :=
    if !missing then Errno.description number
    else if mode = .read then "No such file" else "Directory nonexistent"
  Octets.ofString s!"cannot {verb} " ++ path ++ Octets.ofString (": " ++ reason)

def redirect (substitute : Command → Run Octets) (fuel : Nat) : List Redirection → Run Bool
  | [] => return true
  | redirection :: rest => do
      let failed (text : Octets) : Run Bool := do
        complain text
        setStatus 2
        return false
      match redirection with
      | .file stream mode word =>
          let path ← plainText substitute fuel word
          match ← openFile path mode with
          | .ok opened =>
              setStream stream (some opened)
              redirect substitute fuel rest
          | .error number => failed (openFault mode path number)
      | .copy stream word =>
          match ← plainText substitute fuel word with
          | ['-'] =>
              setStream stream none
              redirect substitute fuel rest
          | [digit] =>
              if !Text.isDigit digit then failWith "Syntax error: Bad fd number"
              match (← get).stream? (Text.digitValue digit) with
              | some other =>
                  setStream stream (some other)
                  redirect substitute fuel rest
              | none => failed (digit :: Octets.ofString ": Bad file descriptor")
          | _ => failWith "Syntax error: Bad fd number"
      | .document stream number =>
          let text ← plainText substitute fuel (((← get).documents.lookup number).getD [])
          let shell ← get
          let (pipe, world) := shell.world.newPipe text
          set { shell with world }
          setStream stream (some (.pipe pipe))
          redirect substitute fuel rest

def argumentsOf (substitute : Command → Run Octets) (fuel : Nat) :
    (name : Option Octets) → List Word → Run (List Octets)
  | _, [] => return []
  | name, word :: rest => do
      let own ← match (name.map declares).getD false, Parse.assignment? word with
        | true, some (given, value) => do
            let value ← plainText substitute fuel value true
            pure [given.toList ++ '=' :: value]
        | _, _ => fields substitute fuel word
      return own ++ (← argumentsOf substitute fuel (name.or own.head?) rest)

def branchFor (substitute : Command → Run Octets) (fuel : Nat) (subject : Octets) :
    List (List Word × Command) → Run (Option Command)
  | [] => return none
  | (patterns, body) :: rest => do
      let fits ← patterns.anyM fun pattern => do
        return Pattern.covers (Pattern.ofMarked (← markedText substitute fuel pattern)) subject
      if fits then return some body
      branchFor substitute fuel subject rest

def scriptText (path : Octets) : Run (Except Octets Octets) := do
  let shell ← get
  match shell.world.tree.read shell.directory (Octets.toBytes path) with
  | .ok content => return .ok (Octets.ofBytes content)
  | .error number => return .error (openFault .read path number)

def nextLine (source : Source) : Run (Option Command × Source) := do
  let shell ← get
  match source.line? with
  | .ok (command, source) =>
      set { shell with documents := source.documents ++ shell.documents }
      return (command, { source with documents := [] })
  | .error error =>
      set { shell with line := error.line }
      failWith error.message

def sourceOf (text : Octets) : Run Source := do
  return { Source.ofOctets text with nextDocument := (← get).documents.length }

mutual

def evaluate : (fuel : Nat) → (tested : Bool) → Command → Run Unit
  | 0, _, _ => throw .exit
  | fuel + 1, tested, command => do
      if (← get).isSet 'n' then return
      let decisive ← perform fuel tested command
      answerSignals fuel (← takeSignals)
      let shell ← get
      if decisive && !tested && shell.status != 0 && shell.isSet 'e' then throw .exit
termination_by structural fuel => fuel

def answerSignals : (fuel : Nat) → List Nat → Run Unit
  | 0, _ | _, [] => return
  | fuel + 1, number :: rest => do
      let shell ← get
      match if Signal.isSovereign number then none else shell.traps.lookup number with
      | some action =>
          runText fuel false action
          setStatus shell.status
      | none => if !Signal.isHarmless number then throw (.signal number)
      answerSignals fuel rest
termination_by structural fuel => fuel

/-- Runs a command of any kind; the result tells whether its failure may end the shell. -/
def perform : (fuel : Nat) → (tested : Bool) → Command → Run Bool
  | 0, _, _ => throw .exit
  | fuel + 1, tested, command => do
      match command with
      | .nothing =>
          setStatus 0
          return false
      | .simple line assignments words redirections =>
          modify fun shell => { shell with line }
          simple fuel tested assignments words redirections
          return true
      | .pipeline commands =>
          catchUp fuel (some 0)
          note (← stages fuel none commands)
          return true
      | .negated command =>
          evaluate fuel true command
          setStatus (if (← get).status = 0 then 1 else 0)
          return false
      | .both first second =>
          evaluate fuel true first
          if (← get).status = 0 then evaluate fuel tested second
          return false
      | .either first second =>
          evaluate fuel true first
          if (← get).status != 0 then evaluate fuel tested second
          return false
      | .sequence first second =>
          evaluate fuel tested first
          evaluate fuel tested second
          return false
      | .background command =>
          modify fun shell =>
            let pid := shell.world.nextPid
            { shell with
              world := { shell.world with nextPid := pid + 1 }
              jobs := { pid, task := some (shell.task command) } :: shell.jobs
              status := 0 }
          return true
      | .redirected line command redirections =>
          modify fun shell => { shell with line }
          keepingStreams do
            if ← redirect (substituted fuel) fuel redirections then evaluate fuel tested command
          return false
      | .subshell line command redirections =>
          modify fun shell => { shell with line }
          catchUp fuel (some 0)
          note (← asProcess do
            splitOff
            if ← redirect (substituted fuel) fuel redirections then
              conclude fuel command tested)
          return true
      | .choice condition chosen other =>
          evaluate fuel true condition
          evaluate fuel tested (if (← get).status = 0 then chosen else other)
          return false
      | .loop untilTrue condition body =>
          inLoop (loop fuel tested untilTrue condition body 0)
          return false
      | .forEach line name words body =>
          modify fun shell => { shell with line }
          let values ← match words with
            | none => pure (← get).positional
            | some words => argumentsOf (substituted fuel) fuel none words
          setStatus 0
          inLoop (forEach fuel tested name body values)
          return false
      | .cases line subject branches =>
          modify fun shell => { shell with line }
          let text ← plainText (substituted fuel) fuel subject
          match ← branchFor (substituted fuel) fuel text branches with
          | some body => evaluate fuel tested body
          | none => setStatus 0
          return false
      | .function name body =>
          modify fun shell =>
            let others := shell.functions.filter fun entry => entry.1 != name
            { shell with functions := (name, body) :: others, status := 0 }
          return false
termination_by structural fuel => fuel

def catchUp : (fuel : Nat) → (time : Option Nat) → Run Unit
  | 0, _ => throw .exit
  | fuel + 1, time => do
      for (pid, task) in (← get).dueTasks time do
        let ending ← asProcess do
          splitOff
          modify fun shell => shell.withTask task
          setStream 0 (some .nowhere)
          conclude fuel task.command false
        changeJob pid fun job => { job with task := none, ending }
      passTime (time.getD 0)
termination_by structural fuel => fuel

def stages : (fuel : Nat) → (input : Option Stream) → List Command → Run Ending
  | 0, _, _ => throw .exit
  | _, _, [] => return .exited 0
  | fuel + 1, input, command :: rest => do
      let shell ← get
      let (number, world) := shell.world.newPipe []
      set { shell with world }
      let ending ← asProcess do
        splitOff
        if let some stream := input then setStream 0 (some stream)
        if !rest.isEmpty then setStream 1 (some (.pipe number))
        conclude fuel command false
      if rest.isEmpty then return ending
      if let .killed _ := ending then note ending
      stages fuel (some (.pipe number)) rest
termination_by structural fuel => fuel

def conclude : (fuel : Nat) → Command → (tested : Bool) → Run Unit
  | 0, _, _ => throw .exit
  | fuel + 1, command, tested => do
      let whole : Run Unit := do
        try evaluate fuel tested command
        catch
          | .signal number => throw (.signal number)
          | _ => pure ()
        atEnd fuel
      andThen whole (leaveJobs fuel)
termination_by structural fuel => fuel

def leaveJobs : (fuel : Nat) → Run Unit
  | 0 => throw .exit
  | fuel + 1 => do
      let status := (← get).status
      catchUp fuel none
      setStatus status
termination_by structural fuel => fuel

def atEnd : (fuel : Nat) → Run Unit
  | 0 => throw .exit
  | fuel + 1 => do
      let shell ← get
      if let some action := shell.traps.lookup 0 then
        set { shell with traps := shell.traps.filter fun entry => entry.1 != 0 }
        try
          runText fuel false action
          setStatus shell.status
        catch
          | .signal number => throw (.signal number)
          | .exit | .error => pure ()
          | _ => setStatus shell.status
termination_by structural fuel => fuel

def substituted : (fuel : Nat) → Command → Run Octets
  | 0, _ => throw .exit
  | fuel + 1, command => do
      catchUp fuel (some 0)
      let shell ← get
      let (number, world) := shell.world.newPipe []
      set { shell with world }
      let ending ← asProcess do
        splitOff
        setStream 1 (some (.pipe number))
        conclude fuel command false
      let status := shell.status
      note ending
      modify fun shell => { shell with outputStatus := ending.status, status }
      return ((← get).world.pipes.lookup number).getD []
termination_by structural fuel => fuel

def loop : (fuel : Nat) → (tested : Bool) → (untilTrue : Bool) → (condition body : Command) →
    (status : Nat) → Run Unit
  | 0, _, _, _, _, _ => throw .exit
  | fuel + 1, tested, untilTrue, condition, body, status => do
      match ← turn (evaluate fuel true condition) with
      | .leave => return
      | .next => loop fuel tested untilTrue condition body status
      | .complete =>
          if ((← get).status = 0) = untilTrue then setStatus status
          else match ← turn (evaluate fuel tested body) with
            | .leave => return
            | _ => loop fuel tested untilTrue condition body (← get).status
termination_by structural fuel => fuel

def forEach : (fuel : Nat) → (tested : Bool) → (name : String) → (body : Command) →
    (values : List Octets) → Run Unit
  | 0, _, _, _, _ => throw .exit
  | _, _, _, _, [] => return
  | fuel + 1, tested, name, body, value :: rest => do
      assign name value
      match ← turn (evaluate fuel tested body) with
      | .leave => return
      | _ => forEach fuel tested name body rest
termination_by structural fuel => fuel

def simple : (fuel : Nat) → (tested : Bool) → (assignments : List (String × Word)) →
    (words : List Word) → (redirections : List Redirection) → Run Unit
  | 0, _, _, _, _ => throw .exit
  | fuel + 1, tested, assignments, words, redirections => do
      modify fun shell => { shell with outputStatus := 0 }
      let arguments ← argumentsOf (substituted fuel) fuel none words
      let name := arguments.head?.map String.ofList
      let special := (name.map specialBuiltins.contains).getD false
      let streams := (← get).streams
      let act : Run Unit := do
        if ← redirect (substituted fuel) fuel redirections then
          let shell ← get
          let kept := assignments.map fun (name, _) => (name, shell.slots.lookup name)
          let given : Run Unit := do
            let values ← assignments.mapM fun (name, word) => do
              let value ← plainText (substituted fuel) fuel word true
              assign name value
              if !arguments.isEmpty && !special then
                putSlot name { (← get).slot name with exported := true }
              return (name, value)
            let inner := (← get).streams
            modify fun shell => { shell with streams }
            trace values arguments
            modify fun shell => { shell with streams := inner }
            match arguments with
            | [] => setStatus (← get).outputStatus
            | name :: arguments => call fuel tested name arguments
          andThen given (restore (if name.isNone || special then [] else kept.reverse))
        else if special then throw .error
      andThen act do
        if name != some "exec" then modify fun shell => { shell with streams }
termination_by structural fuel => fuel

def call : (fuel : Nat) → (tested : Bool) → (name : Octets) → (arguments : List Octets) → Run Unit
  | 0, _, _, _ => throw .exit
  | fuel + 1, tested, name, arguments => do
      match (← get).kindOf name with
      | .builtin => builtin fuel tested (String.ofList name) arguments
      | .function body => asFunction arguments (evaluate fuel tested body)
      | .program path => launch fuel name path arguments
      | .missing reason =>
          complain (name ++ Octets.ofString (": " ++ reason.reason))
          setStatus reason.status
      | .reserved => return
termination_by structural fuel => fuel

def builtin : (fuel : Nat) → (tested : Bool) → (name : String) → (arguments : List Octets) →
    Run Unit
  | 0, _, _, _ => throw .exit
  | fuel + 1, tested, name, arguments => do
      let previous := (← get).status
      asBuiltin name (specialBuiltins.contains name) do
        match name, arguments with
        | "eval", arguments =>
            runText fuel tested ([' '].intercalate arguments)
        | ".", [] => setStatus 0
        | ".", path :: _ => source fuel path
        | "exec", [] => setStatus 0
        | "exec", name :: arguments => replace fuel name arguments
        | "command", arguments => command fuel tested arguments
        | "wait", targets =>
            catchUp fuel none
            setStatus 0
            wait targets
        | "type", arguments =>
            setStatus 0
            for argument in arguments do describe true argument
        | name, arguments =>
            setStatus 0
            match builtin? name with
            | some action => action previous arguments
            | none => return
termination_by structural fuel => fuel

def source : (fuel : Nat) → (path : Octets) → Run Unit
  | 0, _ => throw .exit
  | fuel + 1, path => do
      if !path.contains '/' then fail (path ++ Octets.ofString ": not found")
      match ← scriptText path with
      | .error fault => fail fault
      | .ok text =>
          try runText fuel false text
          catch
            | .returning => return
            | stop => throw stop
termination_by structural fuel => fuel

def replace : (fuel : Nat) → (name : Octets) → (arguments : List Octets) → Run Unit
  | 0, _, _ => throw .exit
  | fuel + 1, name, arguments => do
      match (← get).program name with
      | .error reason =>
          complain (name ++ Octets.ofString (": " ++ reason.reason))
          setStatus reason.status
          throw .exit
      | .ok path =>
          let ending ← asProcess do
            passEnvironment
            execute fuel name path arguments
          modify fun shell => { shell with traps := [], status := ending.status }
          match ending with
          | .exited _ => throw .exit
          | .killed number => throw (.signal number)
termination_by structural fuel => fuel

def command : (fuel : Nat) → (tested : Bool) → (arguments : List Octets) → Run Unit
  | 0, _, _ => throw .exit
  | fuel + 1, tested, arguments => do
      let previous := (← get).status
      let (options, arguments) ← optionsOf "pvV" arguments
      setStatus 0
      let letters := options.map (·.1)
      match arguments with
      | [] => return
      | name :: arguments =>
          if letters.contains 'v' || letters.contains 'V' then
            describe (letters.contains 'V') name
          else
            modify fun shell => { shell with running := none, status := previous }
            let functions := (← get).functions
            modify fun shell =>
              { shell with
                functions := functions.filter fun entry => entry.1.toList != name }
            let shell ← get
            match shell.kindOf name with
            | .builtin =>
                set { shell with functions }
                builtin fuel tested (String.ofList name) arguments
            | kind =>
                set { shell with functions }
                match kind with
                | .program path => launch fuel name path arguments
                | .missing reason =>
                    complain (name ++ Octets.ofString (": " ++ reason.reason))
                    setStatus reason.status
                | _ => return
termination_by structural fuel => fuel

def launch : (fuel : Nat) → (name path : Octets) → (arguments : List Octets) → Run Unit
  | 0, _, _, _ => throw .exit
  | fuel + 1, name, path, arguments => do
      catchUp fuel (some (sleepTime (name :: arguments)))
      note (← asProcess do
        passEnvironment
        execute fuel name path arguments)
termination_by structural fuel => fuel

def execute : (fuel : Nat) → (name path : Octets) → (arguments : List Octets) → Run Unit
  | 0, _, _, _ => throw .exit
  | fuel + 1, name, path, arguments => do
      splitOff
      setStatus 0
      let program := String.ofList (path.reverse.takeWhile (· != '/')).reverse
      if shellNames.contains program then innerShell fuel name arguments
      else if let some utility := utility? program then
        Utility.guarded program name (utility name arguments)
termination_by structural fuel => fuel

def innerShell : (fuel : Nat) → (name : Octets) → (arguments : List Octets) → Run Unit
  | 0, _, _ => throw .exit
  | fuel + 1, name, arguments => do
      modify fun outer =>
        let fresh : Shell :=
          { world := { outer.world with nextPid := outer.world.nextPid + 1 }
            pid := outer.world.nextPid
            parent := outer.pid
            name
            line := 0
            directory := outer.directory
            streams := outer.streams
            traps := outer.traps
            mask := outer.mask
            descriptorLimit := outer.descriptorLimit }
        fresh.started outer.environment
      let invoked ← invocation (arguments.length + 1) {} arguments
      let text ← match invoked.isText, invoked.isInput, invoked.arguments with
        | true, _, [] => failWith "-c requires an argument"
        | true, _, text :: rest => do
            modify fun shell =>
              { shell with name := rest.headD name, positional := rest.tail }
            pure text
        | false, false, path :: rest => do
            match ← scriptText path with
            | .error fault => fail fault
            | .ok text =>
                modify fun shell => { shell with name := path, positional := rest }
                pure text
        | false, _, rest => do
            modify fun shell => { shell with positional := rest }
            readAll 0
      whole fuel text
termination_by structural fuel => fuel

def whole : (fuel : Nat) → (text : Octets) → Run Unit
  | 0, _ => throw .exit
  | fuel + 1, text => do
      let whole : Run Unit := do
        try runText fuel false text
        catch
          | .signal number => throw (.signal number)
          | _ => pure ()
        atEnd fuel
      andThen whole (leaveJobs fuel)
termination_by structural fuel => fuel

def runText : (fuel : Nat) → (tested : Bool) → (text : Octets) → Run Unit
  | 0, _, _ => throw .exit
  | fuel + 1, tested, text => do
      runLines fuel tested false (← sourceOf text)
termination_by structural fuel => fuel

def runLines : (fuel : Nat) → (tested : Bool) → (ran : Bool) → Source → Run Unit
  | 0, _, _, _ => throw .exit
  | fuel + 1, tested, ran, source => do
      match ← nextLine source with
      | (none, _) => if !ran then setStatus 0
      | (some .nothing, source) => runLines fuel tested ran source
      | (some command, source) =>
          evaluate fuel tested command
          runLines fuel tested true source
termination_by structural fuel => fuel

end

/-- What bounds the commands that a shell runs one within or after another. -/
def patience : Nat := 10000000

def run (shell : Shell) (text : String) : Ending × Shell :=
  let (result, shell) := shell.after (whole patience (Octets.ofString text))
  let ending := match result with
    | .ok () => .exited shell.status
    | .error stop => .ofStop stop shell.status
  (ending, shell)

end Superserver.Shell
