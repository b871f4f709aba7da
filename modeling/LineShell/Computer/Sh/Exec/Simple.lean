import LineShell.Computer.Sh.Exec.Flow

/-!
# Simple commands

How the common language carries out a command by its name: a function, a command of the language or
a program.  Here are also the commands of the language that carry out others or look for them.
-/

namespace LineShell.Sh

namespace Exec

open Control

/-- Gives variables their values, in order, so that each value may use those before it.  The values
are given as well. -/
def assignAll (exec : Executor) (alter : Variable → Variable) :
    List Assignment → Task (List (Text × Text))
  | [] => return []
  | a :: rest => do
    let value ← Expansion.assigned (capture exec) a.value
    Task.alterVariable a.name (some value) alter
    return (a.name, value) :: (← assignAll exec alter rest)

/-- Does a task with assignments, which are told to other processes and are gone afterwards unless
they `stay`. -/
def withAssignments (exec : Executor) (stay : Bool) (assignments : List Assignment)
    (task : List (Text × Text) → Task Unit) : Task Unit := do
  let old := (← Task.process).bindings
  if stay then task (← assignAll exec id assignments)
  else
    let whole : Task Unit := do
      task (← assignAll exec (fun v => { v with exported := true }) assignments)
    let saved := assignments.map fun a => (a.name, old.lookup a.name)
    whole.andAfterwards (Task.modifyProcess fun p =>
      { p with bindings := restored saved p.bindings })

/-- How many functions may call each other. -/
def callLimit : Nat := 1000

/-- Calls a function. -/
def call (exec : Executor) (body : Script) (arguments : List Text) : Task Unit := do
  let p ← Task.process
  if callLimit ≤ p.calls then
    Task.fail ("Maximum function recursion depth (".toList ++ numeral callLimit ++
      ") reached".toList)
  Task.modifyProcess fun q => { q with
    arguments
    options := .first
    loops := 0
    locals := some []
    ownSwitches := none
    calls := p.calls + 1 }
  let result ← Task.ending (exec body)
  Task.modifyProcess fun q => { q with
    arguments := p.arguments
    options := p.options
    loops := p.loops
    locals := p.locals
    switches := q.ownSwitches.getD q.switches
    ownSwitches := p.ownSwitches
    calls := p.calls
    bindings := restored (q.locals.getD []) q.bindings }
  match result with
  | .error .giveBack => pure ()
  | .error flow => throw flow
  | .ok () => pure ()

/-- Tells how a name would be understood as a command. -/
def describe (verbose : Bool) (name : Text) : Task Int := do
  let p ← Task.process
  let say (brief long : Text) : Task Int := do
    Task.print 1 ((if verbose then name ++ long else brief) ++ ['\n'])
    return 0
  if Grammar.keywords.contains name then say name " is a shell keyword".toList
  else if let some value := p.aliases.lookup name then
    say ("alias ".toList ++ (Commands.aliasLine (name, value)).dropLast)
      (" is an alias for ".toList ++ value)
  else if (p.functions.lookup name).isSome then say name " is a shell function".toList
  else if Commands.isKnown name then
    let kind := if Commands.isSpecial name then " is a special shell builtin"
      else " is a shell builtin"
    say name kind.toList
  else
    match ← Executable.named name with
    | .ok (path, _) =>
      let isKept := (p.found.lookup name).isSome
      if ¬ name.contains '/' then
        Task.modifyProcess fun p => { p with found := Task.assign name path p.found }
      say path ((if isKept then " is a tracked alias for " else " is ").toList ++ path)
    | .error _ =>
      if verbose then Task.print 1 (name ++ ": not found\n".toList)
      return 127

/-- Tells how names would be understood as commands. -/
def describeAll (names : List Text) : Task Int := do
  let mut status : Int := 0
  for name in names do
    let code ← describe true name
    if code ≠ 0 then status := code
  return status

/-- Looks programs up by their names, forgets them all, or lists those that are known. -/
def hash (arguments : List Text) : Task Int := do
  let (given, names) ← Commands.optionsOf "r" "" arguments
  if !given.isEmpty then Task.modifyProcess fun p => { p with found := [] }
  else if names.isEmpty then
    for (_, path) in Commands.inBuckets 31 (← Task.process).found do
      Task.print 1 (path ++ ['\n'])
  let mut status : Int := 0
  for name in names do
    if ¬ Commands.isKnown name then
      match ← Executable.named name with
      | .ok (path, _) =>
        Task.modifyProcess fun p => { p with found := Task.assign name path p.found }
      | .error _ =>
        Task.complain (name ++ ": not found".toList)
        status := 1
  return status

/-- Carries out a text in the process itself. -/
def evaluate (exec : Executor) (arguments : List Text) : Task Unit := do
  let arguments := if arguments.head? = some ['-', '-'] then arguments.tail else arguments
  let t := [' '].intercalate arguments
  Task.setStatus 0
  if ¬ t.isEmpty then runText exec false t

/-- The path of a file of commands: one with a slash in it is taken as it is, else the file is
looked for. -/
def commandFile (path : Text) : Task Text := do
  if path.contains '/' then return path
  else
    for candidate in ← Executable.candidates path do
      let m ← get
      if let .ok node := m.files.nodeAt true m.process.directory candidate then
        if node.isFile then return candidate
    Task.fail (path ++ ": not found".toList)

/-- Carries out a file in the process itself. -/
def includeFile (exec : Executor) (arguments : List Text) : Task Unit := do
  match (← Commands.optionsOf "" "" arguments).2 with
  | [] => Task.setStatus 0
  | path :: _ =>
    let path ← commandFile path
    match ← Tool.bytesOf path with
    | .error fault =>
      let message := if fault = .missing ∨ fault = .notDirectory then "No such file".toList
        else fault.message
      Task.fail ("cannot open ".toList ++ path ++ ": ".toList ++ message)
    | .ok bytes =>
      Task.setStatus 0
      match ← Task.ending (Task.speakingAs path (runText exec false (Raw.ofBytes bytes))) with
      | .error .giveBack => pure ()
      | .error flow => throw flow
      | .ok () => pure ()

/-- Runs a program in the place of the process. -/
def replaceProcess (exec : Executor) (arguments : List Text) : Task Unit := do
  match arguments with
  | [] => Task.setStatus 0
  | command :: arguments =>
    Executable.search command fun found => do
      Task.modifyProcess fun p => { p with traps := p.traps.filter (·.2 = []), speaker := none }
      Executable.replace exec command arguments found
    if command = [] then Task.setStatus 126
    throw .leave

/-- Waits for commands in the background, for all of them if none are named.  It is told of those
that died, unless their end was noticed before. -/
def waitFor (arguments : List Text) : Task Int := do
  let (_, targets) ← Commands.optionsOf "" "" arguments
  if targets.isEmpty then
    let ids := ((← Task.process).children.filter (!·.isNoticed)).map Child.id
    let interruption ← await (ids.length + 1) ids
    markAwaited fun _ => true
    return (interruption.map Signal.exitCode).getD 0
  let mut status : Int := 0
  for target in targets do
    match ← Commands.awaited? target with
    | none => status := 127
    | some c =>
      let interruption ← if c.isNoticed then pure none else await 2 [c.id]
      match interruption with
      | some s => return Signal.exitCode s
      | none =>
        let ending := ((← get).ended.lookup c.id).getD ⟨0, none⟩
        if ¬ c.isNoticed then tellDeath c.id ending.signal
        markAwaited (·.id = c.id)
        status := ending.code
  return status

/-- The command of the language that a name stands for. -/
def builtin? (exec : Executor) (name : Text) : Option (List Text → Task Unit) :=
  let status (action : List Text → Task Int) (arguments : List Text) : Task Unit := do
    Task.setStatus (← action arguments)
  match String.ofList name with
  | "eval" => some (evaluate exec)
  | "." => some (includeFile exec)
  | "exec" => some (replaceProcess exec)
  | "type" => some (status describeAll)
  | "hash" => some (status hash)
  | "wait" => some (status waitFor)
  | known => ((Commands.special.lookup known).or (Commands.ordinary.lookup known)).map status

/-- Carries out a command of the language in its own name.  Output that nobody takes is told.  A
failure is forgiven unless it `matters`. -/
def runBuiltin (name : Text) (matters : Bool) (action : Task Unit) : Task Unit := do
  modify fun m => { m with lost := none }
  match ← Task.ending (Task.speakingAs name action) with
  | .error .failed => if matters then throw .failed
  | .error flow => throw flow
  | .ok () =>
    if (← get).lost.isSome then
      modify fun m => { m with lost := none }
      let isTold := ["echo", "printf"].contains (String.ofList name)
      if ¬ isTold then
        Task.speakingAs name (Task.complain (name ++ ": I/O error".toList))
        Task.setStatus 1

/-- Carries out a command by its name, other than a function. -/
def plainly (exec : Executor) (matters isLast : Bool) (name : Text) (arguments : List Text) :
    Task Unit := do
  match builtin? exec name with
  | some action => runBuiltin name matters (action arguments)
  | none => Executable.startAs exec isLast name arguments

/-- Carries out the command that is given as arguments, without regard for functions, or describes
it. -/
def commandItself (exec : Executor) (isLast : Bool) : List Text → Task Unit
  | [] => Task.setStatus 0
  | ['-', '-'] :: [] => Task.setStatus 0
  | ['-', '-'] :: name :: arguments => plainly exec false isLast name arguments
  | ['-', 'p'] :: rest => commandItself exec isLast rest
  | ['-', 'v'] :: name :: _ => do Task.setStatus (← describe false name)
  | ['-', 'V'] :: name :: _ => do Task.setStatus (← describe true name)
  | ['-', 'v'] :: [] => Task.setStatus 0
  | ['-', 'V'] :: [] => Task.setStatus 0
  | ('-' :: c :: _) :: _ =>
    runBuiltin "command".toList false (Task.fail ("Illegal option -".toList ++ [c]))
  | name :: arguments => plainly exec false isLast name arguments

/-- Carries out a command by its name. -/
def named (exec : Executor) (isLast : Bool) (name : Text) (arguments : List Text) :
    Task Unit := do
  let functions := (← Task.process).functions
  match if Commands.isSpecial name then none else functions.lookup name with
  | some body => call exec body arguments
  | none =>
    if name = "command".toList then commandItself exec isLast arguments
    else plainly exec (Commands.isSpecial name) isLast name arguments

/-- Shows a command before it is carried out, if a switch asks for that, where errors are shown. -/
def showCommand (exec : Executor) (descriptors : List (Nat × Nat))
    (assigned : List (Text × Text)) (words : List Text) : Task Unit := do
  let p ← Task.process
  if p.isOn 'x' then
    let mark := (← Task.value? "PS4".toList).getD []
    let shown := assigned.map (fun (name, value) => name ++ '=' :: value) ++ words
    Task.modifyProcess fun p =>
      { p with descriptors, switches := p.switches.filter (· ≠ 'x') }
    let mark ← match Grammar.expandable (← manner) mark with
      | .ok w => Expansion.text (capture exec) w
      | .error _ => pure mark
    Task.print 2 (mark ++ [' '].intercalate shown ++ ['\n'])
    Task.modifyProcess fun q => { q with descriptors := p.descriptors, switches := p.switches }

/-- The texts that the words of a command become, where the words after the first one may be
assignments, which are not split. -/
def commandWords (exec : Executor) : List Word → Task (List Text)
  | [] => return []
  | w :: ws => do
    match ← Expansion.fieldsOf (capture exec) w with
    | [] => commandWords exec ws
    | name :: rest =>
      let assigns := Commands.assigning.contains (String.ofList name) ||
        (name = "command".toList && isAssigning ws)
      let mut texts := name :: rest
      for w in ws do
        texts := texts ++ (← match if assigns then Grammar.assignment? .common w else none with
          | some a => do
            pure [a.name ++ '=' :: (← Expansion.assigned (capture exec) a.value)]
          | none => Expansion.fieldsOf (capture exec) w)
      return texts
where
  /-- The words begin with the name of a command whose arguments may be assignments. -/
  isAssigning : List Word → Bool
    | [.plain t] :: _ => Commands.assigning.contains (String.ofList t)
    | _ => false

/-- Carries out a simple command: its words are expanded first, then its redirections are made, and
then its assignments. -/
def simple (exec : Executor) (isLast : Bool) (line : Nat) (assignments : List Assignment)
    (words : List Word) (rs : List Redirection) : Task Unit := do
  Task.spend commandTime
  Task.modifyProcess fun p => { p with line, capturedStatus := 0 }
  let descriptors := (← Task.process).descriptors
  match ← commandWords exec words with
  | [] =>
    redirected exec false rs do
      let assigned ← assignAll exec id assignments
      if !assigned.isEmpty then showCommand exec descriptors assigned []
      Task.setStatus (← Task.process).capturedStatus
  | name :: arguments =>
    let isSpecial := Commands.isSpecial name
    let task : Task Unit := withAssignments exec isSpecial assignments fun assigned => do
      showCommand exec descriptors assigned (name :: arguments)
      named exec isLast name arguments
    if name = "exec".toList ∧ arguments.isEmpty then
      if ← redirectAll exec rs then task
      else
        Task.setStatus 2
        throw .failed
    else redirected exec isSpecial rs task

end Exec

end LineShell.Sh
