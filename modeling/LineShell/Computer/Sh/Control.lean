import LineShell.Computer.Sh.Expansion

/-!
# The control of processes

Scripts that are read and carried out line by line, signals that arrive, processes that start and
end, output that is captured, and redirections.  All of it runs scripts, so each definition takes
the function `exec` that carries out one command.
-/

namespace LineShell.Sh

/-- What carries out one command. -/
abbrev Executor := Script → Task Unit

namespace Control

/-- Carries out a command that may be the last thing that the process does. -/
def execAs (exec : Executor) (isLast : Bool) (script : Script) : Task Unit := do
  Task.modifyProcess fun p => { p with isLast }
  exec script

/-- The manner in which the process reads scripts. -/
def manner : Task Manner := do
  let p ← Task.process
  let isOn (name : String) : Bool := p.extras.settings.contains name.toList
  match p.language with
  | .common => return ⟨.common, p.aliases, false⟩
  | .extended =>
    return ⟨.extended, if isOn "expand_aliases" then p.aliases else [], isOn "extglob"⟩

/-- Tells a fault of a text in the extended language, with the line on which it is. -/
def tellFault (whole : Text) (start : Nat) (f : LocatedFault) : Task Unit := do
  let p ← Task.process
  let label : Text :=
    match p.speaker with
    | some speaker => speaker ++ ": ".toList
    | none => if p.extras.isTold && p.extras.sources.isEmpty then "-c: ".toList else []
  let place := p.extras.sources.headD p.name ++ ": ".toList ++ label ++ "line ".toList ++
    numeral f.line ++ ": ".toList
  let (messages, isShown) := f.fault.extendedMessages
  for message in messages do
    Task.print 2 (place ++ message ++ ['\n'])
  if isShown then
    let line := ((pieces '\n' whole)[f.line - start]?).getD []
    Task.print 2 (place ++ '\x60' :: line ++ "'\n".toList)

/-- Carries out a line of a text.  Its errors are told in nobody's name in the extended language, where
it may be dropped. -/
def runLine (exec : Executor) (isLast : Bool) (script : Script) : Task Unit := do
  let p ← Task.process
  match p.language with
  | .common => execAs exec isLast script
  | .extended =>
    Task.modifyProcess fun p => { p with speaker := none }
    match ← Task.ending (execAs exec isLast script) with
    | .error .dropLine => pure ()
    | .error flow => throw flow
    | .ok () => pure ()
    Task.modifyProcess fun q => { q with speaker := p.speaker }

/-- What is left to read, which the process reads itself if it is `shared`, so that what is carried
out may have taken some of it. -/
def afterLine (isShared : Bool) (run : Task Unit) (r : Reading) : Task Reading := do
  if ¬ isShared then
    run
    return r
  Task.putBack 0 (Raw.bytes r.text)
  run
  let bytes ← Task.takeAll 0
  return .ofText r.manner r.line (Raw.ofBytes (bytes.toOption.getD []))

/-- Carries out the lines of what is left of a text, at most as many as given.  Each line is read
with the aliases that there are before it.  The fault of a line ends the process.  If so told, the
process does nothing after the last line. -/
def runLines (exec : Executor) (isLast isShared : Bool) (whole : Text) (start : Nat) :
    Nat → Reading → Task Unit
  | 0, _ => pure ()
  | fuel + 1, r => do
    let r := { r with manner := ← manner }
    match Grammar.nextLine? r with
    | .ok none => pure ()
    | .ok (some (script, r)) => do
      for (line, message) in r.warnings.reverse do
        Task.modifyProcess fun p => { p with line }
        Task.complainAs none message
      let r ← afterLine isShared (runLine exec (isLast && r.text.isEmpty) script) r
      runLines exec isLast isShared whole start fuel { r with warnings := [] }
    | .error f =>
      match r.manner.language with
      | .common =>
        Task.modifyProcess fun p => { p with line := f.line }
        Task.fail ("Syntax error: ".toList ++ f.fault.message)
      | .extended =>
        tellFault whole start f
        Task.setStatus 2
        throw .failed

/-- Carries out a text that begins on a line.  If so told, the process does nothing after it.  In the
extended language the last line always ends. -/
def runTextFrom (exec : Executor) (isLast : Bool) (line : Nat) (t : Text) : Task Unit := do
  let manner ← manner
  let isOpen := manner.language = .extended && t.getLast?.any (· ≠ '\n')
  let t := if isOpen then t ++ ['\n'] else t
  runLines exec isLast false t line (t.length + 1) (.ofText manner line t)

/-- Carries out what the process reads, of which the commands may take some. -/
def runInput (exec : Executor) : Task Unit := do
  let bytes ← Task.takeAll 0
  let t := Raw.ofBytes (bytes.toOption.getD [])
  runLines exec false true t 1 (t.length + 1) (.ofText (← manner) 1 t)

/-- Carries out a text.  If so told, the process does nothing after it. -/
def runText (exec : Executor) (isLast : Bool) (t : Text) : Task Unit :=
  runTextFrom exec isLast 1 t

/-- Lets the signals for the process arrive, at most as many as given. -/
def deliver (exec : Executor) : Nat → Task Unit
  | 0 => pure ()
  | n + 1 => do
    let m ← get
    match m.signals.find? (·.1 = m.process.id) with
    | none => pure ()
    | some signal =>
      set { m with signals := m.signals.erase signal }
      match if signal.2 = Signal.kill then none else m.process.traps.lookup signal.2 with
      | some script =>
        runText exec false script
        Task.setStatus m.process.status
      | none => if ¬ Signal.isHarmless signal.2 then throw (.killed signal.2)
      deliver exec n

/-- Lets all signals for the process arrive. -/
def deliverAll (exec : Executor) : Task Unit := do
  deliver exec (← get).signals.length

/-- Brings a process to its end, with the script that is prepared for it.  The result tells of a
signal that it died by. -/
def finish (exec : Executor) (task : Task Unit) : Task (Option Signal) := do
  match ← Task.ending task with
  | .error (.killed s) => return some s
  | _ =>
    let p ← Task.process
    match p.traps.lookup 0 with
    | none => return none
    | some script =>
      Task.modifyProcess fun p => { p with traps := p.traps.filter (·.1 ≠ 0) }
      match ← Task.ending (runText exec false script) with
      | .error (.killed s) => return some s
      | .error .leave => return none
      | .error .failed => return none
      | _ => Task.setStatus p.status; return none

/-- The exit code of a process that has ended. -/
def exitCode (p : Process) (died : Option Signal) : Int :=
  match died with
  | some s => Signal.exitCode s
  | none => p.status % 256

/-- Does a task as the whole of what a process does, and leaves behind how it has ended. -/
def live (exec : Executor) (task : Task Unit) : Task Unit := do
  let died ← finish exec task
  let p ← Task.process
  modify fun m => { m with ended := (p.id, ⟨exitCode p died, died⟩) :: m.ended }

/-- What is prepared for under a number is passed on to other processes of the same script, because a
switch says so. -/
def passesOn (p : Process) (s : Signal) : Bool :=
  (s = Signal.failure && p.isOn 'E') ||
    ((s = Signal.step || s = Signal.comeback) && p.isOn 'T')

/-- Begins a process of its own for a task, which starts as `start` says, and gives its number. -/
def begin (exec : Executor) (start : Process → Process) (task : Task Unit) : Task Nat :=
  Task.fork
    (fun p => start { p with
      loops := 0
      traps := p.traps.filter fun trap => (trap.1 ≠ 0 ∧ trap.2 = []) ∨ passesOn p trap.1 })
    (live exec task)

/-- How much time passes until a process knows that another one has ended, in microseconds. -/
def noticeTime : Nat := 40

/-- Waits for the first of some processes to end, and gives it with its ending, which nobody else
gets to know. -/
def collectOne (ids : List Nat) : Task (Nat × Ending) := do
  if ¬ (← get).isThere (.ending ids) then Task.await (.ending ids)
  match (← get).ended.reverse.find? fun entry => ids.contains entry.1 with
  | none => return (ids.headD 0, ⟨0, none⟩)
  | some (id, ending) =>
    modify fun m => { m with ended := m.ended.filter (·.1 ≠ id) }
    Task.spend noticeTime
    return (id, ending)

/-- The least number that a new command may have beside others, and those that keep theirs.  A
command that has been waited for loses its number. -/
def freeNumber (children : List Child) : Nat × List Child :=
  let isTaken (n : Nat) : Bool :=
    children.any fun c => c.number = n && !(c.isNoticed && c.isWaitedFor)
  let n := ((List.range children.length).takeWhile fun n => isTaken (n + 1)).length + 1
  (n, children.filter (·.number ≠ n))

/-- Tells of a process that died. -/
def tellDeath (id : Nat) (died : Option Signal) : Task Unit := do
  match died.bind Signal.obituary?, (← Task.process).language with
  | some obituary, .common => Task.print 2 (obituary ++ ['\n'])
  | some obituary, .extended =>
    let p ← Task.process
    let number := numeral id
    Task.complainAs none (List.replicate (5 - number.length) ' ' ++ number ++ ' ' :: obituary ++
      List.replicate (24 - obituary.length) ' ' ++ p.extras.current)
  | none, _ => pure ()

/-- Notices which of the commands that were not waited for have ended. -/
def noticeEndings : Task Unit :=
  modify fun m =>
    let notice (c : Child) : Child :=
      { c with isNoticed := c.isNoticed || (m.ended.lookup c.id).isSome }
    { m with process := { m.process with children := m.process.children.map notice } }

/-- Waits for processes, as many as given, and tells of those that died.  The exit code is that of
the last one of them; those of all are given with their numbers. -/
def collectAll (last : Nat) : (count : Nat) → List Nat → Task (List (Nat × Int))
  | 0, _ => do
    noticeEndings
    return []
  | count + 1, ids => do
    let (id, ending) ← collectOne ids
    tellDeath id ending.signal
    if id = last then Task.setStatus ending.code
    return (id, ending.code) :: (← collectAll last count (ids.filter (· ≠ id)))

/-- Makes room for the numbers of commands that are waited for. -/
def freeNumbers : Task Unit :=
  Task.modifyProcess fun p => { p with children := (freeNumber p.children).2 }

/-- Does a task in a process that is waited for, and tells if it died. -/
def waitedFor (exec : Executor) (start : Process → Process) (task : Task Unit) : Task Unit := do
  freeNumbers
  let id ← begin exec start task
  let _ ← collectAll id 1 [id]

/-- The descriptor at which a process holds the end of a pipe for itself. -/
def ownDescriptor : Nat := 1000

/-- A process with a descriptor connected to a channel, and without the one that another process
holds for itself. -/
def connected (connections : List (Nat × Nat)) (p : Process) : Process :=
  let replaced := ownDescriptor :: connections.map Prod.fst
  { p with descriptors := connections ++ p.descriptors.filter (!replaced.contains ·.1) }

/-- A process whose output is captured: in the extended language texts are nested one deeper there, and
a failure does not end it unless a setting says so. -/
def within (p : Process) : Process :=
  match p.language with
  | .common => p
  | .extended =>
    let inherits := p.extras.settings.contains "inherit_errexit".toList
    { p with
      switches := if inherits then p.switches else p.switches.filter (· ≠ 'e')
      extras := { p.extras with depth := p.extras.depth + 1 } }

/-- The bytes that a task in a process of its own writes to the standard output. -/
def outputOf (exec : Executor) (task : Task Unit) : Task (List UInt8) := do
  freeNumbers
  let (out, into) ← Task.makePipe
  let id ← begin exec (fun p => within (connected [(1, into)] p)) task
  Task.connect ownDescriptor out
  let bytes ← Task.takeAll ownDescriptor
  Task.disconnect ownDescriptor
  let _ ← collectAll id 1 [id]
  return bytes.toOption.getD []

/-- The output of a script, without the newlines at its end. -/
def captured (exec : Executor) (script : Script) : Task Text := do
  let status := (← Task.process).status
  let task :=
    match script with
    | .inOrder [] => Task.setStatus 0
    | script => exec script
  let bytes ← outputOf exec task
  Task.modifyProcess fun p => { p with status, capturedStatus := p.status }
  let t := (Raw.ofBytes bytes).filter (· ≠ '\x00')
  return (t.reverse.dropWhile (· = '\n')).reverse

/-- The descriptors at which a process holds the connections that it has as files, last one first. -/
def pathDescriptors : List Nat := [63, 62, 61, 60, 59, 58, 57, 56]

/-- The path of a file that a script beside the process writes, or reads if it is `taken`. -/
def connectionPath (exec : Executor) (script : Script) (taken : Bool) : Task Text := do
  let (out, into) ← Task.makePipe
  let held := (← Task.process).descriptors
  let descriptor := (pathDescriptors.find? fun n => (held.lookup n).isNone).getD 56
  let isOther (n : Nat) : Bool := !pathDescriptors.contains n
  let start (p : Process) : Process :=
    let p := { p with descriptors := p.descriptors.filter (isOther ·.1) }
    connected (if taken then [(0, out)] else [(1, into)]) p
  let _ ← begin exec start (exec script)
  Task.connect descriptor (if taken then into else out)
  return "/dev/fd/".toList ++ numeral descriptor

/-- Does a task after which the connections that it has made as files are closed. -/
def closingPaths {α : Type} (task : Task α) : Task α := do
  let before := ((← Task.process).descriptors.map Prod.fst).filter pathDescriptors.contains
  task.andAfterwards (Task.modifyProcess fun p =>
    { p with descriptors := p.descriptors.filter fun entry =>
        !(pathDescriptors.contains entry.1) || before.contains entry.1 })

/-- What carries out the scripts within words. -/
def capture (exec : Executor) : Expansion.Capture where
  output := captured exec
  path := connectionPath exec

/-- Begins the stages of a pipeline, each of which reads what the one before it writes, and gives
their numbers, last one first. -/
def beginStages (exec : Executor) (input : Option Nat) (ids : List Nat) :
    List (Task Unit) → Task (List Nat)
  | [] => return ids
  | task :: rest => do
    let stdin := input.toList.map (0, ·)
    if rest.isEmpty then
      return (← begin exec (connected stdin) task) :: ids
    else
      let (out, into) ← Task.makePipe
      Task.connect ownDescriptor out
      let id ← begin exec (connected (stdin ++ [(1, into)])) task
      beginStages exec (some out) (id :: ids) rest

/-- Carries out the stages of a pipeline and waits for all of them, whose exit codes are given in
their order. -/
def pipeline (exec : Executor) (tasks : List (Task Unit)) : Task (List Int) := do
  freeNumbers
  let ids ← beginStages exec none [] tasks
  Task.disconnect ownDescriptor
  let codes ← collectAll (ids.headD 0) ids.length ids
  return ids.reverse.map fun id => (codes.lookup id).getD 0

/-- Opens a file to be read. -/
def openInput (path : Text) : Task (Except Text Channel) := do
  match ← Task.openPath .input path with
  | .ok channel => return .ok channel
  | .error fault =>
    if (← Task.process).language = .extended then
      return .error (path ++ ": ".toList ++ fault.message)
    let message :=
      if fault = .missing ∨ fault = .notDirectory then "No such file".toList else fault.message
    return .error ("cannot open ".toList ++ path ++ ": ".toList ++ message)

/-- Opens a file to be written. -/
def openOutput (access : Task.Access) (path : Text) : Task (Except Text Channel) := do
  match ← Task.openPath access path with
  | .ok channel => return .ok channel
  | .error fault =>
    if (← Task.process).language = .extended then
      let message := if fault = .taken then "cannot overwrite existing file".toList
        else fault.message
      return .error (path ++ ": ".toList ++ message)
    let message :=
      if fault = .missing ∨ fault = .notDirectory then "Directory nonexistent".toList
      else fault.message
    return .error ("cannot create ".toList ++ path ++ ": ".toList ++ message)

/-- The text that the target of a redirection becomes.  In the extended language it is expanded like
any word, and has to become one text. -/
def targetOf (exec : Executor) (r : Redirection) : Task (Except Text Text) := do
  if (← Task.process).language = .common ∨ r.connection = .here then
    return .ok (← Expansion.text (capture exec) r.target)
  match ← Expansion.fieldsOf (capture exec) r.target with
  | [t] => return .ok t
  | _ => return .error (Token.bareText r.target ++ ": ambiguous redirect".toList)

/-- Connects a descriptor to what another one is connected to, in the extended language. -/
def duplicate (descriptor : Nat) (target : Text) : Task (Except Text Unit) := do
  let isMoved := target.getLast? = some '-'
  let digits := if isMoved then target.dropLast else target
  if target = ['-'] then
    Task.disconnect descriptor
    return .ok ()
  else if digits.all Char.isDigit then
    match (← Task.process).descriptors.lookup (digitsValue digits) with
    | some channel =>
      Task.connect descriptor channel
      if isMoved then Task.disconnect (digitsValue digits)
      return .ok ()
    | none => return .error (digits ++ ": Bad file descriptor".toList)
  else return .error (target ++ ": ambiguous redirect".toList)

/-- Carries out a redirection.  The result tells why that is not possible. -/
def redirect (exec : Executor) (r : Redirection) : Task (Except Text Unit) := do
  let target ← match ← targetOf exec r with
    | .ok target => pure target
    | .error message => return .error message
  let connectTo (opened : Except Text Channel) : Task (Except Text Unit) := do
    match opened with
    | .ok channel =>
      Task.attach r.descriptor channel
      return .ok ()
    | .error message => return .error message
  match r.connection with
  | .input => connectTo (← openInput target)
  | .output =>
    let keeps := (← Task.process).isOn 'C'
    connectTo (← openOutput { Task.Access.output with keeps } target)
  | .outputAnyway => connectTo (← openOutput .output target)
  | .append => connectTo (← openOutput .append target)
  | .both => connectTo (← openOutput { reads := true, writes := true, makes := true } target)
  | .here =>
    let pipe ← Task.addPipe (.ofBytes (Raw.bytes target))
    connectTo (.ok (.reader pipe))
  | .duplicate =>
    if (← Task.process).language = .extended then return ← duplicate r.descriptor target
    match target with
    | ['-'] =>
      Task.disconnect r.descriptor
      return .ok ()
    | [c] =>
      if ¬ c.isDigit then Task.fail "Syntax error: Bad fd number".toList
      match (← Task.process).descriptors.lookup (digitsValue [c]) with
      | some channel =>
        Task.connect r.descriptor channel
        return .ok ()
      | none => return .error (target ++ ": Bad file descriptor".toList)
    | _ => Task.fail "Syntax error: Bad fd number".toList

/-- Carries out redirections in order, up to one that fails, which is told. -/
def redirectAll (exec : Executor) : List Redirection → Task Bool
  | [] => return true
  | r :: rs => do
    match ← redirect exec r with
    | .ok () => redirectAll exec rs
    | .error message =>
      Task.complain message
      return false

/-- Descriptors after some of them are again connected to what they were connected to. -/
def reconnected (restored : List Nat) (old new : List (Nat × Nat)) : List (Nat × Nat) :=
  old.filter (restored.contains ·.1) ++ new.filter (!restored.contains ·.1)

/-- Does a task under redirections, which are gone afterwards.  If they fail, the task is not done
and the exit code is 2, and if they `matter` that ends the process. -/
def redirected (exec : Executor) (matter : Bool) (rs : List Redirection) (task : Task Unit) :
    Task Unit := do
  let p ← Task.process
  let old := p.descriptors
  let restored := rs.map RedirectionTo.descriptor
  let setAside := (old.filter (restored.contains ·.1)).map Prod.snd ++ p.setAside
  Task.modifyProcess fun q => { q with setAside }
  let whole : Task Unit := do
    if ← redirectAll exec rs then task
    else if (← Task.process).language = .extended then Task.setStatus 1
    else
      Task.setStatus 2
      if matter then throw .failed
  whole.andAfterwards (Task.modifyProcess fun q =>
    { q with descriptors := reconnected restored old q.descriptors, setAside := p.setAside })

end Control

end LineShell.Sh
