import LineShell.Computer.Sh.Commands
import LineShell.Computer.Sh.Tool.Waiting

/-!
# Tools that run others

Tools that run another program in their place, or in a process of its own that they watch.
-/

namespace LineShell.Sh.Tool

/-- How a tool runs other programs, by their names. -/
structure Launcher where
  /-- Runs a program in the place of the tool. -/
  becomes : Text → List Text → Task (Except FileFault Unit)
  /-- Runs a program in a process of its own, which starts as told, and gives its number. -/
  begins : (Process → Process) → Text → List Text → Task (Except FileFault Nat)

/-- The exit code of a tool that cannot run another one. -/
def notRun (fault : FileFault) : Int :=
  if fault = .missing then 127 else 126

/-- Runs a program in the place of the tool, or complains that it cannot be run. -/
def Launcher.become (l : Launcher) (message : Text) (command : Text) (arguments : List Text) :
    Task Int := do
  match ← l.becomes command arguments with
  | .ok () => return (← Task.process).status
  | .error fault =>
    complain (message ++ Quoting.word command ++ ": ".toList ++ fault.message)
    return notRun fault

/-- Runs a program in a process of its own and waits for it. -/
def Launcher.await (l : Launcher) (command : Text) (arguments : List Text) :
    Task (Except FileFault Ending) := do
  match ← l.begins id command arguments with
  | .error fault => return .error fault
  | .ok id => return .ok (← Control.collectOne [id]).2

/-- A process with some connections, which keeps no others than those of the standard descriptors. -/
def withConnections (connections : List (Nat × Nat)) (p : Process) : Process :=
  let kept := p.descriptors.filter fun (d, _) => d < 3 && (connections.lookup d).isNone
  { p with descriptors := connections ++ kept }

/-- Begins a command of the shell, which is called by a name and starts with some connections, and
gives its number. -/
def Launcher.beginShell (l : Launcher) (shell : String) (connections : List (Nat × Nat))
    (command : Text) : Task Nat := do
  let started ← l.begins (withConnections connections) shell.toList ["-c".toList, command]
  return started.toOption.getD 0

/-- Runs a command of the shell and waits for it. -/
def Launcher.awaitShell (l : Launcher) (command : Text) : Task Ending := do
  return (← Control.collectOne [← l.beginShell "sh" [] command]).2

/-- Begins a command of the shell, which is called by a name, and gives its number and a descriptor
from which its output is read. -/
def Launcher.beginSource (l : Launcher) (shell : String) (command : Text) : Task (Nat × Nat) := do
  let (out, into) ← Task.makePipe
  let id ← l.beginShell shell [(1, into)] command
  let descriptor ← Task.freeDescriptor
  Task.connect descriptor out
  return (id, descriptor)

/-- Begins a command of the shell, which is called by a name, and gives its number and a descriptor
to which its input is written. -/
def Launcher.beginSink (l : Launcher) (shell : String) (command : Text) : Task (Nat × Nat) := do
  let (out, into) ← Task.makePipe
  let id ← l.beginShell shell [(0, out)] command
  let descriptor ← Task.freeDescriptor
  Task.connect descriptor into
  return (id, descriptor)

/-- What a command of the shell writes. -/
def Launcher.output (l : Launcher) (command : Text) : Task (List UInt8) := do
  let (id, descriptor) ← l.beginSource "sh" command
  let bytes ← Task.takeAll descriptor
  Task.disconnect descriptor
  let _ ← Control.collectOne [id]
  return bytes.toOption.getD []

/-- The assignments in front of a command, and the rest. -/
def leadingAssignments : List Text → List (Text × Text) × List Text
  | [] => ([], [])
  | t :: ts =>
    match Commands.assignmentIn t with
    | (name, some value) =>
      let (more, rest) := leadingAssignments ts
      ((name, value) :: more, rest)
    | (_, none) => ([], t :: ts)

/-- How the tool that runs another one among other variables takes options. -/
def envUsage : Usage where
  forms := OptionForm.flags [('i', "ignore-environment"), ('0', "null"), ('v', "debug")] ++
    OptionForm.valuedFlags [('u', "unset"), ('C', "chdir"), ('S', "split-string")]
  mixing := .strict
  failure := 125

/-- Writes the variables that other processes know. -/
def showBindings (ending : Char) : Task Unit := do
  for (name, v) in (← Task.process).bindings do
    if let some value := v.value then print (name ++ '=' :: value ++ [ending])

/-- Words of a text, between blanks and with quotes. -/
def wordsOf (t : Text) : List Text :=
  go t.length none [] t
where
  /-- Reads on, within a quotation or not, with the word so far, last character first. -/
  go : (fuel : Nat) → (quote : Option Char) → (word : Text) → Text → List Text
    | 0, _, word, _ => if word.isEmpty then [] else [word.reverse]
    | _, _, word, [] => if word.isEmpty then [] else [word.reverse]
    | fuel + 1, some q, word, c :: t =>
      if c = q then go fuel none word t else go fuel (some q) (c :: word) t
    | fuel + 1, none, word, c :: t =>
      if c = '\'' ∨ c = '"' then go fuel (some c) word t
      else if c = ' ' ∨ c = '\t' then
        (if word.isEmpty then [] else [word.reverse]) ++ go fuel none [] t
      else go fuel none (c :: word) t

/-- Runs a program among other variables, or shows them. -/
def env (l : Launcher) (arguments : List Text) : Task Int := do
  let run (given : Given) (operands : List Text) : Task Int := do
    let operands := ((given.values "S").flatMap wordsOf) ++ operands
    let isBare := operands.head? = some ['-']
    let (assignments, rest) := leadingAssignments (operands.drop (if isBare then 1 else 0))
    let unset := given.values "u"
    if let some name := unset.find? fun n => n.isEmpty || n.contains '=' then
      complain ("cannot unset ".toList ++ Quoting.word name ++ ": Invalid argument".toList)
      return 125
    let isEmptied := isBare || given.has "i"
    Task.modifyProcess fun p =>
      let kept := p.bindings.filter fun (name, v) =>
        v.exported && !(isEmptied || unset.contains name)
      { p with bindings := assignments.foldl (fun bindings (name, value) =>
        Task.assign name (.told value) bindings) kept }
    if let some path := given.value? "C" then
      if rest.isEmpty then
        return ← refuse "must specify command with --chdir (-C)".toList 125
      let m ← get
      match m.files.find true m.process.directory path with
      | .error fault =>
        complainOf "cannot change directory to" path fault
        return 125
      | .ok id => Task.modifyProcess fun p => { p with directory := id }
    match rest with
    | [] =>
      showBindings (if given.has "0" then '\x00' else '\n')
      return 0
    | command :: arguments =>
      if given.has "0" then
        return ← refuse "cannot specify --null (-0) with command".toList 125
      l.become [] command arguments
  envUsage.call run arguments

/-- Sends a signal to a process and to all that it has begun. -/
def signalAll (id : Nat) (signal : Signal) : Task Unit :=
  modify fun m =>
    let reached := m.others.filter fun p => p.id = id || p.ancestors.contains id
    { m with signals := m.signals ++ reached.map (·.id, signal) }

/-- How the tool that limits the time of another one takes options. -/
def timeoutUsage : Usage where
  forms := OptionForm.flags [('v', "verbose")] ++ OptionForm.names ["foreground", "preserve-status"]
    ++ OptionForm.valuedFlags [('k', "kill-after"), ('s', "signal")]
  mixing := .strict
  failure := 125

/-- The signal of a name, with or without its beginning. -/
def signalNamed? (t : Text) : Option Signal :=
  let bare := if "SIG".toList.isPrefixOf t then t.drop 3 else t
  Signal.ofText? bare

/-- Waits for a process to end, but not longer than an interval, and tells if it has. -/
def endsWithin (id : Nat) (interval : Interval) : Task Bool := do
  Task.wait ⟨.ending [id], interval.deadline? (← Task.process).time, false⟩
  return ((← get).ended.lookup id).isSome

/-- Runs a program that is sent a signal if it takes longer than an interval. -/
def timeout (l : Launcher) (arguments : List Text) : Task Int := do
  let run (given : Given) (operands : List Text) : Task Int := do
    let signal := signalNamed? ((given.value? "s").getD "TERM".toList)
    match signal, operands with
    | none, _ =>
      refuse (Quoting.word ((given.value? "s").getD []) ++ ": invalid signal".toList) 125
    | _, [] => refuse "missing operand".toList 125
    | _, [_] => refuse "missing operand".toList 125
    | some signal, interval :: command :: arguments =>
      match Interval.ofText? interval, (given.value? "k").map Interval.ofText? with
      | none, _ => refuse (refuseInterval interval) 125
      | _, some none => refuse (refuseInterval ((given.value? "k").getD [])) 125
      | some interval, later =>
        match ← l.begins id command arguments with
        | .error fault =>
          complain ("failed to run command ".toList ++ Quoting.word command ++ ": ".toList ++
            fault.message)
          return notRun fault
        | .ok id =>
          let interval := if interval = .microseconds 0 then .endless else interval
          if ← endsWithin id interval then return (← Control.collectOne [id]).2.code
          if given.has "v" then
            complain ("sending signal ".toList ++ Signal.names.getD (signal - 1) [] ++
              " to command ".toList ++ Quoting.word command)
          signalAll id signal
          let mut killed := signal == Signal.kill
          if let some (some interval) := later then
            if ¬ (← endsWithin id interval) then
              if given.has "v" then
                complain ("sending signal KILL to command ".toList ++ Quoting.word command)
              signalAll id Signal.kill
              killed := true
          let ending := (← Control.collectOne [id]).2
          if killed then return 137
          return if given.has "preserve-status" then ending.code else 124
  timeoutUsage.call run arguments

/-- Runs a program that others take precedence over, which nothing shows. -/
def nice (l : Launcher) (arguments : List Text) : Task Int := do
  let arguments := match arguments with
    | ('-' :: c :: cs) :: rest =>
      if c.isDigit ∨ (c = '-' ∧ cs.head?.any Char.isDigit) then rest else arguments
    | _ => arguments
  let run (given : Given) : List Text → Task Int
    | [] => do
      if given.has "n" then
        return ← refuse "a command must be given with an adjustment".toList 125
      printLine ['0']
      return 0
    | command :: arguments => do
      match given.value? "n" with
      | none => l.become [] command arguments
      | some t =>
        if (wholeInteger? false t).isNone then
          complain ("invalid adjustment ".toList ++ Quoting.word t)
          return 125
        l.become [] command arguments
  Usage.call ⟨OptionForm.valuedFlags [('n', "adjustment")], .strict, 125⟩ run arguments

/-- Runs a program that goes on when nobody watches it any more. -/
def nohup (l : Launcher) (arguments : List Text) : Task Int := do
  let run (_ : Given) : List Text → Task Int
    | [] => refuse "missing operand".toList 125
    | command :: arguments => do
      Task.modifyProcess fun p => { p with traps := (1, []) :: p.traps.filter (·.1 ≠ 1) }
      l.become "failed to run command ".toList command arguments
  Usage.call ⟨[], .strict, 125⟩ run arguments

/-- Runs a program whose input and output are buffered in another way, which nothing shows. -/
def stdbuf (l : Launcher) (arguments : List Text) : Task Int := do
  let run (given : Given) : List Text → Task Int
    | [] => refuse "missing operand".toList 125
    | command :: arguments => do
      if given.isEmpty then
        return ← refuse "you must specify a buffering mode option".toList 125
      l.become "failed to run command ".toList command arguments
  Usage.call ⟨OptionForm.valuedFlags [('i', "input"), ('o', "output"), ('e', "error")], .strict,
    125⟩ run arguments

end LineShell.Sh.Tool
