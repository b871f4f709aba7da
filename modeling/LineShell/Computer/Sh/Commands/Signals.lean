import LineShell.Computer.Sh.Commands.Jobs

/-!
# Commands about signals

What is prepared for signals, and signals that are sent to processes.
-/

namespace LineShell.Sh.Commands

/-- The signal of a word, where `EXIT` means the end of the process. -/
def trapped? (t : Text) : Option Signal :=
  if t = "EXIT".toList then some 0 else Signal.ofText? t

/-- Lists what is prepared for signals, in their order. -/
def listTraps : Task Int := do
  let traps := (← Task.process).traps
  for s in List.range (Signal.greatest + 1) do
    match traps.lookup s with
    | some action =>
      let name := if s = 0 then "EXIT".toList else Signal.names.getD (s - 1) []
      Task.print 1 ("trap -- ".toList ++ inQuotes action ++ ' ' :: name ++ ['\n'])
    | none => pure ()
  return 0

/-- Prepares for signals, or no longer. -/
def trap (arguments : List Text) : Task Int := do
  let (_, arguments) ← optionsOf "" "" arguments
  if arguments.isEmpty then return ← listTraps
  let (action, signals) : Option Text × List Text :=
    match arguments with
    | [] => (none, [])
    | [signal] => (none, [signal])
    | ['-'] :: signals => (none, signals)
    | first :: signals =>
      if first.all Char.isDigit ∧ first ≠ [] then (none, first :: signals)
      else (some first, signals)
  for name in signals do
    match trapped? name with
    | some s =>
      Task.modifyProcess fun p => { p with
        traps := action.toList.map (s, ·) ++ p.traps.filter (·.1 ≠ s) }
    | none =>
      Task.print 2 ("trap: ".toList ++ name ++ ": bad trap\n".toList)
      return 1
  return 0

/-- How a command that sends signals is called. -/
def killUsage : Text :=
  ("Usage: kill [-s sigspec | -signum | -sigspec] [pid | job]... or\n" ++
    "kill -l [exitstatus]").toList

/-- What a command about signals is asked for. -/
inductive KillRequest where
  | list (targets : List Text)
  | send (s : Signal) (targets : List Text)

/-- The request that arguments make. -/
def killRequest (arguments : List Text) : Except Text KillRequest :=
  match arguments with
  | ('-' :: name) :: targets =>
    match Signal.ofText? name with
    | some s => .ok (.send s targets)
    | none => do
      let (given, targets) ← options ['l'] ['s'] none arguments
      match given.getLast? with
      | some ('s', name) =>
        match Signal.ofText? name with
        | some s => return .send s targets
        | none => throw ("invalid signal number or name: ".toList ++ name)
      | some _ => return .list targets
      | none => return .send Signal.terminate targets
  | targets => .ok (.send Signal.terminate targets)

/-- Sends a signal to a process, which may be one that has ended and that nobody has waited for, and
tells whether there is such a process. -/
def send (target : Nat) (s : Signal) : Task Bool := do
  let m ← get
  if target = m.process.id ∨ m.others.any (·.id = target) then
    if s ≠ 0 then modify fun m => { m with signals := m.signals ++ [(target, s)] }
    return true
  else return m.process.children.any fun c => c.id = target && !c.isNoticed

/-- Sends a signal to processes.  A command in the background is no group of processes, so that it
cannot be reached by its number. -/
def sendAll (s : Signal) (targets : List Text) : Task Int := do
  let mut status : Int := 0
  for target in targets do
    let isKnown ←
      match target with
      | '%' :: _ => do
        let _ ← childNamed (some target)
        pure false
      | '-' :: digits => do send (← Task.numberOf digits) s
      | digits => do send (← Task.numberOf digits) s
    if ¬ isKnown then
      Task.complain "No such process\n".toList
      status := 1
  return status

/-- Sends a signal to processes, or lists the signals. -/
def kill (arguments : List Text) : Task Int := do
  match killRequest arguments with
  | .error message => Task.fail message
  | .ok (.send _ []) => Task.fail killUsage
  | .ok (.send s targets) => sendAll s targets
  | .ok (.list []) =>
    for name in ['0'] :: Signal.names do
      Task.print 1 (name ++ ['\n'])
    return 0
  | .ok (.list (t :: _)) =>
    let n ← Task.numberOf t
    let s := if 128 < n then n - 128 else n
    match if s = 0 then none else Signal.names[s - 1]? with
    | some name => do Task.print 1 (name ++ ['\n']); return 0
    | none => Task.fail ("invalid signal number or exit status: ".toList ++ t)

end LineShell.Sh.Commands
