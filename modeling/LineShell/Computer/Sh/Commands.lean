import LineShell.Computer.Sh.Commands.Basic
import LineShell.Computer.Sh.Commands.Settings
import LineShell.Computer.Sh.Commands.Signals
import LineShell.Computer.Sh.Condition
import LineShell.Computer.Sh.Control
import LineShell.Computer.Sh.Format

/-!
# The commands of the language itself

Commands that a process carries out without starting another one: those that alter the process, and
those that are only there because they are used so often.  Each of them gives its exit code.  A
failure of a special command ends the process, and so does an assignment in front of it outlast it.
-/

namespace LineShell.Sh.Commands

/-- Ends the process. -/
def leave (arguments : List Text) : Task Int := do
  Task.setStatus (← numberOr (← Task.process).status arguments)
  throw .leave

/-- Leaves a function or a file of commands. -/
def giveBack (arguments : List Text) : Task Int := do
  Task.setStatus (← numberOr (← Task.process).status arguments)
  throw .giveBack

/-- Leaves loops, or goes on with their next round. -/
def leaveLoops (flow : Nat → Flow) (arguments : List Text) : Task Int := do
  let n ← numberOr 1 arguments
  if n = 0 then Task.fail ("Illegal number: ".toList ++ arguments.headD [])
  let loops := (← Task.process).loops
  if loops = 0 then return 0
  Task.setStatus 0
  throw (flow (min n.toNat loops))

/-- Writes arguments. -/
def echo (arguments : List Text) : Task Int := do
  if ← Task.write 1 (Raw.bytes (echoed arguments)) then return 0
  else
    Task.complain "echo: I/O error".toList
    return 1

/-- Writes a format.  What is wrong is told before anything is written. -/
def printf (arguments : List Text) : Task Int := do
  match (← optionsOf "" "" arguments).2 with
  | [] => Task.fail "usage: printf format [arg ...]".toList
  | format :: arguments =>
    let (t, faults, fault) := formatted format arguments
    for message in faults do
      Task.complain message
    match fault with
    | some message => Task.complain message
    | none => pure ()
    let taken ← Task.write 1 (Raw.bytes t)
    if fault.isSome then
      Task.setStatus 2
      throw .failed
    if ¬ taken then Task.complain "printf: I/O error".toList
    return if faults.isEmpty && taken then 0 else 1

/-- What a channel is connected to, as a node.  The streams of a machine are pipes. -/
def channelNode? (tree : FileTree) : Channel → Option Node
  | .file id .. => tree.node? id
  | .device d => some ⟨.device d, 0o666, 0⟩
  | _ => some ⟨.pipe, 0o600, 0⟩

/-- Where a process checks conditions. -/
def setting : Task Condition.Setting := do
  let m ← get
  return {
    files := m.files
    directory := m.process.directory
    descriptor? := fun n =>
      ((m.process.descriptors.lookup n).bind (m.channels[·]?)).bind (channelNode? m.files) }

/-- Checks a condition. -/
def test (arguments : List Text) : Task Int := do
  match Condition.holds (← setting) arguments with
  | .ok holds => return if holds then 0 else 1
  | .error message => Task.fail message

/-- Checks a condition that a bracket ends. -/
def bracket (arguments : List Text) : Task Int := do
  if arguments.getLast? = some [']'] then test arguments.dropLast
  else Task.fail "missing ]".toList

/-- Tells for how long the process has run, which is no time at all. -/
def times (_ : List Text) : Task Int := do
  Task.print 1 "0m0.000000s 0m0.000000s\n0m0.000000s 0m0.000000s\n".toList
  return 0

/-- Reads a line into variables, split as words are. -/
def readLine (arguments : List Text) : Task Int := do
  read (← Expansion.separators) arguments

/-- Commands that are carried out with the variables of the process itself. -/
def special : List (String × (List Text → Task Int)) :=
  [(":", fun _ => return 0), ("break", leaveLoops .leaveLoops),
    ("continue", leaveLoops .nextRound), ("exit", leave), ("return", giveBack), ("set", set),
    ("shift", shift), ("trap", trap), ("unset", unset), ("times", times),
    ("export", exportVariables), ("readonly", fixVariables), ("local", declareLocal)]

/-- The other commands. -/
def ordinary : List (String × (List Text → Task Int)) :=
  [("cd", withLetters "LP" changeDirectory), ("chdir", withLetters "LP" changeDirectory),
    ("echo", echo), ("printf", printf), ("test", test), ("[", bracket),
    ("true", fun _ => return 0), ("false", fun _ => return 1), ("kill", kill),
    ("read", readLine), ("umask", withLetters "S" umask),
    ("pwd", withLetters "LP" printDirectory), ("getopts", getOption), ("alias", setAliases),
    ("unalias", dropAliases), ("ulimit", ulimit), ("jobs", jobs),
    ("bg", resume), ("fg", resume)]

/-- The names of the commands that run others or look for them. -/
def running : List String := [".", "eval", "exec", "command", "type", "hash", "wait"]

/-- The names of those of them that are special. -/
def carriers : List String := ["eval", ".", "exec"]

/-- The names of the commands whose arguments may be assignments. -/
def assigning : List String := ["export", "readonly", "local", "alias"]

/-- The text names a command of the language itself. -/
def isKnown (name : Text) : Bool :=
  let name := String.ofList name
  (special.lookup name).isSome || (ordinary.lookup name).isSome || running.contains name

/-- The text names a special command. -/
def isSpecial (name : Text) : Bool :=
  let name := String.ofList name
  (special.lookup name).isSome || carriers.contains name

end LineShell.Sh.Commands
