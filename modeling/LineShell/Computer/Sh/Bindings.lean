import LineShell.Computer.Sh.Descriptors
import LineShell.Computer.Text.Calendar

/-!
# Complaints and variables

What a process says when something is wrong, and the variables that it has.  A complaint begins with
the name of the process and the line that it has come to.
-/

namespace LineShell.Sh.Task

/-- Writes a line about an error in the script, in the name of a command if there is one. -/
def complainAs (speaker : Option Text) (message : Text) : Task Unit := do
  let p ← process
  let speaker :=
    match speaker with
    | some command => command ++ ": ".toList
    | none => []
  let place :=
    match p.language with
    | .common => p.name ++ ": ".toList
    | .extended => p.extras.sources.headD p.name ++ ": line ".toList
  print 2 (place ++ numeral p.line ++ ": ".toList ++ speaker ++ message ++ ['\n'])

/-- Writes a line about an error in the script. -/
def complain (message : Text) : Task Unit := do
  complainAs (← process).speaker message

/-- Fails in a way that ends the process, unless the command that does so is forgiven. -/
def fail {α : Type} (message : Text) : Task α := do
  complain message
  setStatus 2
  throw .failed

/-- Does a task whose errors are told in the name of a command. -/
def speakingAs {α : Type} (speaker : Text) (task : Task α) : Task α := do
  let before := (← process).speaker
  modifyProcess fun p => { p with speaker := some speaker }
  task.andAfterwards (modifyProcess fun p => { p with speaker := before })

/-- The number that a text denotes, if a process takes numbers of that kind. -/
def number? (t : Text) : Option Nat :=
  match wholeInteger? false t with
  | some n => if 0 ≤ n ∧ n ≤ 2147483647 then some n.toNat else none
  | none => none

/-- The number that a text denotes, which it has to. -/
def numberOf (t : Text) : Task Nat := do
  match number? t with
  | some n => return n
  | none => fail ("Illegal number: ".toList ++ t)

/-- The text of a variable, if it has one. -/
def value? (name : Text) : Task (Option Text) := do
  return ((← process).bindings.lookup name).bind Variable.value

/-- The zone whose clocks a process goes by. -/
def zone : Task Calendar.Zone := do
  return match ← value? "TZ".toList with
    | some t => .ofSetting t
    | none => .universal

/-- What follows from a new value of a variable: the search for options goes on where it says, or
programs are looked for anew. -/
def follow (name value : Text) : Task Unit := do
  if name = "OPTIND".toList then
    let n ← numberOf value
    modifyProcess fun p => { p with options := ⟨max n 1, none⟩ }
  else if name = "PATH".toList then modifyProcess fun p => { p with found := [] }

/-- Alters a variable, which may be one that is not set so far.  One that is fixed keeps its value.
-/
def alterVariable (name : Text) (value : Option Text) (alter : Variable → Variable) :
    Task Unit := do
  let p ← process
  let old := (p.bindings.lookup name).getD (.ofText none false false)
  match value with
  | none =>
    modifyProcess fun p => { p with bindings := assign name (alter old) p.bindings }
  | some t =>
    if old.fixed then fail (name ++ ": is read only".toList)
    let new := { old with holding := some (.text t), exported := old.exported || p.isOn 'a' }
    modifyProcess fun p => { p with bindings := assign name (alter new) p.bindings }
    follow name t

/-- Gives a variable a value. -/
def setVariable (name value : Text) : Task Unit :=
  alterVariable name (some value) id

/-- Takes a variable away, unless it is fixed. -/
def unsetVariable (name : Text) : Task Unit := do
  if ((← process).bindings.lookup name).any Variable.fixed then
    fail (name ++ ": is read only".toList)
  modifyProcess fun p => { p with bindings := p.bindings.filter (·.1 ≠ name) }
  follow name []

end LineShell.Sh.Task
