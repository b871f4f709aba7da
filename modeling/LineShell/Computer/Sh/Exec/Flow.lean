import LineShell.Computer.Sh.Executable
import LineShell.Computer.Sh.Layout

/-!
# The order of commands

Loops and their rounds, commands whose failure is looked at, commands that are not waited for, and
what is prepared for their failures.  Every definition takes the function that carries out the
commands within.
-/

namespace LineShell.Sh

namespace Exec

open Control

/-- Variables after some of them are again what they were. -/
def restored (old : List (Text × Option Variable)) (bindings : List (Text × Variable)) :
    List (Text × Variable) :=
  old.foldl (fun bindings (name, before) =>
    match before with
    | some v => Task.assign name v bindings
    | none => bindings.filter (·.1 ≠ name)) bindings

/-- How much time passes with a command, in microseconds. -/
def commandTime : Nat := 5

/-- Carries out a command whose failure is looked at, so that it does not end the process. -/
def tested (exec : Executor) (script : Script) : Task Bool := do
  let before := (← Task.process).tolerant
  Task.modifyProcess fun p => { p with tolerant := true }
  (exec script).andAfterwards (Task.modifyProcess fun p => { p with tolerant := before })
  return (← Task.process).status = 0

/-- Carries out one round of a loop, and tells whether another one may follow. -/
def round (task : Task Bool) : Task Bool := do
  Task.modifyProcess fun p => { p with loops := p.loops + 1 }
  let result ← Task.ending task
  Task.modifyProcess fun p => { p with loops := p.loops - 1 }
  match result with
  | .ok more => return more
  | .error (.leaveLoops n) => if n ≤ 1 then return false else throw (.leaveLoops (n - 1))
  | .error (.nextRound n) => if n ≤ 1 then return true else throw (.nextRound (n - 1))
  | .error flow => throw flow

/-- How many rounds a loop may have. -/
def roundLimit : Nat := 1000000

/-- Carries out a loop, whose exit code is that of its last round. -/
def rounds (exec : Executor) (untilTrue : Bool) (condition body : Script) :
    Nat → Int → Task Unit
  | 0, _ => throw (.killed Signal.kill)
  | fuel + 1, status => do
    let more ← round do
      if (← tested exec condition) != untilTrue then
        exec body
        return true
      else
        Task.setStatus status
        return false
    if more then rounds exec untilTrue condition body fuel (← Task.process).status

/-- Carries out a command, and succeeds if there is none. -/
def execOrSucceed (exec : Executor) (script : Script) : Task Unit :=
  match script with
  | .inOrder [] => Task.setStatus 0
  | script => exec script

/-- Begins a command that is not waited for.  It has nothing to read unless it asks for it. -/
def beginAside (exec : Executor) (script : Script) : Task Unit := do
  let (number, children) := freeNumber (← Task.process).children
  let nothing ← Task.addChannel (.device .sink)
  let several : List Script :=
    match script with
    | .pipeline several => several
    | script => [script]
  let ids ← beginStages exec (some nothing) [] (several.map exec)
  Task.disconnect ownDescriptor
  let id := ids.headD 0
  let shown := match (← Task.process).language with
    | .common => []
    | .extended => Layout.command script
  let child : Child :=
    { number, id, stages := several.length, isNoticed := false, isWaitedFor := false, shown }
  Task.modifyProcess fun p =>
    { p with background := some id, children := child :: children, status := 0 }

/-- Waits until some processes have ended, or until a signal arrives that the process has prepared
for, which is given. -/
def await : (fuel : Nat) → List Nat → Task (Option Signal)
  | 0, _ => return none
  | fuel + 1, ids => do
    let m ← get
    let isPrepared (signal : Nat × Signal) : Bool :=
      signal.1 = m.process.id && (m.process.traps.lookup signal.2).any (!·.isEmpty)
    match m.signals.find? isPrepared, ids.filter fun id => (m.ended.lookup id).isNone with
    | some signal, _ => return some signal.2
    | none, [] => return none
    | none, left =>
      Task.wait ⟨.ending left, none, true⟩
      await fuel left

/-- Marks commands in the background that have been waited for. -/
def markAwaited (isAwaited : Child → Bool) : Task Unit := do
  noticeEndings
  Task.modifyProcess fun p => { p with children := p.children.map fun c =>
    { c with isWaitedFor := c.isWaitedFor || (c.isNoticed && isAwaited c) } }

/-- Carries out what is prepared for something other than a signal, which happens just now.  It does
not happen again meanwhile, and the exit code stays. -/
def runTrap (exec : Executor) (s : Signal) : Task Unit := do
  let p ← Task.process
  match p.traps.lookup s with
  | none => pure ()
  | some t =>
    if !t.isEmpty then
      Task.modifyProcess fun p =>
        { p with
          traps := p.traps.filter (·.1 ≠ s)
          extras := { p.extras with isInTrap := true } }
      (runTextFrom exec false p.line t).andAfterwards (Task.modifyProcess fun q =>
        { q with
          status := p.status
          line := p.line
          extras := { q.extras with isInTrap := p.extras.isInTrap }
          traps := if (q.traps.lookup s).isSome then q.traps else (s, t) :: q.traps })

/-- What happens after a command that may have failed: in the extended language something may be
prepared for that, and the process ends if it is asked to. -/
def afterFailure (exec : Executor) : Task Unit := do
  let p ← Task.process
  if p.status ≠ 0 ∧ ¬ p.tolerant then
    if p.language = .extended then runTrap exec Signal.failure
    if p.isOn 'e' then throw .leave

end Exec

end LineShell.Sh
