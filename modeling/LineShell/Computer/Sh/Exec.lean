import LineShell.Computer.Sh.Exec.Extended
import LineShell.Computer.Sh.Exec.Simple

/-!
# Carrying out scripts

`Script.exec` carries out one command.  Every definition before it takes the function that carries
out the commands within, so that the recursion is all in one place; it is bounded by a number of
nested steps, and a process that needs more of them dies.
-/

namespace LineShell.Sh

namespace Exec

open Control

/-- Carries out a command for each of some values of a variable. -/
def forEach (exec : Executor) (name : Text) (body : Script) : List Text → Task Unit
  | [] => pure ()
  | value :: rest => do
    let more ← round do
      Task.setVariable name value
      exec body
      return true
    if more then forEach exec name body rest

/-- The first arm with a pattern that matches. -/
def matchingArm (exec : Executor) (subject : Text) :
    List (List Word × Script × ArmEnding) → Task (Option Script)
  | [] => return none
  | (ws, body, _) :: rest => do
    for w in ws do
      if (← Expansion.pattern (capture exec) w).isMatch subject then return some body
    matchingArm exec subject rest

/-- Carries out a command, where `exec` carries out those within it. -/
def script (exec : Executor) (script : Script) : Task Unit := do
  let isLast := (← Task.process).isLast
  Task.modifyProcess fun p => { p with isLast := false }
  let isExtended := (← Task.process).language = .extended
  let last (script : Script) : Task Unit := execAs exec isLast script
  match script with
  | .simple line assignments words rs written => do
    if isExtended then Extended.simple exec isLast line assignments words rs written
    else simple exec isLast line assignments words rs
    deliverAll exec
    afterFailure exec
  | .pipeline several => do
    let codes ← pipeline exec (several.map exec)
    if isExtended then Extended.notePipeline several codes
    deliverAll exec
    afterFailure exec
  | .negated s => do
    let succeeded ← tested exec s
    Task.setStatus (if succeeded then 1 else 0)
  | .andThen first second => do
    if ← tested exec first then last second
  | .orElse first second => do
    if ¬ (← tested exec first) then last second
  | .inOrder scripts => do
    for s in scripts.dropLast do
      exec s
    match scripts.getLast? with
    | some s => last s
    | none => pure ()
  | .background s => do
    beginAside exec s
    deliverAll exec
  | .subshell body => do
    if isLast && !(← Task.process).isPrepared then
      last body
      throw .leave
    waitedFor exec id (exec body)
    if isExtended then Extended.noteStatus
    deliverAll exec
    afterFailure exec
  | .redirected line (.subshell body) rs => do
    Task.modifyProcess fun p => { p with line }
    let inside : Task Unit := do
      if ← redirectAll exec rs then exec body
      else Task.setStatus (if isExtended then 1 else 2)
    let inside := if isExtended then closingPaths inside else inside
    if isLast && !(← Task.process).isPrepared then
      inside
      throw .leave
    waitedFor exec id inside
    if isExtended then Extended.noteStatus
    deliverAll exec
    afterFailure exec
  | .redirected line body rs => do
    Task.modifyProcess fun p => { p with line }
    if isExtended then closingPaths (redirected exec false rs (exec body))
    else redirected exec false rs (exec body)
  | .choose condition consequence alternative => do
    if ← tested exec condition then last consequence else execOrSucceed last alternative
  | .loop untilTrue condition body => do
    rounds exec untilTrue condition body roundLimit 0
  | .each name words body => do
    if isExtended then Extended.each exec name words body
    else
      let values ←
        match words with
        | some ws => Expansion.fields (capture exec) ws
        | none => pure (← Task.process).arguments
      if values.isEmpty then Task.setStatus 0
      forEach exec name body values
  | .select subject arms => do
    if isExtended then Extended.select exec subject arms last
    else
      let t ← Expansion.text (capture exec) subject
      execOrSucceed last ((← matchingArm exec t arms).getD .skip)
  | .define name body => do
    Task.modifyProcess fun p => { p with functions := Task.assign name body p.functions }
    Task.setStatus 0
  | .check line condition => do
    Extended.check exec line condition
    afterFailure exec
  | .calculate line expression => do
    Extended.calculate exec line expression
    afterFailure exec
  | .count line first condition next body => Extended.count exec line first condition next body
  | .offer name words body => Extended.offer exec name words body
  | .timed isPlain body => Extended.timed exec isPlain body

end Exec

/-- Carries out a command within a number of nested steps.  A process that would need more of them
dies. -/
def Script.exec : Nat → Script → Task Unit
  | 0, _ => throw (.killed Signal.tooDeep)
  | fuel + 1, s => do
    if (← Task.process).isOn 'n' then pure () else Exec.script (Script.exec fuel) s

end LineShell.Sh
