import LineShell.Computer.Sh.Commands.Basic

/-!
# Commands in the background

A process numbers the commands that it has begun without waiting for them.  They are named by these
numbers, or as the last one and the one before it, and listed with what has become of them.
-/

namespace LineShell.Sh.Commands

/-- The command in the background that a text names, the last one if there is no text. -/
def child? (children : List Child) (name : Option Text) : Except Text Child :=
  let found (child : Option Child) (message : Text) : Except Text Child :=
    match child with
    | some c => .ok c
    | none => .error message
  let last := found children.head? "No current job".toList
  match name with
  | none => last
  | some t =>
    let unknown := "No such job: ".toList ++ t
    match t with
    | ['%'] => last
    | ['%', '+'] => last
    | ['%', '%'] => last
    | ['%', '-'] => found children.tail.head? "No previous job".toList
    | ['%', '?'] => if 1 < children.length then .error (t ++ ": ambiguous".toList)
      else found children.head? unknown
    | '%' :: digits =>
      if digits.all Char.isDigit then
        found (children.find? (·.number = digitsValue digits)) unknown
      else .error unknown
    | _ => .error unknown

/-- The command in the background that a text names, which has to. -/
def childNamed (name : Option Text) : Task Child := do
  match child? (← Task.process).children name with
  | .ok c => return c
  | .error message => Task.fail message

/-- What has become of a command in the background. -/
def condition (c : Child) (ending : Option Ending) : Text :=
  match c.isNoticed, ending with
  | true, some ⟨_, some s⟩ => Signal.death s
  | true, some ⟨0, none⟩ => "Done".toList
  | true, some ⟨code, none⟩ => "Done(".toList ++ signedNumeral code ++ [')']
  | _, _ => "Running".toList

/-- The width of the columns in front of the name of a command. -/
def conditionWidth : Nat := 33

/-- How commands in the background are shown. -/
inductive JobView where
  | plain
  /-- With the number of the process. -/
  | long
  /-- Only the number of the process. -/
  | idOnly
deriving DecidableEq, Repr

/-- Shows a command in the background.  One that has ended is forgotten then. -/
def showChild (view : JobView) (c : Child) : Task Unit := do
  let children := (← Task.process).children
  let mark :=
    if children.head? = some c then '+' else if children.tail.head? = some c then '-' else ' '
  let id := numeral c.id
  if view = .idOnly then Task.print 1 (id ++ ['\n'])
  else
    let number := '[' :: numeral c.number ++ [']', ' ', mark, ' ']
    let row := number ++ (if view = .long then id ++ [' '] else []) ++
      condition c ((← get).ended.lookup c.id)
    let row := row ++ List.replicate (max 1 (conditionWidth - row.length)) ' '
    let others := if view = .long then [] else List.replicate (c.stages - 1) " | ".toList
    Task.print 1 (row ++ others.flatten ++ ['\n'])
    if c.isNoticed then
      Task.modifyProcess fun p => { p with children := p.children.filter (· ≠ c) }

/-- Shows commands in the background, all of them if none are named. -/
def jobs (arguments : List Text) : Task Int := do
  let (given, names) ← optionsOf "lp" "" arguments
  let view : JobView :=
    match given.getLast? with
    | some ('l', _) => .long
    | some _ => .idOnly
    | none => .plain
  if names.isEmpty then
    for c in (← Task.process).children do
      showChild view c
  for name in names do
    showChild view (← childNamed (some name))
  return 0

/-- Complains that a command in the background cannot be brought to the foreground or go on. -/
def resume (arguments : List Text) : Task Int := do
  let name := (← optionsOf "" "" arguments).2.head?
  let _ ← childNamed name
  Task.fail ("job ".toList ++ name.getD "(null)".toList ++
    " not created under job control".toList)

/-- The command in the background that `wait` is to wait for, if there is one. -/
def awaited? (target : Text) : Task (Option Child) := do
  match target with
  | '%' :: _ => return some (← childNamed (some target))
  | _ =>
    let id ← Task.numberOf target
    return (← Task.process).children.find? (·.id = id)

end LineShell.Sh.Commands
