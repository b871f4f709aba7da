import LineShell.Computer.Sh.Commands.Extended.Printing
import LineShell.Computer.Sh.Commands.Extended.Reading
import LineShell.Computer.Sh.Commands.Extended.Settings
import LineShell.Computer.Sh.Commands.Extended.Signals
import LineShell.Computer.Sh.Commands.Extended.Testing
import LineShell.Computer.Sh.Control
import LineShell.Computer.Sh.Layout

/-!
# The commands of the extended language itself

The commands that a process of the extended language carries out without starting another one.  Each
of them gives its exit code.  Commands that carry out others are only named here.
-/

namespace LineShell.Sh.Commands.Extended

/-- Does what a command does, which merely fails where the line would be dropped. -/
def kept (failure : Int) (command : List Text → Task Int) (arguments : List Text) : Task Int := do
  match ← Task.ending (command arguments) with
  | .error .dropLine => return failure
  | .error flow => throw flow
  | .ok status => return status

/-- Ends the process. -/
def leave (arguments : List Text) : Task Int := do
  let number : Task Int := numberOr (← Task.process).status 2 arguments
  match ← Task.ending number with
  | .ok n =>
    Task.setStatus n
    throw .leave
  | .error .failed => throw .leave
  | .error flow => throw flow

/-- Leaves a function or a file of commands. -/
def giveBack (arguments : List Text) : Task Int := do
  let p ← Task.process
  let isInside := !p.extras.callers.isEmpty || (if p.extras.hasFile then 1 else 0) <
    p.extras.sources.length
  if ¬ isInside then
    Task.complain "can only \x60return' from a function or sourced script".toList
    failWith 2
  let number : Task Int := numberOr p.status 2 arguments
  match ← Task.ending number with
  | .ok n => Task.setStatus (n % 256)
  | .error .failed => pure ()
  | .error flow => throw flow
  throw .giveBack

/-- Leaves loops, or goes on with their next round. -/
def leaveLoops (flow : Nat → Flow) (arguments : List Text) : Task Int := do
  let loops := (← Task.process).loops
  if loops = 0 then
    Task.complain "only meaningful in a \x60for', \x60while', or \x60until' loop".toList
    return 0
  let number : Task Int := numberOr 1 128 arguments
  match ← Task.ending number with
  | .ok n =>
    if n ≤ 0 then
      Task.complain (arguments.headD [] ++ ": loop count out of range".toList)
      Task.setStatus 1
      throw (.leaveLoops loops)
    Task.setStatus 0
    throw (flow (min n.toNat loops))
  | .error .failed => throw .leave
  | .error flow => throw flow

/-- Computes expressions, of which the last one decides about success. -/
def compute (arguments : List Text) : Task Int := do
  let arguments := if arguments.head? = some ['-', '-'] then arguments.tail else arguments
  if arguments.isEmpty then fail "expression expected".toList
  let mut last : Int := 0
  for t in arguments do
    let (result, assignments) ← Values.evaluated t
    Values.settle assignments
    match result with
    | .ok n => last := n
    | .error f => fail f.message
  return if last = 0 then 1 else 0

/-- Tells for how long the process has run, which is no time at all. -/
def times (_ : List Text) : Task Int := do
  Task.print 1 "0m0.000s 0m0.000s\n0m0.000s 0m0.000s\n".toList
  return 0

/-- Tells from where the function that is carried out is called. -/
def caller (arguments : List Text) : Task Int := do
  let p ← Task.process
  let callers := p.extras.callers
  let file : Text := p.extras.sources.headD []
  let outer (n : Nat) : Option (Text × Text) :=
    match callers[n + 1]? with
    | some (name, _) => some (name, file)
    | none =>
      if p.extras.hasFile ∧ n + 1 = callers.length then
        some ("main".toList, p.extras.sources.getLastD [])
      else none
  match arguments with
  | [] =>
    match callers.head? with
    | none => return 1
    | some (_, line) =>
      let place := ((outer 0).map Prod.snd).getD "NULL".toList
      Task.print 1 (numeral line ++ ' ' :: place ++ ['\n'])
      return 0
  | t :: _ =>
    match wholeInteger? false t with
    | none =>
      Task.complain (t ++ ": invalid number".toList)
      mistaken
    | some n =>
      match callers[n.toNat]?, outer n.toNat with
      | some (_, line), some (name, file) =>
        Task.print 1 (numeral line ++ ' ' :: name ++ ' ' :: file ++ ['\n'])
        return 0
      | _, _ => return 1

/-- The commands whose arguments are texts. -/
def plain : List (String × (List Text → Task Int)) :=
  [(":", fun _ => return 0), ("true", fun _ => return 0), ("false", fun _ => return 1),
    ("break", leaveLoops .leaveLoops), ("continue", leaveLoops .nextRound), ("exit", leave),
    ("return", giveBack), ("set", set Layout.function), ("shopt", shopt), ("shift", shift),
    ("trap", trap), ("unset", kept 1 unset), ("times", times), ("let", compute),
    ("caller", caller), ("cd", changeDirectory), ("pwd", printDirectory),
    ("pushd", pushDirectory), ("popd", popDirectory), ("dirs", listDirectories), ("echo", echo),
    ("printf", kept 1 printf), ("test", test), ("[", bracket), ("kill", kill), ("jobs", jobs),
    ("disown", disown), ("umask", umask), ("ulimit", ulimit), ("getopts", kept 2 getOption),
    ("alias", setAliases), ("unalias", dropAliases),
    ("read", fun arguments => do kept 1 (read (← Expansion.separators)) arguments),
    ("bg", fun _ => fail "no job control".toList), ("fg", fun _ => fail "no job control".toList),
    ("suspend", fun _ => fail "cannot suspend: no job control".toList),
    ("logout", fun _ => fail "not login shell: use \x60exit'".toList),
    ("bind", fun _ => do
      Task.complain "warning: line editing not enabled".toList
      return 0),
    ("history", fun _ => return 0), ("complete", fun _ => return 0), ("fc", fun _ => return 0)]

/-- The commands whose arguments may be declarations. -/
def declaring : List (String × (List Argument → Task Int)) :=
  [("declare", declare Layout.function), ("typeset", declare Layout.function),
    ("local", declareOwn), ("export", mark 'x' "fnp"), ("readonly", mark 'r' "aAfp")]

/-- The names of the commands that carry out others, or look for them. -/
def carriers : List String :=
  [".", "builtin", "command", "enable", "eval", "exec", "hash", "mapfile", "readarray", "source",
    "type", "wait"]

/-- The names of commands that do nothing here, and are known all the same. -/
def known : List String := ["compgen", "compopt", "help"]

/-- The names of all commands, in order. -/
def names : List Text :=
  sorted ((plain.map Prod.fst ++ declaring.map Prod.fst ++ carriers ++ known).map String.toList)

/-- The names of the special ones. -/
def specialNames : List Text :=
  [".", ":", "break", "continue", "eval", "exec", "exit", "export", "readonly", "return", "set",
    "shift", "source", "times", "trap", "unset"].map String.toList

/-- What marks a command of the language that is disabled. -/
def disabled (name : Text) : Text := "-".toList ++ name

/-- The text names a command of the language, which is not disabled. -/
def isKnown (p : Process) (name : Text) : Bool :=
  names.contains name && !(p.extras.settings.contains (disabled name))

/-- Enables commands of the language or disables them, or lists them. -/
def enable (arguments : List Text) : Task Int := do
  let (given, words) ← optionsOf "adnps" "f" arguments
  let p ← Task.process
  let isOff (name : Text) : Bool := p.extras.settings.contains (disabled name)
  if words.isEmpty ∨ has given 'p' then
    for name in if has given 's' then specialNames else names do
      let shows := has given 'a' || (isOff name == has given 'n')
      if shows then
        Task.print 1 ((if isOff name then "enable -n " else "enable ").toList ++ name ++ ['\n'])
    return 0
  let mut status : Int := 0
  for name in words do
    if names.contains name then Task.modifyProcess (settled (has given 'n') (disabled name))
    else
      Task.complain (name ++ ": not a shell builtin".toList)
      status := 1
  return status

end LineShell.Sh.Commands.Extended
