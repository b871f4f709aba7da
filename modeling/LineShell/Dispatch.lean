import LineShell.Builtin

/-!
# Carrying out a command

`dispatch` carries out one command: the shell does its own commands itself, recalls run an earlier
line in place of the command, and everything else goes to the system shell as it was read.

A recalled line may be a recall again.  `dispatchWithin` counts the recalls that are still allowed,
which bounds the nesting whatever the history holds.
-/

namespace LineShell

variable {σ ι : Type}

/-- Hands a line to the system shell.  Its exit code is the result, whatever it is. -/
def delegate (host : Host σ) (line : Text) : Action σ ι Fault ExitCode := do
  match ← Action.hand host line with
  | .ok code =>
    Action.note (.delegateEnded code)
    return code
  | .error e =>
    Action.note (.delegateFailed e)
    Action.fail .notRun

/-- The number that a recall asks for. -/
def wanted (index : Text) : Action σ ι Fault Int :=
  match leadingInt? index with
  | some n => pure n
  | none => Action.fail .badIndex

/-- Finds the line of a number, at a given depth of recalls, and shows it on a line of its own. -/
def recalled (depth : Nat) (n : Int) : Action σ ι Fault Text := do
  match (← Action.session).history.get? n with
  | none => Action.fail (.noSuchLine n)
  | some line =>
    Action.note (.recalling n depth (trimEnd line))
    Action.print .out (Line.dropNewlines line ++ ['\n'])
    Action.drain
    return line

/-- Carries out a command that the shell knows, with the log record that announces it. -/
def builtin (command : Command) (action : Action σ ι Fault ExitCode) :
    Action σ ι Fault ExitCode := do
  Action.note (.builtinBegins command.base)
  action

/-- Carries out a command, where `onRecall` says what becomes of a recall. -/
def perform (host : Host σ) (onRecall : Text → Action σ ι Fault ExitCode) (command : Command) :
    Action σ ι Fault ExitCode :=
  match command.verb with
  | .nothing => Action.fail .nameless
  | .leave => builtin command Builtin.leave
  | .switch => builtin command (Builtin.switch command.firstArgument)
  | .size => builtin command (Builtin.size host command.firstArgument)
  | .recall index => onRecall index
  | .history => builtin command Builtin.history
  | .time => builtin command (Builtin.time host (Command.joined command.arguments))
  | .times => builtin command (Builtin.times host)
  | .again => builtin command (Builtin.again host command.arguments)
  | .delegate => delegate host command.raw

/-- Carries out a command where `left` of `limit` nested recalls are still allowed.  A recall
without a number is found out first, then one that is nested too deep, then one whose line does not
exist. -/
def dispatchWithin (host : Host σ) (limit : Nat) :
    (left : Nat) → Command → Action σ ι Fault ExitCode
  | 0 => perform host fun index => do
    let _ ← wanted index
    Action.fail (.tooDeep limit)
  | left + 1 => perform host fun index => do
    let line ← recalled (limit - (left + 1)) (← wanted index)
    dispatchWithin host limit left (Command.parse line)

/-- Carries out a command. -/
def dispatch (host : Host σ) (settings : Settings) (command : Command) :
    Action σ ι Fault ExitCode :=
  dispatchWithin host settings.recallDepth settings.recallDepth command

end LineShell
