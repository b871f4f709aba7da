import LineShell.Command
import LineShell.Console.Action

/-!
# The commands of the shell itself

Each of them is an action that ends with an exit code or a fault.  They never touch the source of
lines, and only `leave` and `switch` alter the session.
-/

namespace LineShell

namespace Builtin

variable {σ ι : Type}

/-- Asks the session to end. -/
def leave : Action σ ι Fault ExitCode := do
  Action.change .leave
  return 0

/-- Switches the echo: `+v` off, `-v` on.  Any other flag is a fault. -/
def switch (flag : Text) : Action σ ι Fault ExitCode := do
  if flag = "+v".toList then
    Action.change (.echo false)
    return 0
  else if flag = "-v".toList then
    Action.change (.echo true)
    return 0
  else
    Action.note (.unknownFlag flag)
    Action.fail .notRun

/-- Shows the size of a file.  When the system does not tell, its answer goes to standard error and
its number is the exit code. -/
def size (host : Host σ) (path : Text) : Action σ ι Fault ExitCode := do
  Action.print .out ('"' :: path ++ ['"', '\n'])
  match ← Action.ask (host.fileSize path) with
  | .ok bytes =>
    Action.print .out (numeral bytes ++ " bytes\n".toList)
    return 0
  | .error e =>
    Action.print .err (path ++ ": ".toList ++ e.message ++ ['\n'])
    return e.number.getD 1

/-- Lists numbered lines, each between a tab before its number and a tab after it. -/
def list : List (Nat × Text) → Action σ ι Fault Unit
  | [] => pure ()
  | (n, line) :: rest => do
    Action.print .out ('\t' :: numeral n ++ '\t' :: line)
    list rest

/-- Lists the history. -/
def history : Action σ ι Fault ExitCode := do
  list (← Action.session).history.numbered
  return 0

/-- Runs a command text and shows the microseconds it took.  Only the microsecond parts of the two
times of day are compared, so the figure is off by a second when a second begins in between. -/
def time (host : Host σ) (text : Text) : Action σ ι Fault ExitCode := do
  let start ← Action.ask host.timeOfDay
  let outcome ← Action.hand host text
  let finish ← Action.ask host.timeOfDay
  Action.print .out
    ("\nELAPSED: ".toList ++ signedNumeral ((finish : Int) - (start : Int)) ++ "us\n".toList)
  match outcome with
  | .ok code =>
    Action.note (.timedEnded code)
    return 0
  | .error e =>
    Action.note (.timedFailed e)
    Action.fail .notRun

/-- Shows how long the session has lasted, in seconds with six decimals. -/
def times (host : Host σ) : Action σ ι Fault ExitCode := do
  let elapsed ← Action.ask host.elapsed
  Action.print .out
    ("\nELAPSED: ".toList ++ numeral (elapsed / 1000000) ++
      '.' :: paddedNumeral 6 (elapsed % 1000000) ++ ['s'])
  return 0

/-- Runs a command text `left` times, numbering the rounds from `round`.  A round that fails does
not keep the next one from happening. -/
def rounds (host : Host σ) (text : Text) (round : Nat) : Nat → Action σ ι Fault Unit
  | 0 => pure ()
  | left + 1 => do
    match ← Action.hand host text with
    | .ok code => Action.note (.roundEnded round code)
    | .error e => Action.note (.roundFailed round e)
    rounds host text (round + 1) left

/-- How often a command is to be repeated: the integer at the beginning of the first argument, zero
if there is none or if it is negative. -/
def repetitions (arguments : List Text) : Nat :=
  ((arguments.head?.bind leadingInt?).getD 0).toNat

/-- Runs the command made of all arguments but the first as often as the first says. -/
def again (host : Host σ) (arguments : List Text) : Action σ ι Fault ExitCode := do
  rounds host (Command.joined arguments.tail) 0 (repetitions arguments)
  return 0

end Builtin

end LineShell
