import LineShell.Dispatch
import LineShell.Source.Feed
import LineShell.Source.Basic

/-!
# The loop

`step` takes one line from a source and carries it out; `run` takes steps until the session is to
end.  A line joins the history after its echo and before it is carried out, whatever comes of it.
Nothing that a command does ends the loop but a request to leave; a stream that fails to take the
shell's own output or to be flushed does.

Since a source may go on for ever, `run` is given the number of steps it may take and says whether
they were enough.  Over buffered input, and with streams that fail for want of room only,
`Shell.stepBound` steps are enough if any number is (`run_stepBound`).
-/

namespace LineShell

variable {σ ι : Type}

/-- Reports a fault on standard error. -/
def report (f : Fault) : Action σ ι IoError Unit :=
  Action.write .err f.report

/-- What is shown before the echo of a line. -/
def echoMark : Text := "COMMAND: ".toList

/-- Echoes a line if the session wants that, records it, and carries it out. -/
def obey (host : Host σ) (settings : Settings) (line : Text) : Action σ ι IoError Unit := do
  let command := Command.parse line
  Action.note (.parsed command.base command.arguments)
  if (← Action.session).echo then
    Action.write .out (echoMark ++ command.raw)
  Action.flush
  Action.change (.record command.raw)
  match ← Action.attempt (dispatch host settings command) with
  | .ok _ => pure ()
  | .error f =>
    Action.note (.failed f)
    report f
  Action.flush

/-- What a step does with the result of its read. -/
def answer (host : Host σ) (settings : Settings) : ReadResult → Action σ ι IoError Unit
  | .ok (.line line) => obey host settings line
  | .ok .ended => do
    if settings.leaveAtEnd then
      Action.note .endedAndLeaving
      Action.change .leave
    else
      Action.note .ended
      report .unread
  | .error e => do
    Action.note (.readFailed e)
    report .unread

/-- Starts a new output line, reads a line with the prompt, and carries it out. -/
def step (host : Host σ) (settings : Settings) (source : LineSource ι) :
    Action σ ι IoError Unit := do
  Action.write .out ['\n']
  Action.flush
  answer host settings (← Action.readLine source)

/-- How far a run came. -/
inductive Progress where
  /-- The session has ended. -/
  | finished
  /-- The steps allowed were too few. -/
  | unfinished
deriving DecidableEq, Repr

/-- Takes steps until the session is to end, but not more than the given number. -/
def steps (host : Host σ) (settings : Settings) (source : LineSource ι) :
    Nat → Action σ ι IoError Progress
  | 0 => do
    return if (← Action.session).leaving then .finished else .unfinished
  | n + 1 => do
    if (← Action.session).leaving then
      return .finished
    else
      step host settings source
      steps host settings source n

/-- A whole run of the shell, of at most `n` steps. -/
def run (host : Host σ) (settings : Settings) (source : LineSource ι) (n : Nat) :
    Action σ ι IoError Progress := do
  Action.note (.sessionStarted (← Action.session).user settings)
  let progress ← steps host settings source n
  if progress = .finished then
    Action.note (.sessionFinished (← Action.session).history.size)
  return progress

/-- The number of reads that buffered input answers before it has ended for good, that is one for
each newline and each interruption, and one for bytes after the last of them. -/
def Feed.readBound (feed : Feed) : Nat :=
  feed.bytes.count Feed.newline + feed.interruptions + 1

/-- A number of steps after which a run over buffered input has ended if it ends at all, unless a
stream gives replies of its own: the input has been read, and from then on each step either ends the
session or writes to both streams. -/
def Shell.stepBound (s : Shell σ Feed) : Nat :=
  s.source.readBound + 1 + s.out.size + s.err.size + 1

end LineShell
