import LineShell.Log.Filter
import LineShell.Loop
import LineShell.Options
import LineShell.Source.Plain

/-!
# The program

A whole run of the shell as a program, from its arguments and its input to its exit code and what it
writes.  It runs on a machine of which nothing is known but its answers.  Log records go to standard
error, in their place among all else.

A session may go on for ever.  Then there is no exit code, and what is known to be written is what
was written until so many steps were taken that the session will not end any more.
-/

namespace LineShell

/-- What a run of the program is given by those who call it. -/
structure Call where
  arguments : List Text
  input : List UInt8
  user : Option Text
  /-- The filter of the log. -/
  log : Option Text
  /-- What is written in front of each log record. -/
  stamp : Text

/-- A machine with states of type `σ` on which the program can run. -/
structure Machine (σ : Type) where
  host : Host σ
  /-- The program that command texts are handed to, by its path. -/
  systemShell : Text
  /-- What is still printed when the shell has ended, by what its commands have left behind. -/
  late : σ → List (Stream × List UInt8)

/-- What becomes of a run of the program. -/
structure Ended where
  /-- The exit code, or `none` if the run goes on for ever. -/
  exit : Option ExitCode
  /-- What was written to the streams, in order. -/
  written : List (Stream × List UInt8)

namespace Ended

/-- What was written to one stream. -/
def bytes (e : Ended) (stream : Stream) : List UInt8 :=
  e.written.flatMap fun part => if part.1 = stream then part.2 else []

/-- The exit code of a process that was killed. -/
def killed : ExitCode := 137

/-- The exit code as others see it: they must kill a run that goes on for ever. -/
def code (e : Ended) : ExitCode :=
  e.exit.getD killed

end Ended

namespace Program

variable {σ : Type}

/-- What an event adds to the streams. -/
def shown (filter : Filter) (systemShell stamp : Text) : Event → Option (Stream × List UInt8)
  | .wrote stream bytes => some (stream, bytes)
  | .printed stream bytes => some (stream, bytes)
  | .noted record =>
    let spelling := Spelling.ofRecord systemShell record
    if filter.lets spelling then some (.err, Utf8.encode (spelling.line stamp)) else none
  | _ => none

/-- The shell as it is when a session begins. -/
def start (state : σ) (c : Call) (settings : Settings) : Shell σ Feed :=
  { session := Session.start settings .empty c.user
    host := state
    source := [.chunk c.input]
    out := none
    err := none }

/-- Runs a session.  What its commands have left behind prints last. -/
def session (machine : Machine σ) (state : σ) (c : Call) (settings : Settings) : Ended :=
  let shell := start state c settings
  let outcome := LineShell.run machine.host settings LineSource.plain shell.stepBound shell
  let written :=
    outcome.events.filterMap (shown (Filter.ofSetting c.log) machine.systemShell c.stamp)
  let late := machine.late outcome.shell.host
  match outcome.result with
  | .ok .finished => ⟨some 0, written ++ late⟩
  | .ok .unfinished => ⟨none, written⟩
  | .error e =>
    ⟨some 1, written ++ (.err, Utf8.encode ("Error: ".toList ++ e.message ++ ['\n'])) :: late⟩

/-- Runs the program on a machine. -/
def runOn (machine : Machine σ) (state : σ) (c : Call) : Ended :=
  match Invocation.ofArguments c.arguments with
  | .run options => session machine state c options.settings
  | .help => ⟨some 0, [(.out, Utf8.encode Invocation.usage)]⟩
  | .misused m => ⟨some 1, [(.err, Utf8.encode m.report)]⟩

end Program

end LineShell
