import LineShell.Console.Stream
import LineShell.Log.Record

/-!
# Events

Everything that a shell does is an event, in the order in which it happens: bytes that a stream has
taken, writes that it has refused, flushes and those that have failed, looks at the input, commands
handed to the system shell and what these print, changes of the session, and log records.  What
somebody can see of a run is a view of its events.
-/

namespace LineShell

/-- The exit code of a command; zero means success. -/
abbrev ExitCode := Int

/-- How a command handed to the system shell came out: its exit code, or why it was not run. -/
abbrev RunOutcome := Except IoError ExitCode

/-- One thing that happened. -/
inductive Event where
  /-- A stream took these bytes from the shell. -/
  | wrote (stream : Stream) (bytes : List UInt8)
  /-- A stream refused bytes of the shell. -/
  | refused (stream : Stream)
  /-- Standard output was flushed. -/
  | flushed
  /-- A flush of standard output has failed. -/
  | unflushed
  /-- The source of lines looked at its input. -/
  | consulted
  /-- A text was handed to the system shell. -/
  | ran (text : Text) (outcome : RunOutcome)
  /-- A delegated command itself wrote these bytes. -/
  | printed (stream : Stream) (bytes : List UInt8)
  /-- The session was altered. -/
  | changed (change : Change)
  /-- A log record was made. -/
  | noted (record : Record)

namespace Event

/-- The bytes that the shell wrote to a stream. -/
def written (stream : Stream) (events : List Event) : List UInt8 :=
  events.flatMap fun
    | .wrote s bytes => if s = stream then bytes else []
    | _ => []

/-- The texts that were handed to the system shell, in order. -/
def texts (events : List Event) : List Text :=
  events.filterMap fun
    | .ran text _ => some text
    | _ => none

/-- The texts that were handed to the system shell, with how they came out. -/
def runs (events : List Event) : List (Text × RunOutcome) :=
  events.filterMap fun
    | .ran text outcome => some (text, outcome)
    | _ => none

/-- The changes of the session, in order. -/
def changes (events : List Event) : List Change :=
  events.filterMap fun
    | .changed change => some change
    | _ => none

/-- The event is a refused write. -/
def isRefusal : Event → Bool
  | .refused _ => true
  | _ => false

/-- The event is a call of a stream that has failed: a refused write or a failed flush. -/
def isFailure : Event → Bool
  | .refused _ => true
  | .unflushed => true
  | _ => false

/-- The events of a write that a stream answers. -/
def ofWrite (stream : Stream) (answer : Room.Answer) : List Event :=
  match answer.result with
  | .ok _ => [.wrote stream answer.taken]
  | .error _ => [.wrote stream answer.taken, .refused stream]

/-- The event of a flush that standard output answers. -/
def ofFlush (answer : Room.Answer) : Event :=
  match answer.result with
  | .ok _ => .flushed
  | .error _ => .unflushed

@[simp]
theorem written_append (stream : Stream) (es fs : List Event) :
    written stream (es ++ fs) = written stream es ++ written stream fs :=
  List.flatMap_append

@[simp]
theorem texts_append (es fs : List Event) : texts (es ++ fs) = texts es ++ texts fs :=
  List.filterMap_append

@[simp]
theorem runs_append (es fs : List Event) : runs (es ++ fs) = runs es ++ runs fs :=
  List.filterMap_append

@[simp]
theorem changes_append (es fs : List Event) : changes (es ++ fs) = changes es ++ changes fs :=
  List.filterMap_append

end Event

end LineShell
