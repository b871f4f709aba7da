import LineShell.Console.Action

/-!
# Sources of lines

A source gives one line at a time, or the end of the input, or a failure.  While it reads it may
write to standard output (to show the prompt, say), flush it, learn whether that has succeeded, and
look at its input; it can do nothing else.  So a read is a dialogue, a tree of these four moves that
ends in a result, and `LineSource` holds one such dialogue for each prompt and state.
-/

namespace LineShell

/-- What a read gives when it does not fail. -/
inductive Read where
  | line (line : Text)
  | ended
deriving DecidableEq, Repr

/-- What comes of a read. -/
abbrev ReadResult := Except IoError Read

/-- The moves of one read, over a source with states `ι`. -/
inductive Reading (ι : Type) where
  /-- The read is over. -/
  | done (result : ReadResult) (source : ι)
  /-- Writes to standard output and goes on, knowing whether all of it was taken. -/
  | write (text : Text) (next : Except IoError Unit → Reading ι)
  /-- Flushes standard output and goes on, knowing whether that has succeeded. -/
  | flush (next : Except IoError Unit → Reading ι)
  /-- Looks at the input. -/
  | consult (next : Reading ι)

namespace Reading

variable {ι : Type}

/-- How a read ends. -/
structure Outcome (ι : Type) where
  result : ReadResult
  source : ι
  /-- The room of standard output. -/
  room : Room
  events : List Event

/-- Puts events before those of an outcome. -/
def Outcome.after (events : List Event) (o : Outcome ι) : Outcome ι :=
  { o with events := events ++ o.events }

/-- Carries out a read against a standard output with the given room. -/
def perform : Reading ι → Room → Outcome ι
  | .done result source, room => ⟨result, source, room, []⟩
  | .write text next, room =>
    let answer := room.offer (Utf8.encode text)
    ((next answer.result).perform answer.left).after (Event.ofWrite .out answer)
  | .flush next, room =>
    let answer := room.flush
    ((next answer.result).perform answer.left).after [.ofFlush answer]
  | .consult next, room => (next.perform room).after [.consulted]

end Reading

/-- A source of lines with states `ι`: for each prompt and state, the read that it does. -/
structure LineSource (ι : Type) where
  read : Text → ι → Reading ι

namespace LineSource

variable {ι : Type}

/-- The source that always gives the same result and shows no prompt. -/
def always (result : ReadResult) : LineSource ι :=
  ⟨fun _ source => .done result source⟩

end LineSource

/-- Reads a line from the source of a shell, with the prompt of its session. -/
def Action.readLine {σ ι ε : Type} (source : LineSource ι) : Action σ ι ε ReadResult :=
  fun s =>
    let o := (source.read s.session.prompt s.source).perform s.out
    ⟨.ok o.result, { s with source := o.source, out := o.room }, o.events⟩

end LineShell
