import LineShell.Host

/-!
# Actions

The state of a running shell is its session, the state of its host, the state of its source of lines
and the room of its two streams.  An action starts from such a state and ends in another one,
with a result or an error, and reports the events on the way.  An error does not undo what was done
before it.  Actions form a monad, and the few primitive ones below are all that the shell is made
of: in particular a session is altered by `Action.change` alone.
-/

namespace LineShell

/-- The state of a running shell, over a host with states `σ` and a source with states `ι`. -/
structure Shell (σ ι : Type) where
  session : Session
  host : σ
  source : ι
  out : Room
  err : Room

namespace Shell

variable {σ ι : Type}

/-- The room of a stream. -/
def room (s : Shell σ ι) : Stream → Room
  | .out => s.out
  | .err => s.err

/-- The shell with another room in a stream. -/
def setRoom (s : Shell σ ι) (stream : Stream) (room : Room) : Shell σ ι :=
  match stream with
  | .out => { s with out := room }
  | .err => { s with err := room }

end Shell

/-- How an action ends. -/
structure Outcome (σ ι ε α : Type) where
  /-- The value or the error. -/
  result : Except ε α
  /-- The state afterwards. -/
  shell : Shell σ ι
  /-- What happened, in order. -/
  events : List Event

/-- Something a shell does. -/
def Action (σ ι ε α : Type) : Type :=
  Shell σ ι → Outcome σ ι ε α

namespace Action

variable {σ ι ε δ α β : Type}

/-- Does nothing and gives a value. -/
protected def pure (a : α) : Action σ ι ε α :=
  fun s => ⟨.ok a, s, []⟩

/-- Does one action after another; an error of the first one is the error of both. -/
protected def bind (x : Action σ ι ε α) (f : α → Action σ ι ε β) : Action σ ι ε β :=
  fun s =>
    match x s with
    | ⟨.ok a, s', es⟩ =>
      let o := f a s'
      ⟨o.result, o.shell, es ++ o.events⟩
    | ⟨.error e, s', es⟩ => ⟨.error e, s', es⟩

instance : Monad (Action σ ι ε) where
  pure := Action.pure
  bind := Action.bind

/-- Fails. -/
def fail (e : ε) : Action σ ι ε α :=
  fun s => ⟨.error e, s, []⟩

/-- Does an action and gives its result, value or error, as a value. -/
def attempt (x : Action σ ι ε α) : Action σ ι δ (Except ε α) :=
  fun s =>
    let o := x s
    ⟨.ok o.result, o.shell, o.events⟩

/-- Does an action whose errors become errors of another kind. -/
def mapError (f : ε → δ) (x : Action σ ι ε α) : Action σ ι δ α :=
  fun s =>
    let o := x s
    ⟨o.result.mapError f, o.shell, o.events⟩

/-- The session as it is. -/
def session : Action σ ι ε Session :=
  fun s => ⟨.ok s.session, s, []⟩

/-- Alters the session. -/
def change (c : Change) : Action σ ι ε Unit :=
  fun s => ⟨.ok (), { s with session := s.session.apply c }, [.changed c]⟩

/-- Makes a log record. -/
def note (r : Record) : Action σ ι ε Unit :=
  fun s => ⟨.ok (), s, [.noted r]⟩

/-- Flushes standard output. -/
def flush : Action σ ι IoError Unit :=
  fun s =>
    let answer := (s.room .out).flush
    ⟨answer.result, s.setRoom .out answer.left, [.ofFlush answer]⟩

/-- Writes a text to a stream. -/
def write (stream : Stream) (text : Text) : Action σ ι IoError Unit :=
  fun s =>
    let answer := (s.room stream).offer (Utf8.encode text)
    ⟨answer.result, s.setRoom stream answer.left, Event.ofWrite stream answer⟩

/-- Writes a text to a stream as part of a command. -/
def print (stream : Stream) (text : Text) : Action σ ι Fault Unit :=
  (write stream text).mapError .io

/-- Flushes standard output as part of a command. -/
def drain : Action σ ι Fault Unit :=
  flush.mapError .io

/-- Hands a text to the system shell and gives what comes of it. -/
def hand (host : Host σ) (text : Text) : Action σ ι ε RunOutcome :=
  fun s =>
    let (run, host') := host.run text s.host
    ⟨.ok run.outcome, { s with host := host' },
      .noted (.handedOver text) :: .ran text run.outcome ::
        run.printed.map fun part => .printed part.1 part.2⟩

/-- Asks the host a question. -/
def ask (question : σ → α × σ) : Action σ ι ε α :=
  fun s =>
    let (answer, host') := question s.host
    ⟨.ok answer, { s with host := host' }, []⟩

end Action

end LineShell
