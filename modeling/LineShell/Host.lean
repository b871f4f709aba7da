import LineShell.Console.Event

/-!
# The host

What lies outside the shell and answers to it: the system shell that runs commands, the files whose
sizes can be asked for, and two clocks.  A host is given by its answers; each of them may depend on
a state of the host and alter it, so nothing is assumed about how answers hang together.
-/

namespace LineShell

/-- One run of a command by the system shell. -/
structure Run where
  /-- How it came out. -/
  outcome : RunOutcome
  /-- What the command wrote to the streams it shares with the shell, in order. -/
  printed : List (Stream × List UInt8)

/-- The answers of a host with states of type `σ`. -/
structure Host (σ : Type) where
  /-- Runs a command text. -/
  run : Text → σ → Run × σ
  /-- The size in bytes of the file at a path. -/
  fileSize : Text → σ → Except OsError Nat × σ
  /-- The microsecond part of the time of day. -/
  timeOfDay : σ → Nat × σ
  /-- The microseconds since the session began. -/
  elapsed : σ → Nat × σ

end LineShell
