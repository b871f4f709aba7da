import LineShell.Fault
import LineShell.Session

/-!
# Log records

What the shell notes about its own work, for whoever runs it.  A record is data: how it is spelled
and whether it is shown is decided elsewhere.
-/

namespace LineShell

/-- One note about the work of the shell. -/
inductive Record where
  /-- The loop begins. -/
  | sessionStarted (user : Option Text) (settings : Settings)
  /-- The loop has ended with this many lines in the history. -/
  | sessionFinished (lines : Nat)
  /-- The input has ended, and with it the session. -/
  | endedAndLeaving
  /-- The input has ended. -/
  | ended
  /-- The source of lines failed. -/
  | readFailed (e : IoError)
  /-- A line was parsed. -/
  | parsed (base : Text) (arguments : List Text)
  /-- A command ended in a fault. -/
  | failed (f : Fault)
  /-- A command of the shell itself begins. -/
  | builtinBegins (base : Text)
  /-- A line of the history is run again. -/
  | recalling (n : Int) (depth : Nat) (line : Text)
  /-- A text goes to the system shell. -/
  | handedOver (text : Text)
  /-- A delegated command has ended. -/
  | delegateEnded (code : Int)
  /-- A delegated command could not be run. -/
  | delegateFailed (e : IoError)
  /-- The echo was to be switched by an unknown flag. -/
  | unknownFlag (flag : Text)
  /-- A timed command has ended. -/
  | timedEnded (code : Int)
  /-- A timed command could not be run. -/
  | timedFailed (e : IoError)
  /-- One of several runs has ended. -/
  | roundEnded (round : Nat) (code : Int)
  /-- One of several runs did not come about. -/
  | roundFailed (round : Nat) (e : IoError)
deriving DecidableEq, Repr

end LineShell
