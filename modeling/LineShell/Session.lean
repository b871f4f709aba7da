import LineShell.History

/-!
# Sessions

The state that lasts from one line to the next: whether lines are echoed, what has been read, who
the user is, and whether the session is to end.  A session is only ever altered by a `Change`, so
the changes made are a complete account of what happened to it.
-/

namespace LineShell

/-- How a shell is set up. -/
structure Settings where
  /-- Lines are echoed from the start. -/
  echo : Bool
  /-- The end of the input ends the session. -/
  leaveAtEnd : Bool
  /-- How deep recalls may nest. -/
  recallDepth : Nat
deriving DecidableEq, Repr

namespace Settings

/-- How deep recalls may nest unless set otherwise. -/
def standardRecallDepth : Nat := 32

/-- The settings of a shell for which nothing else is asked. -/
def standard : Settings :=
  { echo := true, leaveAtEnd := false, recallDepth := standardRecallDepth }

end Settings

/-- The state of one session. -/
structure Session where
  /-- Each line read is echoed. -/
  echo : Bool
  /-- The lines read so far. -/
  history : History
  /-- The name shown in the prompt. -/
  user : Option Text
  /-- The session is to end before the next line. -/
  leaving : Bool
deriving DecidableEq, Repr

/-- One alteration of a session. -/
inductive Change where
  /-- A line joins the history. -/
  | record (line : Text)
  /-- The echo is switched on or off. -/
  | echo (on : Bool)
  /-- The session is asked to end. -/
  | leave
deriving DecidableEq, Repr

namespace Session

/-- A session at its beginning. -/
def start (settings : Settings) (history : History) (user : Option Text) : Session :=
  { echo := settings.echo, history, user, leaving := false }

/-- The session after a change. -/
def apply (s : Session) : Change → Session
  | .record line => { s with history := s.history.append line }
  | .echo on => { s with echo := on }
  | .leave => { s with leaving := true }

/-- The text shown before each read, with nothing in the place of an unknown user. -/
def prompt (s : Session) : Text :=
  '[' :: s.user.getD [] ++ "] $ ".toList

end Session

end LineShell
