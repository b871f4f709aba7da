import LineShell.Line

/-!
# Commands

A line is a command: its first token names what is to be done and the others are the arguments.
The line itself is kept beside them, because it is the line that is echoed, recorded and handed to
the system shell.  `Command.verb` sorts commands by what the name asks for.
-/

namespace LineShell

/-- A parsed line. -/
structure Command where
  /-- The first token, empty if the line has none. -/
  base : Text
  /-- The tokens after the first. -/
  arguments : List Text
  /-- The line as it was read. -/
  raw : Text
deriving DecidableEq, Repr

/-- What a base name asks for. -/
inductive Verb where
  /-- No name at all. -/
  | nothing
  /-- End the session. -/
  | leave
  /-- Switch the echo of lines on or off. -/
  | switch
  /-- Show the size of a file. -/
  | size
  /-- Run a line of the history again; the text after the mark says which. -/
  | recall (index : Text)
  /-- List the history. -/
  | history
  /-- Run a command and show how long it took. -/
  | time
  /-- Show how long the session has lasted. -/
  | times
  /-- Run a command several times. -/
  | again
  /-- Anything else is for the system shell. -/
  | delegate
deriving DecidableEq, Repr

/-- The verb of a base name.  Names are compared exactly; a mark at the beginning asks for a
recall whatever follows it. -/
def Verb.ofBase (base : Text) : Verb :=
  match base with
  | [] => .nothing
  | '!' :: index => .recall index
  | _ =>
    if base = "exit".toList then .leave
    else if base = "set".toList then .switch
    else if base = "size".toList then .size
    else if base = "history".toList then .history
    else if base = "time".toList then .time
    else if base = "times".toList then .times
    else if base = "repeat".toList then .again
    else .delegate

namespace Command

/-- How many arguments a command keeps. -/
def argumentLimit : Nat := 64

/-- The command of a line.  Tokens lose what follows a newline in them, and tokens that become
empty in this way are kept. -/
def parse (line : Text) : Command :=
  match (Line.tokens line).map Line.upToNewline with
  | [] => { base := [], arguments := [], raw := line }
  | base :: arguments =>
    { base, arguments := arguments.take argumentLimit, raw := line }

/-- What the name of the command asks for. -/
def verb (c : Command) : Verb :=
  Verb.ofBase c.base

/-- The first argument, or the empty text. -/
def firstArgument (c : Command) : Text :=
  c.arguments.headD []

/-- Arguments as a command text: each of them followed by one space. -/
def joined (arguments : List Text) : Text :=
  arguments.flatMap (· ++ [' '])

@[simp]
theorem parse_raw (line : Text) : (parse line).raw = line := by
  unfold parse
  split <;> rfl

end Command

end LineShell
