import LineShell.Text.Numeral

/-!
# Signals

The signals that processes send each other, by name and number, and what each of them does to a
process that has not prepared for it.
-/

namespace LineShell.Sh

/-- A signal, known by its number. -/
abbrev Signal := Nat

namespace Signal

/-- The names of the signals, from number 1 on.  Where there is none the number stands. -/
def names : List Text :=
  ["HUP", "INT", "QUIT", "ILL", "TRAP", "ABRT", "BUS", "FPE", "KILL", "USR1", "SEGV", "USR2",
    "PIPE", "ALRM", "TERM", "16", "CHLD", "CONT", "STOP", "TSTP", "TTIN", "TTOU", "URG",
    "XCPU", "XFSZ", "VTALRM", "PROF", "WINCH", "IO", "PWR", "SYS", "32", "33",
    "RTMIN"].map String.toList ++
  (List.range 15).map (fun n => "RTMIN+".toList ++ numeral (n + 1)) ++
  (List.range 14).map (fun n => "RTMAX-".toList ++ numeral (14 - n)) ++ ["RTMAX".toList]

/-- The greatest number of a signal. -/
def greatest : Nat := 64

/-- The signal that cannot be prepared for. -/
def kill : Signal := 9

/-- The signal that ends a process whose arithmetic has no result. -/
def badArithmetic : Signal := 8

/-- The signal that ends a process whose steps are nested too deep. -/
def tooDeep : Signal := 11

/-- The signal that ends a process that writes what nobody reads. -/
def unread : Signal := 13

/-- The signal that asks a process to end. -/
def terminate : Signal := 15

/-- Not a signal: what is prepared for under this number happens before each command. -/
def step : Signal := 65

/-- Not a signal: what is prepared for under this number happens when a command has failed. -/
def failure : Signal := 66

/-- Not a signal: what is prepared for under this number happens when a function is left. -/
def comeback : Signal := 67

/-- The signal of a name, whatever its case, or of a number. -/
def ofText? (t : Text) : Option Signal :=
  if t ≠ [] ∧ t.all Char.isDigit then
    if digitsValue t ≤ greatest then some (digitsValue t) else none
  else
    (names.idxOf? (t.map Char.toUpper)).map (· + 1)

/-- A process that has not prepared for the signal goes on. -/
def isHarmless (s : Signal) : Bool :=
  s ∈ [0, 17, 18, 19, 20, 21, 22, 23, 28]

/-- The exit code that tells of a death by the signal. -/
def exitCode (s : Signal) : Int :=
  128 + s

/-- The deaths that have names of their own, by their signals. -/
def deaths : List (Signal × String) :=
  [(1, "Hangup"), (2, "Interrupt"), (3, "Quit"), (4, "Illegal instruction"),
    (5, "Trace/breakpoint trap"), (6, "Aborted"), (7, "Bus error"), (8, "Floating point exception"),
    (9, "Killed"), (10, "User defined signal 1"), (11, "Segmentation fault"),
    (12, "User defined signal 2"), (13, "Broken pipe"), (14, "Alarm clock"), (15, "Terminated"),
    (16, "Stack fault"), (24, "CPU time limit exceeded"), (25, "File size limit exceeded"),
    (26, "Virtual timer expired"), (27, "Profiling timer expired"), (29, "I/O possible"),
    (30, "Power failure"), (31, "Bad system call")]

/-- The name of a death by the signal. -/
def death (s : Signal) : Text :=
  match deaths.lookup s with
  | some name => name.toList
  | none =>
    if 34 ≤ s then "Real-time signal ".toList ++ numeral (s - 34)
    else "Unknown signal ".toList ++ numeral s

/-- What is said of a process that died by the signal and that was waited for.  Of some deaths
nothing is said. -/
def obituary? (s : Signal) : Option Text :=
  if s = 2 ∨ s = unread then none else some (death s)

end Signal

end LineShell.Sh
