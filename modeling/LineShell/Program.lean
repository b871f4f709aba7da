import LineShell.Computer
import LineShell.Program.Basic

/-!
# The program on a computer in memory

The program needs a machine to run on, and a computer in memory is one.  This serves to run the
program where there is no other machine; nothing that is proved about the shell rests on it.
-/

namespace LineShell

/-- A computer in memory as a machine.  Processes that commands have begun and not waited for are
what they leave behind. -/
def Computer.machine : Machine Computer where
  host := Computer.host Computer.systemShell
  systemShell := Computer.systemShell
  late := Computer.rest

/-- What a run of the program on a computer in memory starts from. -/
structure Invoked extends Call where
  computer : Computer

/-- Runs the program. -/
def Program.run (i : Invoked) : Ended :=
  runOn Computer.machine i.computer i.toCall

end LineShell
