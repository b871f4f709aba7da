import LineShell.Text.Numeral

/-!
# Faults

What can go wrong, by cause: an input or output operation fails, the system refuses to describe a
file, or a command cannot be carried out.  Each cause has one text, which is what users see.
-/

namespace LineShell

/-- A failed input or output operation, known by its text. -/
structure IoError where
  message : Text
deriving DecidableEq, Repr

/-- The failure of a write that a stream does not take. -/
def IoError.refused : IoError := ⟨"write refused".toList⟩

/-- The system's answer when a file cannot be examined: its number, if it has one, and its text. -/
structure OsError where
  number : Option Int
  message : Text
deriving DecidableEq, Repr

/-- Why a command was not carried out. -/
inductive Fault where
  /-- No line could be read. -/
  | unread
  /-- The line has no base name. -/
  | nameless
  /-- A recall does not say which line it wants. -/
  | badIndex
  /-- The command could not be run at all. -/
  | notRun
  /-- The history has no line of this number. -/
  | noSuchLine (n : Int)
  /-- Recalls are nested deeper than the limit. -/
  | tooDeep (limit : Nat)
  /-- An output operation failed. -/
  | io (e : IoError)
deriving DecidableEq, Repr

/-- The text of a fault. -/
def Fault.message : Fault → Text
  | .unread => "could not get command".toList
  | .nameless => "base command empty".toList
  | .badIndex => "invalid command".toList
  | .notRun => "could not execute command".toList
  | .noSuchLine n => "line ".toList ++ signedNumeral n ++ " of history not available".toList
  | .tooDeep limit =>
    "history recall nested more than ".toList ++ numeral limit ++ " levels deep".toList
  | .io e => "i/o error: ".toList ++ e.message

/-- The line that reports a fault to the user. -/
def Fault.report (f : Fault) : Text :=
  "Error: ".toList ++ f.message ++ ['\n']

end LineShell
