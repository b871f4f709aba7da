import LineShell.Log.Record
import LineShell.Text.Hidden

/-!
# How log records are spelled

A record has a level, a target that says which part of the shell made it, a message, and fields with
values.  On a line they follow a time stamp in this order.
-/

namespace LineShell

/-- How much a record matters, the most urgent level first. -/
inductive Level where
  | error
  | warn
  | info
  | debug
  | trace
deriving DecidableEq, Repr

namespace Level

/-- The place of a level in the order of urgency, from 1 on. -/
def rank : Level → Nat
  | .error => 1
  | .warn => 2
  | .info => 3
  | .debug => 4
  | .trace => 5

/-- The name of a level. -/
def name : Level → Text
  | .error => "ERROR".toList
  | .warn => "WARN".toList
  | .info => "INFO".toList
  | .debug => "DEBUG".toList
  | .trace => "TRACE".toList

end Level

/-- A record as it is spelled. -/
structure Spelling where
  level : Level
  target : Text
  message : Text
  fields : List (Text × Text)
deriving DecidableEq, Repr

namespace Spelling

/-- The target of records about lines and commands. -/
def interpreter : Text := "tinysh::interpreter".toList

/-- The target of records about the commands of the shell itself. -/
def builtin : Text := "tinysh::builtin".toList

/-- The target of records about the system shell. -/
def external : Text := "tinysh::external".toList

/-- A truth value. -/
def truth (b : Bool) : Text :=
  if b then "true".toList else "false".toList

/-- A text that may be missing. -/
def optional : Option Text → Text
  | none => "None".toList
  | some t => "Some(".toList ++ Quoted.text t ++ [')']

/-- The settings of a shell. -/
def settings (s : Settings) : Text :=
  "ShellConfig \x7b echo: ".toList ++ truth s.echo ++ ", exit_on_eof: ".toList ++
    truth s.leaveAtEnd ++ ", recall_depth: ".toList ++ numeral s.recallDepth ++ " \x7d".toList

/-- The name of a fault, with what belongs to it. -/
def fault : Fault → Text
  | .unread => "GetCommandFailed".toList
  | .nameless => "EmptyBase".toList
  | .badIndex => "InvalidCommand".toList
  | .notRun => "ExecutionFailed".toList
  | .noSuchLine n => "HistoryUnavailable(".toList ++ signedNumeral n ++ [')']
  | .tooDeep limit => "RecallTooDeep(".toList ++ numeral limit ++ [')']
  | .io e =>
    "Io(Custom \x7b kind: Other, error: ".toList ++ Quoted.text e.message ++ " \x7d)".toList

/-- The spelling of a record, where `program` is the system shell. -/
def ofRecord (program : Text) : Record → Spelling
  | .sessionStarted user s =>
    ⟨.info, interpreter, "session started".toList,
      [("user".toList, optional user), ("config".toList, settings s)]⟩
  | .sessionFinished lines =>
    ⟨.info, interpreter, "session finished".toList, [("lines".toList, numeral lines)]⟩
  | .endedAndLeaving => ⟨.debug, interpreter, "end of input, leaving".toList, []⟩
  | .ended => ⟨.debug, interpreter, "end of input".toList, []⟩
  | .readFailed e =>
    ⟨.warn, interpreter, "failed to read command".toList, [("error".toList, e.message)]⟩
  | .parsed base arguments =>
    ⟨.debug, interpreter, "parsed command".toList,
      [("base".toList, Quoted.text base), ("args".toList, Quoted.texts arguments)]⟩
  | .failed f => ⟨.debug, interpreter, "command failed".toList, [("error".toList, fault f)]⟩
  | .builtinBegins base =>
    ⟨.debug, interpreter, "running builtin".toList, [("builtin".toList, Quoted.text base)]⟩
  | .recalling n depth line =>
    ⟨.debug, interpreter, "recalling history entry".toList,
      [("n".toList, signedNumeral n), ("depth".toList, numeral depth),
        ("line".toList, Quoted.text line)]⟩
  | .handedOver text =>
    ⟨.debug, external, "delegating to system shell".toList,
      [("program".toList, Quoted.text program), ("text".toList, Quoted.text text)]⟩
  | .delegateEnded code =>
    ⟨.debug, interpreter, "delegated command finished".toList,
      [("code".toList, signedNumeral code)]⟩
  | .delegateFailed e =>
    ⟨.warn, interpreter, "could not run command".toList, [("error".toList, e.message)]⟩
  | .unknownFlag flag =>
    ⟨.debug, builtin, "set: unknown flag".toList, [("flag".toList, Quoted.text flag)]⟩
  | .timedEnded code =>
    ⟨.debug, builtin, "time: command finished".toList, [("code".toList, signedNumeral code)]⟩
  | .timedFailed e =>
    ⟨.warn, builtin, "time: could not run command".toList, [("error".toList, e.message)]⟩
  | .roundEnded round code =>
    ⟨.debug, builtin, "repeat: command finished".toList,
      [("round".toList, numeral round), ("code".toList, signedNumeral code)]⟩
  | .roundFailed round e =>
    ⟨.warn, builtin, "repeat: could not run command".toList,
      [("round".toList, numeral round), ("error".toList, e.message)]⟩

/-- The width of the column of levels. -/
def levelWidth : Nat := 5

/-- The line of a record, after a time stamp and with a newline. -/
def line (stamp : Text) (s : Spelling) : Text :=
  let level := List.replicate (levelWidth - s.level.name.length) ' ' ++ s.level.name
  let fields := s.fields.flatMap fun (name, value) => ' ' :: name ++ '=' :: value
  stamp ++ ' ' :: level ++ ' ' :: s.target ++ ": ".toList ++ s.message ++ fields ++ ['\n']

end Spelling

end LineShell

/-! ## Time stamps

A moment is a number of microseconds since the beginning of 1970.  Its stamp has the date and the
time of day in fixed columns, so that stamps in the order of time are in the order of the alphabet.
-/

namespace LineShell.Stamp

/-- The microseconds of a day. -/
def dayLength : Nat := 86400000000

/-- The date of a day, counted from the first of March of the year 0: the year, month and day of the
month.  Years begin in March here, so that the day that some of them lack is their last one. -/
def date (day : Nat) : Nat × Nat × Nat :=
  let era := day / 146097
  let dayOfEra := day % 146097
  let year := (dayOfEra - dayOfEra / 1460 + dayOfEra / 36524 - dayOfEra / 146096) / 365
  let dayOfYear := dayOfEra - (365 * year + year / 4 - year / 100)
  let month := (5 * dayOfYear + 2) / 153
  let dayOfMonth := dayOfYear - (153 * month + 2) / 5 + 1
  if month < 10 then (era * 400 + year, month + 3, dayOfMonth)
  else (era * 400 + year + 1, month - 9, dayOfMonth)

/-- The days from the first of March of the year 0 to the beginning of 1970. -/
def epoch : Nat := 719468

/-- The stamp of a moment. -/
def ofMicroseconds (n : Nat) : Text :=
  let (year, month, day) := date (n / dayLength + epoch)
  let second := n % dayLength / 1000000
  paddedNumeral 4 year ++ '-' :: paddedNumeral 2 month ++ '-' :: paddedNumeral 2 day ++
    'T' :: paddedNumeral 2 (second / 3600) ++ ':' :: paddedNumeral 2 (second / 60 % 60) ++
    ':' :: paddedNumeral 2 (second % 60) ++ '.' :: paddedNumeral 6 (n % 1000000) ++ ['Z']

/-- The first moment of 1970. -/
example : ofMicroseconds 0 = "1970-01-01T00:00:00.000000Z".toList := by decide

/-- The day that only leap years have. -/
example : ofMicroseconds 1709210096000001 = "2024-02-29T12:34:56.000001Z".toList := by decide

end LineShell.Stamp
