import LineShell.Computer.Sh.Tool.Entries
import LineShell.Computer.Sh.Tool.Options
import LineShell.Computer.Text.Calendar.Reading

/-!
# The tool that tells the date

It writes one moment by a pattern: the present one, one that a text names, or the one at which a file
was altered.  The clock cannot be set.
-/

namespace LineShell.Sh.Tool.Dates

/-- How `date` takes options. -/
def usage : Usage :=
  .free (OptionForm.valuedFlags [('d', "date"), ('f', "file"), ('r', "reference"), ('s', "set")] ++
    [⟨some 'I', some "iso-8601", .perhaps⟩] ++
    OptionForm.flags [('R', "rfc-email"), ('R', "rfc-822"), ('R', "rfc-2822"), ('u', "utc"),
      ('u', "uct"), ('u', "universal")] ++
    OptionForm.valuedNames ["rfc-3339"] ++ OptionForm.names ["debug"])

/-- The pattern that an option stands for. -/
def patternOf (option : String × Text) : Except Text (Option String) := do
  let date := (["date"], "%Y-%m-%d")
  match option with
  | ("R", _) => return some "%a, %d %b %Y %H:%M:%S %z"
  | ("I", []) => return some "%Y-%m-%d"
  | ("I", t) =>
    let table := [(["hours"], "%Y-%m-%dT%H%:z"), (["minutes"], "%Y-%m-%dT%H:%M%:z"), date,
      (["seconds"], "%Y-%m-%dT%H:%M:%S%:z"), (["ns"], "%Y-%m-%dT%H:%M:%S,%N%:z")]
    return some (← Choice.ofWord "--iso-8601".toList table t)
  | ("rfc-3339", t) =>
    let table := [date, (["seconds"], "%Y-%m-%d %H:%M:%S%:z"),
      (["ns"], "%Y-%m-%d %H:%M:%S.%N%:z")]
    return some (← Choice.ofWord "--rfc-3339".toList table t)
  | _ => return none

/-- Writes a moment by a pattern, and tells if there is a date for it. -/
def showMoment (zone : Calendar.Zone) (pattern : Text) (moment : Int × Nat) : Task Bool := do
  let m := Calendar.Moment.within zone moment.1 moment.2
  if Calendar.Reading.isNear (m.date.year - 1900) then
    printLine (m.written pattern)
    return true
  complain ("time ".toList ++ Quoting.word (signedNumeral moment.1) ++ " is out of range".toList)
  return false

/-- Complains of a text that names no moment. -/
def complainOfDate (t : Text) : Task Unit :=
  complain ("invalid date ".toList ++ Quoting.word t)

/-- Writes the moment that each line of a file names. -/
def showEach (zone : Calendar.Zone) (now : Int × Nat) (pattern path : Text) : Task Int := do
  let useLine (succeeds : Bool) (line : List UInt8) (_ : Bool) : Task (Except Bool Bool) := do
    let t := Raw.ofBytes line
    match Calendar.moment? zone now t with
    | some moment => return .ok ((← showMoment zone pattern moment) && succeeds)
    | none =>
      complainOfDate t
      return .ok false
  match ← withInput path fun d => eachLine d newline useLine true with
  | .ok (.ok (.ok succeeds)) => return if succeeds then 0 else 1
  | .ok (.ok (.error succeeds)) => return if succeeds then 0 else 1
  | .ok (.error fault) =>
    complainAbout path fault
    return 1
  | .error fault =>
    complainAbout path fault
    return 1

/-- The moment that is to be written, or what is wrong. -/
def momentAsked (zone : Calendar.Zone) (now : Int × Nat) (given : Given) (operand : Option Text) :
    Task (Except (Task Unit) (Int × Nat)) := do
  let read (t : Text) : Except (Task Unit) (Int × Nat) :=
    match Calendar.moment? zone now t with
    | some moment => .ok moment
    | none => .error (complainOfDate t)
  match given.value? "r", given.value? "s", given.value? "d", operand with
  | some path, _, _, _ => do
    match ← look true path with
    | .ok (_, node) =>
      return .ok (node.time.fdiv 1000000, (node.time.fmod 1000000).toNat * 1000)
    | .error fault => return .error (complainAbout path fault)
  | none, some t, _, _ => return read t
  | none, none, some t, _ => return read t
  | none, none, none, some t =>
    match Calendar.stamp? zone true now.1 t with
    | some n => return .ok (n, 0)
    | none => return .error (complainOfDate t)
  | none, none, none, none => return .ok now

/-- What is wrong with options that do not go together. -/
def clash? (given : Given) (operand : Option Text) : Option Text :=
  let dates := ["d", "f", "r"].countP given.has
  if 1 < dates then
    some "the options to specify dates for printing are mutually exclusive".toList
  else if given.has "s" ∧ dates ≠ 0 then
    some "the options to print and set the time may not be used together".toList
  else if given.has "s" ∨ dates ≠ 0 then
    operand.map fun t => "the argument ".toList ++ Quoting.word t ++ (" lacks a leading '+';\n" ++
      "when using an option to specify date(s), any non-option\n" ++
      "argument must be a format string beginning with '+'").toList
  else none

end Dates

/-- Tells the date. -/
def date (given : Given) (operands : List Text) : Task Int := do
  let zone ← if given.has "u" then pure .universal else Task.zone
  let time := (← Task.process).time
  let now : Int × Nat := ((time / 1000000 : Nat), time % 1000000 * 1000)
  let failWith (complaint : Task Unit) : Task Int := do
    complaint
    return 1
  let several : Task Int := failWith (complain "multiple output formats specified".toList)
  let asked ← match given.filterMapM Dates.patternOf with
    | .ok patterns => pure (patterns.map String.toList)
    | .error message => return ← refuse message 1
  if 1 < asked.length then return ← several
  if let some message := Dates.clash? given none then return ← refuse message 1
  if let some extra := operands[1]? then return ← refuseExtra extra
  let (asked, operand) : List Text × Option Text := match operands with
    | ('+' :: pattern) :: _ => (pattern :: asked, none)
    | operands => (asked, operands.head?)
  if 1 < asked.length then return ← several
  if let some message := Dates.clash? given operand then return ← refuse message 1
  let pattern := asked.head?.getD "%a %b %e %H:%M:%S %Z %Y".toList
  if let some path := given.value? "f" then return ← Dates.showEach zone now pattern path
  match ← Dates.momentAsked zone now given operand with
  | .error complaint => failWith complaint
  | .ok moment =>
    let isSet := given.has "s" || operand.isSome
    if isSet then complain "cannot set date: Operation not permitted".toList
    let isShown ← Dates.showMoment zone pattern moment
    return if isShown ∧ ¬ isSet then 0 else 1

end LineShell.Sh.Tool
