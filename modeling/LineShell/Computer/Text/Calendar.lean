import LineShell.Computer.Text.Integer
import LineShell.Text.Pieces

/-!
# The calendar

Moments are seconds since the beginning of 1970.  A zone says how far the clocks of a place are ahead,
and with that a moment has a date and a time of day.  It is written by a pattern whose directives stand
for parts of them.
-/

namespace LineShell.Calendar

/-- A date: year, month and day of the month. -/
structure Date where
  year : Int
  month : Nat
  day : Nat
deriving DecidableEq, Repr

/-- The number of a date's day, counted from the beginning of 1970.  Years begin in March here, so
that the day that some of them lack is their last one. -/
def Date.number (d : Date) : Int :=
  let year := if d.month ≤ 2 then d.year - 1 else d.year
  let month := (d.month + 9) % 12
  let era := year.fdiv 400
  let yearOfEra := year - era * 400
  let dayOfYear : Int := (153 * month + 2) / 5 + d.day - 1
  era * 146097 + yearOfEra * 365 + yearOfEra / 4 - yearOfEra / 100 + dayOfYear - 719468

/-- The date of a day, counted from the beginning of 1970. -/
def Date.ofNumber (n : Int) : Date :=
  let n := n + 719468
  let era := n.fdiv 146097
  let dayOfEra := (n - era * 146097).toNat
  let yearOfEra := (dayOfEra - dayOfEra / 1460 + dayOfEra / 36524 - dayOfEra / 146096) / 365
  let dayOfYear := dayOfEra - (365 * yearOfEra + yearOfEra / 4 - yearOfEra / 100)
  let month := (5 * dayOfYear + 2) / 153
  let day := dayOfYear - (153 * month + 2) / 5 + 1
  let year := era * 400 + yearOfEra
  if month < 10 then ⟨year, month + 3, day⟩ else ⟨year + 1, month - 9, day⟩

example : Date.ofNumber 0 = ⟨1970, 1, 1⟩ := by decide

example : Date.number ⟨2024, 2, 29⟩ = 19782 := by decide

example : Date.ofNumber 19782 = ⟨2024, 2, 29⟩ := by decide

/-- The year has a day more than others. -/
def isLeap (year : Int) : Bool :=
  year % 4 = 0 && (year % 100 ≠ 0 || year % 400 = 0)

/-- How many days a month has. -/
def monthLength (year : Int) (month : Nat) : Nat :=
  if month = 2 then (if isLeap year then 29 else 28)
  else if [4, 6, 9, 11].contains month then 30 else 31

/-- The names of the months. -/
def months : List String :=
  ["January", "February", "March", "April", "May", "June", "July", "August", "September",
    "October", "November", "December"]

/-- The names of the days of the week. -/
def weekdays : List String :=
  ["Sunday", "Monday", "Tuesday", "Wednesday", "Thursday", "Friday", "Saturday"]

/-- A zone: the name of its time, and how many seconds its clocks are ahead. -/
structure Zone where
  name : Text
  ahead : Int
deriving DecidableEq, Repr

namespace Zone

/-- The zone from which the others are counted. -/
def universal : Zone := ⟨"UTC".toList, 0⟩

/-- Hours, minutes and seconds between colons, as seconds. -/
def interval? (t : Text) : Option Nat :=
  let parts := pieces ':' t
  let isWell (ds : Text) : Bool := !ds.isEmpty && ds.length ≤ 2 && ds.all Char.isDigit
  if parts.all isWell && parts.length ≤ 3 then
    let n (i most : Nat) : Nat := min (digitsValue (parts.getD i [])) most
    some (3600 * n 0 24 + 60 * n 1 59 + n 2 59)
  else none

/-- The zone that a setting names: letters or a text in angle brackets, and behind them how many hours
its clocks are behind. -/
def ofSetting (t : Text) : Zone :=
  let t := if t.head? = some ':' then t.tail else t
  let (name, rest) : Text × Text :=
    match t with
    | '<' :: t =>
      let name := t.takeWhile (· ≠ '>')
      (name, t.drop (name.length + 1))
    | t =>
      let name := t.takeWhile Char.isAlpha
      (name, t.drop name.length)
  if t.isEmpty then universal
  else if name.length < 3 then ⟨[], 0⟩
  else
    let (isAhead, clock) := splitSign rest
    let clock := clock.takeWhile fun c => c.isDigit || c = ':'
    match interval? clock with
    | none => ⟨name, 0⟩
    | some n => ⟨name, if isAhead then n else -n⟩

example : ofSetting "ABC-3:30".toList = ⟨"ABC".toList, 12600⟩ := by decide

end Zone

/-- A moment: a date, the second of the day, and the nanosecond in it, by the clocks of a zone. -/
structure Moment where
  date : Date
  second : Nat
  nanosecond : Nat
  zone : Zone
deriving DecidableEq, Repr

namespace Moment

/-- The moment of a number of seconds, by the clocks of a zone. -/
def within (zone : Zone) (n : Int) (nanosecond : Nat) : Moment :=
  let n := n + zone.ahead
  ⟨Date.ofNumber (n.fdiv 86400), (n.fmod 86400).toNat, nanosecond, zone⟩

/-- The moment of a number of seconds. -/
def ofSeconds (n : Int) (nanosecond : Nat) : Moment :=
  within .universal n nanosecond

/-- The day of the week, from Sunday on. -/
def weekday (m : Moment) : Nat := ((m.date.number + 4).fmod 7).toNat

/-- The day of the year, from one on. -/
def yearDay (m : Moment) : Nat :=
  (m.date.number - Date.number ⟨m.date.year, 1, 1⟩).toNat + 1

/-- The seconds since the beginning of 1970. -/
def seconds (m : Moment) : Int := m.date.number * 86400 + m.second - m.zone.ahead

/-- The year and the number of the week in which the moment lies, where weeks begin on Mondays and
the first one has at least four days of the year. -/
def isoWeek (m : Moment) : Int × Nat :=
  let day := (m.weekday + 6) % 7
  let thursday := Date.ofNumber (m.date.number - day + 3)
  let first := Date.number ⟨thursday.year, 1, 1⟩
  (thursday.year, ((thursday.number - first).toNat) / 7 + 1)

end Moment

/-- How a directive is written. -/
structure Shape where
  /-- What fills it up: a zero, a blank, nothing, or a zero after a sign. -/
  fill : Option Char
  /-- Letters become great. -/
  isUpper : Bool
  /-- Letters become great or small, whatever is less usual. -/
  isSwapped : Bool
  width : Option Nat
  /-- A letter that asks for another way to write it. -/
  variant : Option Char
  /-- What fills up years, unless something is asked for. -/
  yearFill : Option Char

namespace Shape

/-- A text that is filled up in front. -/
def filled (s : Shape) (t : Text) : Text :=
  let missing := if s.fill = some '-' then 0 else s.width.getD 0 - t.length
  let c := if s.fill = some '0' ∨ s.fill = some '+' then '0' else ' '
  List.replicate missing c ++ t

/-- A word. -/
def word (s : Shape) (t : Text) : Text :=
  s.filled (if s.isUpper then t.map Char.toUpper else t)

/-- A word of which the usual letters are great. -/
def capitals (s : Shape) (t : Text) : Text :=
  if s.isSwapped then s.filled (t.map Char.toLower) else s.word t

/-- Digits, of which there are usually so many, after a sign if there is one. -/
def digits (s : Shape) (usual : Nat) (sign : Option Char) (ds : Text) : Text :=
  let s := { s with fill := some (s.fill.getD '0'), width := some (s.width.getD usual) }
  match sign with
  | none => s.filled ds
  | some c =>
    if s.fill = some '_' then s.filled (c :: ds)
    else c :: Shape.filled { s with width := s.width.map (· - 1) } ds

/-- A number, of which there are usually so many digits. -/
def number (s : Shape) (usual : Nat) (n : Nat) : Text :=
  s.digits usual none (numeral n)

/-- A number that is usually filled up with blanks. -/
def blankNumber (s : Shape) (usual : Nat) (n : Nat) : Text :=
  Shape.number { s with fill := some (s.fill.getD '_') } usual n

/-- A year or a part of one. -/
def year (s : Shape) (usual : Nat) (n : Int) : Text :=
  let s := { s with fill := s.fill.or s.yearFill }
  let isGreat := (if usual = 2 then 99 else 9999) < n.natAbs
  let isSigned := s.fill = some '+' && (isGreat || s.width.any (usual < ·))
  let sign := if n < 0 then some '-' else if isSigned then some '+' else none
  s.digits usual sign (numeral n.natAbs)

/-- The nanosecond, or as many of its first digits as the width says. -/
def fraction (s : Shape) (n : Nat) : Text :=
  let width := match s.width with
    | some 0 => 9
    | some w => w
    | none => 9
  let shown := (List.replicate (9 - (numeral n).length) '0' ++ numeral n).take width
  let shown := (shown.reverse.dropWhile (· = '0')).reverse
  let shown := if shown.isEmpty then ['0'] else shown
  let missing := if s.fill = some '-' then 0 else width - shown.length
  shown ++ List.replicate missing (if s.fill = some '_' then ' ' else '0')

end Shape

namespace Moment

/-- The distance of the zone, with so many colons in it. -/
def distance (m : Moment) (s : Shape) (colons : Nat) : Option Text :=
  let n := m.zone.ahead.natAbs
  let sign := some (if m.zone.ahead < 0 then '-' else '+')
  let hours := numeral (n / 3600)
  let two (n : Nat) : Text := paddedNumeral 2 n
  let minute := n / 60 % 60
  let withMinute := s.digits 6 sign (hours ++ ':' :: two minute)
  let withSecond := s.digits 9 sign (hours ++ ':' :: two minute ++ ':' :: two (n % 60))
  match colons with
  | 0 => some (s.digits 5 sign (numeral (n / 3600 * 100 + minute)))
  | 1 => some withMinute
  | 2 => some withSecond
  | 3 =>
    if n % 60 ≠ 0 then some withSecond
    else if minute ≠ 0 then some withMinute
    else some (s.digits 3 sign hours)
  | _ => none

/-- What a directive stands for; `part` writes by a pattern. -/
def directive (m : Moment) (part : Shape → Text → Text) (s : Shape) (c : Char) : Option Text :=
  let hour := m.second / 3600
  let hour12 := if hour % 12 = 0 then 12 else hour % 12
  let name (names : List String) (i : Nat) : Text := (names.getD i "").toList
  let named : Shape := { s with isUpper := s.isUpper || s.isSwapped }
  let inner : Shape := ⟨none, s.isUpper, false, none, none, s.fill⟩
  let whole (pattern : String) : Text := s.filled (part inner pattern.toList)
  let without (variants : String) (t : Text) : Option Text :=
    if s.variant.any variants.toList.contains then none else some t
  let year := m.date.year
  let lastTwo (year : Int) : Int := year.natAbs % 100
  match c with
  | 'a' => without "EO" (named.word ((name weekdays m.weekday).take 3))
  | 'A' => without "EO" (named.word (name weekdays m.weekday))
  | 'b' => without "E" (named.word ((name months (m.date.month - 1)).take 3))
  | 'h' => without "E" (named.word ((name months (m.date.month - 1)).take 3))
  | 'B' => without "E" (named.word (name months (m.date.month - 1)))
  | 'c' =>
    let inner : Shape := { inner with yearFill := some '-' }
    without "O" (s.filled (part inner "%a %b %e %H:%M:%S %Y".toList))
  | 'C' => some (s.year 2 (if year < 0 then -(year.natAbs / 100 : Int) else year / 100))
  | 'x' => without "O" (whole "%m/%d/%y")
  | 'D' => without "EO" (whole "%m/%d/%y")
  | 'd' => without "E" (s.number 2 m.date.day)
  | 'e' => without "E" (s.blankNumber 2 m.date.day)
  | 'F' =>
    let isUsual := s.fill.isNone && s.width.isNone
    let fill := if isUsual then some '+' else s.fill
    let width := if isUsual then 4 else s.width.getD 0 - 6
    let inner : Shape := ⟨none, s.isUpper, false, some width, none, fill⟩
    without "EO" (Shape.filled { s with fill } (part inner "%Y-%m-%d".toList))
  | 'H' => without "E" (s.number 2 hour)
  | 'I' => without "E" (s.number 2 hour12)
  | 'k' => without "E" (s.blankNumber 2 hour)
  | 'l' => without "E" (s.blankNumber 2 hour12)
  | 'j' => without "E" (s.number 3 m.yearDay)
  | 'M' => without "E" (s.number 2 (m.second / 60 % 60))
  | 'm' => without "E" (s.number 2 m.date.month)
  | 'N' => without "E" (s.fraction m.nanosecond)
  | 'n' => some (s.filled ['\n'])
  | 'P' => some (s.filled (if hour < 12 then "am".toList else "pm".toList))
  | 'p' => some (s.capitals (if hour < 12 then "AM".toList else "PM".toList))
  | 'q' => some (s.number 1 ((m.date.month - 1) / 3 + 1))
  | 'R' => some (whole "%H:%M")
  | 'r' => some (whole "%I:%M:%S %p")
  | 'S' => without "E" (s.number 2 (m.second % 60))
  | 's' =>
    let n := m.seconds
    some (s.digits 1 (if n < 0 then some '-' else none) (numeral n.natAbs))
  | 'X' => without "O" (whole "%H:%M:%S")
  | 'T' => some (whole "%H:%M:%S")
  | 't' => some (s.filled ['\t'])
  | 'u' => some (s.number 1 (if m.weekday = 0 then 7 else m.weekday))
  | 'U' => without "E" (s.number 2 ((m.yearDay + 6 - m.weekday) / 7))
  | 'V' => without "E" (s.number 2 m.isoWeek.2)
  | 'g' => without "E" (s.year 2 (lastTwo m.isoWeek.1))
  | 'G' => without "E" (s.year 4 m.isoWeek.1)
  | 'W' => without "E" (s.number 2 ((m.yearDay + 6 - (m.weekday + 6) % 7) / 7))
  | 'w' => without "E" (s.number 1 m.weekday)
  | 'Y' => without "O" (s.year 4 year)
  | 'y' => some (s.year 2 (lastTwo year))
  | 'Z' => some (s.capitals m.zone.name)
  | _ => none

/-- Writes by a pattern, where `part` writes by the patterns that directives stand for and `first`
tells how the first directive is written. -/
def scan (m : Moment) (part : Shape → Text → Text) (first : Shape) : (fuel : Nat) → Text → Text
  | 0, t => t
  | _, [] => []
  | fuel + 1, '%' :: t =>
    let flags := t.takeWhile "_-+0^#".toList.contains
    let t1 := t.drop flags.length
    let width := t1.takeWhile Char.isDigit
    let t2 := t1.drop width.length
    let variant := t2.head?.filter "EO".toList.contains
    let t3 := t2.drop variant.toList.length
    let colons := t3.takeWhile (· = ':')
    let shape : Shape := {
      fill := (flags.filter "_-+0".toList.contains).getLast?
      isUpper := first.isUpper || flags.contains '^'
      isSwapped := flags.contains '#'
      width := if width.isEmpty then first.width else some (digitsValue width)
      variant := variant
      yearFill := first.yearFill }
    let goOn (rest : Text) : Text := scan m part { first with width := none } fuel rest
    let asItStands (rest : Text) : Text :=
      shape.word ('%' :: t.take (t.length - rest.length)) ++ goOn rest
    match t3.drop colons.length with
    | 'z' :: rest =>
      match m.distance shape colons.length with
      | some shown => shown ++ goOn rest
      | none => asItStands (t3.drop 1)
    | _ =>
      match t3 with
      | [] => asItStands []
      | '%' :: rest =>
        if rest.length + 1 = t.length then '%' :: goOn rest else asItStands t3
      | c :: rest =>
        match m.directive part shape c with
        | some shown => shown ++ goOn rest
        | none => asItStands rest
  | fuel + 1, c :: t => c :: scan m part first fuel t

/-- Writes by a pattern, where directives stand for patterns to a depth. -/
def writtenTo (m : Moment) : (depth : Nat) → Shape → Text → Text
  | 0, _, _ => []
  | depth + 1, first, pattern => m.scan (m.writtenTo depth) first pattern.length pattern

/-- A moment written by a pattern. -/
def written (m : Moment) (pattern : Text) : Text :=
  m.writtenTo 3 ⟨none, false, false, none, none, none⟩ pattern

end Moment

end LineShell.Calendar
