import LineShell.Computer.Text.Calendar

/-!
# How moments are read

A text names a moment by dates, times of day, zones, days of the week and distances, in any order.
What it does not name is taken from the present moment, or is zero.  The text is cut into words and
numbers first, and these are taken from the left; where several readings are possible, the one that
takes more counts.
-/

namespace LineShell.Calendar

/-- What distances are measured in. -/
inductive Span where
  | year
  | month
  | day
  | hour
  | minute
  | second
deriving DecidableEq, Repr

/-- A part of a text that names a moment. -/
inductive Token where
  /-- A number and how many digits it has. -/
  | number (n : Int) (size : Nat)
  /-- A number with a sign. -/
  | signed (n : Int) (size : Nat) (isNegative : Bool)
  /-- A number with a fraction, in nanoseconds. -/
  | decimal (isSigned : Bool) (n : Int) (nanosecond : Nat)
  | month (n : Nat)
  | weekday (n : Nat)
  /-- A half of the day. -/
  | half (isSecond : Bool)
  /-- A zone, by how many seconds its clocks are ahead. -/
  | zone (ahead : Int)
  /-- A zone in summer. -/
  | summerZone (ahead : Int)
  /-- The zone of the place. -/
  | localZone (ahead : Int)
  | summer
  | span (s : Span) (n : Int)
  /-- A number of days. -/
  | shift (n : Int)
  /-- A number that is a word. -/
  | ordinal (n : Int)
  /-- The direction of a distance. -/
  | direction (n : Int)
  | mark (c : Char)
deriving DecidableEq, Repr

namespace Token

/-- Words for halves of the day. -/
def halves : List (String × Bool) :=
  [("AM", false), ("A.M.", false), ("PM", true), ("P.M.", true)]

/-- Other names of months and days of the week. -/
def otherNames : List (String × Token) :=
  [("SEPT", .month 9), ("TUES", .weekday 2), ("WEDNES", .weekday 3), ("THUR", .weekday 4),
    ("THURS", .weekday 4)]

/-- Names of the universal time. -/
def universalNames : List String := ["GMT", "UT", "UTC"]

/-- Names of zones, with how many minutes their clocks are ahead. -/
def zoneNames : List (String × Int) :=
  [("WET", 0), ("ART", -180), ("BRT", -180), ("NST", -210), ("AST", -240), ("CLT", -240),
    ("EST", -300), ("CST", -360), ("MST", -420), ("PST", -480), ("AKST", -540), ("HST", -600),
    ("HAST", -600), ("SST", -720), ("WAT", 60), ("CET", 60), ("MET", 60), ("MEZ", 60), ("EET", 120),
    ("CAT", 120), ("SAST", 120), ("EAT", 180), ("MSK", 180), ("IST", 330), ("SGT", 480),
    ("KST", 540), ("JST", 540), ("GST", 600), ("NZST", 720)]

/-- Names of zones in summer. -/
def summerZoneNames : List (String × Int) :=
  [("WEST", 0), ("BST", 0), ("BRST", -180), ("NDT", -210), ("ADT", -240), ("CLST", -240),
    ("EDT", -300), ("CDT", -360), ("MDT", -420), ("PDT", -480), ("AKDT", -540), ("HADT", -600),
    ("CEST", 60), ("MEST", 60), ("MESZ", 60), ("EEST", 120), ("MSD", 180), ("NZDT", 720)]

/-- Names of spans. -/
def spanNames : List (String × Span × Int) :=
  [("YEAR", .year, 1), ("MONTH", .month, 1), ("FORTNIGHT", .day, 14), ("WEEK", .day, 7),
    ("DAY", .day, 1), ("HOUR", .hour, 1), ("MINUTE", .minute, 1), ("MIN", .minute, 1),
    ("SECOND", .second, 1), ("SEC", .second, 1)]

/-- Words for distances. -/
def distanceNames : List (String × Token) :=
  [("TOMORROW", .shift 1), ("YESTERDAY", .shift (-1)), ("TODAY", .shift 0), ("NOW", .shift 0),
    ("LAST", .ordinal (-1)), ("THIS", .ordinal 0), ("NEXT", .ordinal 1), ("FIRST", .ordinal 1),
    ("THIRD", .ordinal 3), ("FOURTH", .ordinal 4), ("FIFTH", .ordinal 5), ("SIXTH", .ordinal 6),
    ("SEVENTH", .ordinal 7), ("EIGHTH", .ordinal 8), ("NINTH", .ordinal 9), ("TENTH", .ordinal 10),
    ("ELEVENTH", .ordinal 11), ("TWELFTH", .ordinal 12), ("AGO", .direction (-1)),
    ("HENCE", .direction 1)]

/-- The zone that a letter names. -/
def letterZone? (c : Char) : Option Token :=
  let n : Int := c.toNat - 64
  if c = 'Z' then some (.zone 0)
  else if c = 'T' then some (.mark 'T')
  else if c = 'J' ∨ n < 1 ∨ 26 < n then none
  else if n < 10 then some (.zone (3600 * n))
  else if n < 14 then some (.zone (3600 * (n - 1)))
  else some (.zone (-3600 * (n - 13)))

/-- The zone that a name stands for, at a place. -/
def zone? (place : Zone) (name : String) : Option Token :=
  if universalNames.contains name then some (.zone 0)
  else if place.name = name.toList then some (.localZone place.ahead)
  else match zoneNames.lookup name with
    | some n => some (.zone (60 * n))
    | none => (summerZoneNames.lookup name).map fun n => .summerZone (60 * n)

/-- The month or the day of the week that a name stands for, which may be cut after three letters. -/
def dated? (name : Text) : Option Token :=
  let isShort := name.length = 3 || (name.length = 4 && name.getLast? = some '.')
  let isMeant (full : String) : Bool :=
    let full := full.toList.map Char.toUpper
    if isShort then full.take 3 = name.take 3 else full = name
  match months.findIdx? isMeant with
  | some n => some (.month (n + 1))
  | none =>
    match weekdays.findIdx? isMeant with
    | some n => some (.weekday n)
    | none => otherNames.lookup (String.ofList name)

/-- What a span's name stands for. -/
def span? (name : String) : Option Token :=
  (spanNames.lookup name).map fun (s, n) => .span s n

/-- What a word stands for, at a place. -/
def word? (place : Zone) (word : Text) : Option Token :=
  let t := (word.take 19).map Char.toUpper
  let name := String.ofList t
  let singular : Option Token :=
    if t.getLast? = some 'S' then span? (String.ofList t.dropLast) else none
  let letter : Option Token :=
    match t with
    | [c] => letterZone? c
    | _ => none
  let bare := t.filter (· ≠ '.')
  let zoneOfBare := if bare = t then none else zone? place (String.ofList bare)
  ((halves.lookup name).map Token.half).or <| (dated? t).or <| (zone? place name).or <|
    (if name = "DST" then some .summer else none).or <| (span? name).or <| singular.or <|
      (distanceNames.lookup name).or <| letter.or zoneOfBare

/-- What follows a text in brackets. -/
def afterBrackets : (depth : Nat) → Text → Text
  | _, [] => []
  | depth, '(' :: t => afterBrackets (depth + 1) t
  | 0, t => t
  | 1, ')' :: t => t
  | depth + 1, ')' :: t => afterBrackets depth t
  | depth, _ :: t => afterBrackets depth t

/-- The number at the beginning of a text, with a sign that stands in front of it. -/
def number? (sign : Option Bool) (t : Text) : Option (Token × Text) :=
  let ds := t.takeWhile Char.isDigit
  let rest := t.drop ds.length
  let n : Int := digitsValue ds
  let isNegative := sign = some true
  let n := if isNegative then -n else n
  if n < int64Min ∨ int64Max < n then none
  else
    match rest with
    | c :: d :: _ =>
      if (c = '.' || c = ',') && d.isDigit then
        let part := (rest.drop 1).takeWhile Char.isDigit
        let exact := digitsValue ((part ++ List.replicate 9 '0').take 9)
        let nano := if isNegative && (part.drop 9).any (· ≠ '0') then exact + 1 else exact
        let rest := rest.drop (1 + part.length)
        if isNegative && nano ≠ 0 then some (.decimal true (n - 1) (1000000000 - nano), rest)
        else some (.decimal sign.isSome n nano, rest)
      else some (whole n ds.length, rest)
    | rest => some (whole n ds.length, rest)
where
  /-- A number without a fraction. -/
  whole (n : Int) (size : Nat) : Token :=
    match sign with
    | some isNegative => .signed n size isNegative
    | none => .number n size

/-- The parts of a text, at a place, if all of them are known. -/
def all? (place : Zone) : (fuel : Nat) → Text → Option (List Token)
  | 0, _ => some []
  | _, [] => some []
  | fuel + 1, c :: t =>
    if isSpace c then all? place fuel t
    else if c.isDigit then do
      let (token, rest) ← number? none (c :: t)
      return token :: (← all? place fuel rest)
    else if c = '+' ∨ c = '-' then
      let t := t.dropWhile isSpace
      if t.head?.any Char.isDigit then do
        let (token, rest) ← number? (some (c = '-')) t
        return token :: (← all? place fuel rest)
      else all? place fuel t
    else if c.isAlpha then
      let word := (c :: t).takeWhile fun c => c.isAlpha || c = '.'
      match word? place word with
      | none => none
      | some token => (all? place fuel ((c :: t).drop word.length)).map (token :: ·)
    else if c = '(' then all? place fuel (afterBrackets 0 (c :: t))
    else (all? place fuel t).map (.mark c :: ·)

end Token

/-- A distance. -/
structure Distance where
  years : Int
  months : Int
  days : Int
  seconds : Int
  nanoseconds : Int

/-- What has been read of a moment. -/
structure Reading where
  /-- The year, with how many digits it was written. -/
  year : Int × Nat
  month : Int
  day : Int
  hour : Int
  minute : Int
  second : Int
  nanosecond : Nat
  /-- The half of the day to which the hour belongs. -/
  half : Option Bool
  /-- How many seconds the clocks are ahead. -/
  ahead : Int
  /-- A day of the week, and how many of them are passed. -/
  weekday : Nat
  ordinal : Int
  distance : Distance
  hasDistance : Bool
  /-- How many dates have been read, and so on. -/
  dates : Nat
  times : Nat
  weekdays : Nat
  zones : Nat
  summers : Nat

namespace Reading

/-- What is known before something is read: the present moment. -/
def start (now : Moment) : Reading :=
  { year := (now.date.year, 0)
    month := now.date.month
    day := now.date.day
    hour := now.second / 3600
    minute := now.second / 60 % 60
    second := now.second % 60
    nanosecond := now.nanosecond
    half := none
    ahead := 0
    weekday := 0
    ordinal := 0
    distance := ⟨0, 0, 0, 0, 0⟩
    hasDistance := false
    dates := 0
    times := 0
    weekdays := 0
    zones := 0
    summers := 0 }

/-- Takes a time of day. -/
def clock (r : Reading) (hour minute second : Int) (nanosecond : Nat) (half : Option Bool) :
    Reading :=
  { r with hour, minute, second, nanosecond, half, times := r.times + 1 }

/-- Takes a date. -/
def date (r : Reading) (year : Option (Int × Nat)) (month day : Int) : Reading :=
  { r with year := year.getD r.year, month, day, dates := r.dates + 1 }

/-- Takes a day of the week. -/
def ofWeek (r : Reading) (ordinal : Int) (weekday : Nat) : Reading :=
  { r with ordinal, weekday, weekdays := r.weekdays + 1 }

/-- Takes a distance. -/
def shifted (r : Reading) (s : Span) (n : Int) : Reading :=
  let d := r.distance
  let d := match s with
    | .year => { d with years := d.years + n }
    | .month => { d with months := d.months + n }
    | .day => { d with days := d.days + n }
    | .hour => { d with seconds := d.seconds + 3600 * n }
    | .minute => { d with seconds := d.seconds + 60 * n }
    | .second => { d with seconds := d.seconds + n }
  { r with distance := d, hasDistance := true }

/-- Takes a distance, which may have a direction. -/
def directed (r : Reading) (s : Span) (n : Int) : List Token → Reading × List Token
  | .direction sign :: rest => (r.shifted s (sign * n), rest)
  | rest => (r.shifted s n, rest)

/-- Takes a distance in seconds and nanoseconds, which may have a direction. -/
def directedDecimal (r : Reading) (n : Int) (nano : Nat) (rest : List Token) :
    Reading × List Token :=
  let (sign, rest) : Int × List Token := match rest with
    | .direction sign :: rest => (sign, rest)
    | rest => (1, rest)
  let r := r.shifted .second (sign * n)
  let nanoseconds := r.distance.nanoseconds + sign * nano
  ({ r with distance := { r.distance with nanoseconds } }, rest)

/-- Takes digits that stand alone: a year after a date, a date, or a time of day. -/
def digits (r : Reading) (n : Int) (size : Nat) : Reading :=
  if r.dates ≠ 0 ∧ r.year.2 = 0 ∧ ¬ r.hasDistance ∧ (r.times ≠ 0 ∨ 2 < size) then
    { r with year := (n, size) }
  else if 4 < size then r.date (some (n / 10000, size - 4)) (n / 100 % 100) (n % 100)
  else if size ≤ 2 then r.clock n 0 0 0 none
  else r.clock (n / 100) (n % 100) 0 0 none

/-- Takes the distance of a zone: hours, or hours and minutes. -/
def offset? (r : Reading) (n : Int) (size : Nat) (isNegative : Bool) (rest : List Token) :
    Option (Reading × List Token) :=
  let (minutes, rest) : Int × List Token := match rest with
    | .mark ':' :: .number m _ :: rest => (60 * n + (if isNegative then -m else m), rest)
    | rest =>
      let n := if size ≤ 2 then 100 * n else n
      (n.tdiv 100 * 60 + n.tmod 100, rest)
  let isCut : Bool := match rest with
    | .mark ':' :: _ => true
    | _ => false
  if isCut ∨ minutes < -1440 ∨ 1440 < minutes then none
  else some ({ r with ahead := 60 * minutes }, rest)

/-- Takes a zone by its distance, if there is one. -/
def perhapsOffset? (r : Reading) : List Token → Option (Reading × List Token)
  | .signed n size isNegative :: rest =>
    offset? { r with zones := r.zones + 1 } n size isNegative rest
  | rest => some (r, rest)

/-- Takes what follows the hour of a time of day; `withHalf` allows a half of the day. -/
def clockFrom? (r : Reading) (withHalf : Bool) (hour : Int) :
    List Token → Option (Reading × List Token)
  | .signed n size isNegative :: rest =>
    perhapsOffset? (r.clock hour 0 0 0 none) (.signed n size isNegative :: rest)
  | .mark ':' :: .number minute _ :: .mark ':' :: rest => do
    let (second, nano, rest) ← match rest with
      | .number n _ :: rest => some (n, 0, rest)
      | .decimal false n nano :: rest => some (n, nano, rest)
      | _ => none
    ending minute second nano rest
  | .mark ':' :: .number minute _ :: rest => ending minute 0 0 rest
  | _ => none
where
  /-- Takes what follows the numbers. -/
  ending (minute second : Int) (nano : Nat) (rest : List Token) :
      Option (Reading × List Token) :=
    match withHalf, rest with
    | true, .half isSecond :: rest => some (r.clock hour minute second nano (some isSecond), rest)
    | _, rest => perhapsOffset? (r.clock hour minute second nano none) rest

/-- Takes what begins with a number. -/
def fromNumber? (r : Reading) (n : Int) (size : Nat) (ts : List Token) :
    Option (Reading × List Token) :=
  match ts with
  | .half isSecond :: rest => some (r.clock n 0 0 0 (some isSecond), rest)
  | .mark ':' :: _ => clockFrom? r true n ts
  | .mark '/' :: .number a _ :: .mark '/' :: rest =>
    match rest with
    | .number b bSize :: rest =>
      if 4 ≤ size then some (r.date (some (n, size)) a b, rest)
      else some (r.date (some (b, bSize)) n a, rest)
    | _ => none
  | .mark '/' :: .number a _ :: rest => some (r.date none n a, rest)
  | .month m :: .signed y ySize _ :: rest => some (r.date (some (-y, ySize)) m n, rest)
  | .month m :: .number y ySize :: rest => some (r.date (some (y, ySize)) m n, rest)
  | .month m :: rest => some (r.date none m n, rest)
  | .signed m _ _ :: .signed d _ _ :: rest =>
    let dated := r.date (some (n, size)) (-m) (-d)
    match rest with
    | .mark 'T' :: .number hour _ :: rest => clockFrom? dated false hour rest
    | .mark 'T' :: _ => none
    | rest => some (dated, rest)
  | .signed m _ _ :: .span s k :: rest => some ((r.digits n size).shifted s (m * k), rest)
  | .signed _ _ _ :: _ => clockFrom? r true n ts
  | .weekday w :: rest => some (r.ofWeek n w, rest)
  | .span s k :: rest => some (r.directed s (n * k) rest)
  | _ => some (r.digits n size, ts)

/-- Takes what follows a zone. -/
def fromZone? (r : Reading) (ahead : Int) (isNamed : Bool) (ts : List Token) :
    Option (Reading × List Token) :=
  let r := { r with zones := r.zones + 1, ahead }
  match ts with
  | .signed n _ _ :: .span s k :: rest => some (r.shifted s (n * k), rest)
  | .signed n size isNegative :: rest =>
    if isNamed then
      (offset? r n size isNegative rest).map fun (r, rest) =>
        ({ r with ahead := r.ahead + ahead }, rest)
    else none
  | .summer :: rest => if isNamed then some ({ r with ahead := ahead + 3600 }, rest) else some (r, ts)
  | _ => some (r, ts)

/-- Takes the next part of a text. -/
def next? (r : Reading) : List Token → Option (Reading × List Token)
  | .number n size :: rest => fromNumber? r n size rest
  | .signed n _ _ :: .span s k :: rest => some (r.directed s (n * k) rest)
  | .decimal _ n nano :: .span .second _ :: rest => some (r.directedDecimal n nano rest)
  | .ordinal n :: .weekday w :: rest => some (r.ofWeek n w, rest)
  | .ordinal n :: .span s k :: rest => some (r.directed s (n * k) rest)
  | .span s k :: rest => some (r.directed s k rest)
  | .shift n :: rest => some (r.shifted .day n, rest)
  | .weekday w :: .mark ',' :: rest => some (r.ofWeek 0 w, rest)
  | .weekday w :: rest => some (r.ofWeek 0 w, rest)
  | .month m :: .signed d _ _ :: .signed y ySize _ :: rest =>
    some (r.date (some (-y, ySize)) m (-d), rest)
  | .month m :: .number d _ :: .mark ',' :: .number y ySize :: rest =>
    some (r.date (some (y, ySize)) m d, rest)
  | .month _ :: .number _ _ :: .mark ',' :: _ => none
  | .month m :: .number d _ :: rest => some (r.date none m d, rest)
  | .zone ahead :: rest => fromZone? r ahead true rest
  | .mark 'T' :: rest => fromZone? r (-25200) false rest
  | .summerZone ahead :: rest =>
    some ({ r with zones := r.zones + 1, ahead := ahead + 3600 }, rest)
  | .localZone ahead :: .summer :: rest =>
    some ({ r with zones := r.zones + 1, ahead, summers := r.summers + 1 }, rest)
  | .localZone ahead :: rest => some ({ r with zones := r.zones + 1, ahead }, rest)
  | _ => none

/-- Takes the parts of a text, of which there are at most `fuel`. -/
def all? : (fuel : Nat) → Reading → List Token → Option Reading
  | _, r, [] => some r
  | 0, _, _ => none
  | fuel + 1, r, ts => (next? r ts).bind fun (r, rest) => all? fuel r rest

/-- The hour of the day, if there is such an hour. -/
def hourOfDay? (r : Reading) : Option Nat :=
  let n := r.hour
  match r.half with
  | none => if 0 ≤ n ∧ n < 24 then some n.toNat else none
  | some isSecond =>
    if 1 ≤ n ∧ n ≤ 12 then some (n.toNat % 12 + if isSecond then 12 else 0) else none

/-- The year for which two digits stand. -/
def yearOfTwo (n : Int) : Int := if n < 69 then 2000 + n else 1900 + n

/-- The year, of which two digits may stand for four. -/
def fullYear (r : Reading) : Int :=
  let (n, size) := r.year
  if size = 2 ∧ 0 ≤ n then yearOfTwo n else n.natAbs

/-- How great a year or a number of months or days may be. -/
def isNear (n : Int) : Bool := -2147483648 ≤ n && n ≤ 2147483647

/-- The moment that has been read, at a place, in seconds and nanoseconds. -/
def moment? (r : Reading) (place : Zone) : Option (Int × Nat) := do
  guard (r.dates ≤ 1 ∧ r.times ≤ 1 ∧ r.weekdays ≤ 1 ∧ r.zones ≤ 1 ∧ r.summers ≤ 1)
  let year := r.fullYear
  guard (isNear (year - 1900))
  guard (1 ≤ r.month ∧ r.month ≤ 12 ∧ 1 ≤ r.day ∧ r.day ≤ monthLength year r.month.toNat)
  let hasTime := r.times ≠ 0 || (r.hasDistance && r.dates = 0 && r.weekdays = 0)
  let hour ← if hasTime then r.hourOfDay? else some 0
  if hasTime then guard (0 ≤ r.minute ∧ r.minute < 60 ∧ 0 ≤ r.second ∧ r.second < 60)
  let second : Int := if hasTime then 3600 * hour + 60 * r.minute + r.second else 0
  let nano : Int := if hasTime then r.nanosecond else 0
  let day := Date.number ⟨year, r.month.toNat, r.day.toNat⟩
  let date : Date :=
    if r.weekdays ≠ 0 ∧ r.dates = 0 then
      let today := (day + 4).fmod 7
      let passed := if 0 < r.ordinal ∧ today ≠ r.weekday then r.ordinal - 1 else r.ordinal
      Date.ofNumber (day + (r.weekday - today).fmod 7 + 7 * passed)
    else ⟨year, r.month.toNat, r.day.toNat⟩
  let d := r.distance
  let month := (date.month : Int) - 1 + d.months
  let year := date.year + d.years
  guard (isNear (year - 1900) && isNear month && isNear (date.day + d.days))
  let day := Date.number ⟨year + month.fdiv 12, (month.fmod 12).toNat + 1, 1⟩ +
    date.day - 1 + d.days
  let ahead := if r.zones ≠ 0 then r.ahead else place.ahead
  let nano := nano + d.nanoseconds
  let n := day * 86400 + second - ahead + d.seconds + nano.fdiv 1000000000
  guard (isNear ((Date.ofNumber (day : Int)).year - 1900) && int64Min ≤ n && n ≤ int64Max)
  return (n, (nano.fmod 1000000000).toNat)

end Reading

/-- The zone that a text in front of a moment names, and the rest of the text. -/
def placed (place : Zone) (t : Text) : Zone × Text :=
  let t := t.dropWhile isSpace
  if "TZ=\"".toList.isPrefixOf t then
    match quoted [] (t.drop 4) with
    | some (name, rest) => (.ofSetting name, rest.dropWhile isSpace)
    | none => (place, t)
  else (place, t)
where
  /-- The text before a quotation mark, and what follows that. -/
  quoted : (taken : Text) → Text → Option (Text × Text)
    | _, [] => none
    | taken, '"' :: t => some (taken.reverse, t)
    | taken, '\\' :: c :: t =>
      if c = '\\' ∨ c = '"' then quoted (c :: taken) t else none
    | taken, c :: t => quoted (c :: taken) t

/-- The moment that a text names at a place, seen from the present one. -/
def moment? (place : Zone) (now : Int × Nat) (t : Text) : Option (Int × Nat) := do
  let (place, t) := placed place t
  let t := if t.isEmpty then ['0'] else t
  let tokens ← Token.all? place (t.length + 1) t
  match tokens with
  | .mark '@' :: rest =>
    match rest with
    | [.number n _] => some (n, 0)
    | [.signed n _ _] => some (n, 0)
    | [.decimal _ n nano] => some (n, nano)
    | _ => none
  | tokens =>
    let r ← Reading.all? tokens.length (.start (.within place now.1 now.2)) tokens
    r.moment? place

/-- The moment that digits name at a place: month, day, hour and minute, before which or behind which
the year may stand, and behind a point the second. -/
def stamp? (place : Zone) (yearIsLast : Bool) (now : Int) (t : Text) : Option Int :=
  let digits := t.takeWhile Char.isDigit
  let rest := t.drop digits.length
  let second := rest.drop 1
  let yearSize := digits.length - 8
  let (yearDigits, digits) :=
    if yearIsLast then (digits.drop 8, digits.take 8)
    else (digits.take yearSize, digits.drop yearSize)
  let year : Int :=
    if yearSize = 0 then (Moment.within place now 0).date.year
    else if yearSize = 2 then Reading.yearOfTwo (digitsValue yearDigits)
    else digitsValue yearDigits
  let n (i : Nat) : Nat := digitsValue ((digits.drop (2 * i)).take 2)
  let isMarked := rest.head? = some '.' && second.length = 2 && second.all Char.isDigit
  let isWell := digits.length = 8 && [0, 2, 4].contains yearSize && (rest.isEmpty || isMarked)
  if isWell && 1 ≤ n 0 && n 0 ≤ 12 && 1 ≤ n 1 && n 1 ≤ monthLength year (n 0) && n 2 < 24 &&
      n 3 < 60 && digitsValue second ≤ 60 then
    some (Date.number ⟨year, n 0, n 1⟩ * 86400 + n 2 * 3600 + n 3 * 60 + digitsValue second -
      place.ahead)
  else none

end LineShell.Calendar
