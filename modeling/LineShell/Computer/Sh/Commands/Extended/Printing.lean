import LineShell.Computer.Sh.Commands.Extended.Basic
import LineShell.Computer.Sh.Format
import LineShell.Computer.Text.Calendar

/-!
# Commands of the extended language that print

Arguments as they are or with their escapes, and formats with more directives than there are in the
common language: words that can be read again, and dates.
-/

namespace LineShell.Sh.Commands.Extended

namespace Printing

/-- A text with its escapes carried out, in at most `fuel` steps, and whether all of it is written.
Octal digits follow a zero, or the backslash itself if they are `bare`. -/
def escaped (bare : Bool) : (fuel : Nat) → Text → Text × Bool
  | 0, t => (t, true)
  | _, [] => ([], true)
  | _ + 1, '\\' :: 'c' :: _ => ([], false)
  | fuel + 1, '\\' :: c :: t =>
    let (found, rest) : Text × Text :=
      if c = '0' then
        match Quotation.number? 8 3 t with
        | some (n, rest) => ([Char.ofNat (n % 256)], rest)
        | none => (['\x00'], t)
      else if '1' ≤ c ∧ c ≤ '7' then
        if bare then Quotation.escape (c :: t) else (['\\', c], t)
      else if ['\'', '"', '?'].contains c then (['\\', c], t)
      else Quotation.escape (c :: t)
    let (more, whole) := escaped bare fuel rest
    (found ++ more, whole)
  | fuel + 1, c :: t =>
    let (more, whole) := escaped bare fuel t
    (c :: more, whole)

/-- The options in front of the arguments that are echoed, and the arguments. -/
def echoOptions : List Text → Text × List Text
  | ('-' :: c :: cs) :: rest =>
    if (c :: cs).all ['n', 'e', 'E'].contains then
      let (more, rest) := echoOptions rest
      (c :: cs ++ more, rest)
    else ([], ('-' :: c :: cs) :: rest)
  | rest => ([], rest)

/-- A directive of a format. -/
structure Directive where
  flags : Text
  width : Format.Count
  precision : Option Format.Count
  letter : Char
  /-- The pattern of a date. -/
  pattern : Text

/-- One element of a format. -/
inductive Element where
  | text (t : Text)
  | directive (d : Directive)
  /-- What begins like a directive and is none, and why. -/
  | faulty (message : Text)

/-- The directive after a percent sign, and what follows it. -/
def directive (t : Text) : Element × Text :=
  let flags := t.takeWhile ("#'-+ 0".toList.contains ·)
  let (width, rest) := Format.count (t.drop flags.length)
  let (precision, rest) : Option Format.Count × Text :=
    match rest with
    | '.' :: rest => ((Format.count rest).1, (Format.count rest).2)
    | _ => (none, rest)
  let rest := rest.dropWhile ("hlLjtz".toList.contains ·)
  let fault (shown : Text) (what : String) : Element :=
    .faulty ('\x60' :: shown ++ "': ".toList ++ what.toList ++ " format character".toList)
  match rest with
  | [] => (fault ('%' :: t) "missing", [])
  | '(' :: rest =>
    let pattern := rest.takeWhile (· ≠ ')')
    match rest.drop pattern.length with
    | ')' :: 'T' :: rest => (.directive ⟨flags, width, precision, 'T', pattern⟩, rest)
    | _ => (fault ['('] "invalid", [])
  | letter :: rest =>
    if "diouxXaAeEfFgGcsbqQn".toList.contains letter then
      (.directive ⟨flags, width, precision, letter, []⟩, rest)
    else (fault [letter] "invalid", [])

/-- The elements of a format, read in at most `fuel` steps. -/
def elements : (fuel : Nat) → Text → List Element
  | 0, _ => []
  | _, [] => []
  | fuel + 1, '\\' :: t =>
    let (found, rest) := match t with
      | 'c' :: rest => (['\\', 'c'], rest)
      | t => Quotation.escape t
    .text found :: elements fuel rest
  | fuel + 1, '%' :: '%' :: t => .text ['%'] :: elements fuel t
  | fuel + 1, '%' :: t =>
    let (element, rest) := directive t
    element :: elements fuel rest
  | fuel + 1, c :: t => .text [c] :: elements fuel t

/-- What has been written so far. -/
structure Output where
  /-- The texts, last one first. -/
  pieces : List Text
  /-- The arguments that are left. -/
  arguments : List Text
  /-- What is wrong, last fault first. -/
  faults : List Text
  /-- Something was no number, or the format is faulty. -/
  hasFailed : Bool
  /-- The output goes on. -/
  goesOn : Bool
  /-- The variables that get the size of what was written before them. -/
  sizes : List (Text × Nat)

namespace Output

/-- Takes one argument. -/
def take (o : Output) : Option Text × Output :=
  (o.arguments.head?, { o with arguments := o.arguments.tail })

/-- Adds a text. -/
def add (o : Output) (t : Text) : Output :=
  { o with pieces := t :: o.pieces }

/-- Notes a fault. -/
def blame (o : Output) (t : Text) : Output :=
  { o with faults := (t ++ ": invalid number".toList) :: o.faults, hasFailed := true }

/-- The integer that an argument denotes, which is one with a sign or without. -/
def integer (o : Output) (isSigned : Bool) (t : Text) : Int × Output :=
  match t with
  | [] => (0, o)
  | q :: rest =>
    if q = '\'' ∨ q = '"' then
      (((Raw.characters rest).headD '\x00').toNat, o)
    else
      match LeadingInteger.ofText? true t with
      | none => (0, o.blame t)
      | some i =>
        let greatest : Int := if isSigned then int64Max else Arithmetic.wordValues - 1
        let least : Int := if isSigned then int64Min else -greatest
        let n := if i.value < least then least else if greatest < i.value then greatest else i.value
        let o := if n = i.value then o
          else { o with faults := ("warning: ".toList ++ t ++
            ": Numerical result out of range".toList) :: o.faults }
        (n, if i.left.isEmpty then o else o.blame t)

/-- The number with a fraction that an argument denotes. -/
def fraction (o : Output) (t : Text) : Binary × Output :=
  match t with
  | [] => (.ofNat .great 0, o)
  | q :: rest =>
    if q = '\'' ∨ q = '"' then
      (.ofNat .great ((Raw.characters rest).headD '\x00').toNat, o)
    else
      match Binary.ofText? .great t with
      | none => (.ofNat .great 0, o.blame t)
      | some (x, left) => (x.value, if left.isEmpty then o else o.blame t)

/-- A number of a directive. -/
def count (o : Output) : Format.Count → Int × Output
  | .given n => (n, o)
  | .next =>
    match o.take with
    | (some t, o) => o.integer true t
    | (none, o) => (0, o)

/-- Writes what a directive asks for. -/
def apply (now : Int) (o : Output) (d : Directive) : Output :=
  let (width, o) := o.count d.width
  let ((precision, o) : Option Int × Output) :=
    match d.precision with
    | none => (none, o)
    | some c => ((o.count c).1 |> some, (o.count c).2)
  let flags := if width < 0 then '-' :: d.flags else d.flags
  let width := width.natAbs
  let precision := (precision.filter (0 ≤ ·)).map Int.toNat
  let cut (t : Text) : Text :=
    match precision with
    | some n => t.take n
    | none => t
  let padded (t : Text) : Text := Format.padded flags width t
  let (argument, o) := o.take
  let t := argument.getD []
  match d.letter with
  | 's' => o.add (padded (cut t))
  | 'c' => o.add (padded (t.take 1))
  | 'b' =>
    let (t, whole) := escaped true (t.length + 1) t
    { o.add (padded (cut t)) with goesOn := whole }
  | 'q' => o.add (padded (cut (Quotation.asWord t)))
  | 'Q' => o.add (padded (Quotation.asWord (cut t)))
  | 'n' => { o with sizes := o.sizes ++ [(t, o.pieces.flatten.length)] }
  | 'T' =>
    let (seconds, o) : Int × Output :=
      if argument.isNone then (now, o)
      else
        let (n, o) := o.integer true t
        (if n = -1 ∨ n = -2 then now else n, o)
    let pattern := if d.pattern.isEmpty then "%X".toList else d.pattern
    let seconds' := numeral seconds.natAbs
    let pattern := (replaceSeconds (pattern.length + 1) seconds' pattern)
    o.add (padded (cut ((Calendar.Moment.ofSeconds seconds 0).written pattern)))
  | letter =>
    if "diouxX".toList.contains letter then
      let (n, o) := if argument.isNone then (0, o) else o.integer (letter = 'd' ∨ letter = 'i') t
      o.add (Format.integer flags width precision letter n)
    else
      let (x, o) := if argument.isNone then (.ofNat .great 0, o) else o.fraction t
      o.add (Format.fraction .great flags width precision letter x)
where
  /-- A pattern in which the seconds since the epoch are filled in. -/
  replaceSeconds : (fuel : Nat) → Text → Text → Text
    | 0, _, t => t
    | fuel + 1, n, '%' :: 's' :: t => n ++ replaceSeconds fuel n t
    | fuel + 1, n, '%' :: '%' :: t => '%' :: '%' :: replaceSeconds fuel n t
    | fuel + 1, n, c :: t => c :: replaceSeconds fuel n t
    | _ + 1, _, [] => []

/-- Writes one element. -/
def write (now : Int) (o : Output) (e : Element) : Output :=
  if !o.goesOn then o
  else
    match e with
    | .text t => o.add t
    | .faulty message => { o with faults := message :: o.faults, hasFailed := true, goesOn := false }
    | .directive d => o.apply now d

/-- Writes a format, again and again until its arguments are used up. -/
def writeAll (now : Int) (es : List Element) : (fuel : Nat) → Output → Output
  | 0, o => o
  | fuel + 1, o =>
    let o' := es.foldl (write now) o
    if o'.arguments.isEmpty ∨ o'.arguments.length = o.arguments.length ∨ ¬ o'.goesOn then o'
    else writeAll now es fuel o'

end Output

end Printing

/-- Writes arguments. -/
def echo (arguments : List Text) : Task Int := do
  let (letters, texts) := Printing.echoOptions arguments
  let always := (← Task.process).extras.settings.contains "xpg_echo".toList
  let expands : Bool := match letters.reverse.find? (· ≠ 'n') with
    | some c => c = 'e'
    | none => always
  let t := [' '].intercalate texts
  let (t, whole) := if expands then Printing.escaped false (t.length + 1) t else (t, true)
  let ending := if whole ∧ ¬ letters.contains 'n' then ['\n'] else []
  let _ ← Task.write 1 (Raw.bytes (t ++ ending))
  return 0

/-- Writes a format, or makes it the value of a variable. -/
def printf (arguments : List Text) : Task Int := do
  let (given, rest) ← optionsOf "" "v" arguments
  match rest with
  | [] => mistaken
  | format :: rest =>
    let target ← match value? given 'v' with
      | none => pure none
      | some word =>
        match target? word with
        | some target => pure (some target)
        | none =>
          Task.complain (notName word)
          failWith 2
    let now : Int := (← Task.process).time / 1000000
    let es := Printing.elements (format.length + 1) format
    let o := Printing.Output.writeAll now es (rest.length + 1) ⟨[], rest, [], false, true, []⟩
    for message in o.faults.reverse do
      Task.complain message
    for (name, size) in o.sizes do
      if !name.isEmpty then Values.assign name none false (numeral size)
    let t := o.pieces.reverse.flatten
    match target with
    | some (name, key) => Values.assign name key false t
    | none =>
      let _ ← Task.write 1 (Raw.bytes t)
    return if o.hasFailed then 1 else 0

end LineShell.Sh.Commands.Extended
