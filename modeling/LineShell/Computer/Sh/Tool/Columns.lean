import LineShell.Computer.Sh.Tool.Basic

/-!
# Columns

Tools that look at the columns in which the bytes of a line stand: they break long lines, and put
blanks in the stead of tabs or tabs in the stead of blanks.
-/

namespace LineShell.Sh.Tool

/-- How `fold` takes options. -/
def foldUsage : Usage :=
  .free (OptionForm.flags [('b', "bytes"), ('s', "spaces")] ++
    OptionForm.valuedFlags [('w', "width")])

/-- The column after a byte. -/
def columnAfter (bytesOnly : Bool) (column : Nat) (b : UInt8) : Nat :=
  if bytesOnly then column + 1
  else if b = 0x08 then column - 1
  else if b = 0x0D then 0
  else if b = 0x09 then column / 8 * 8 + 8
  else column + 1

/-- A byte is a blank within a line. -/
def isBlankByte (b : UInt8) : Bool := b = 0x20 || b = 0x09

/-- A line broken so that no part takes up more columns than `width`, after a blank if that is asked
for and possible.  `reversed` is the part so far, last byte first, which ends at `column`. -/
def folded (bytesOnly atBlanks : Bool) (width : Nat) :
    (fuel : Nat) → (reversed : List UInt8) → (column : Nat) → List UInt8 → List (List UInt8)
  | 0, reversed, _, rest => [reversed.reverse ++ rest]
  | _, reversed, _, [] => if reversed.isEmpty then [] else [reversed.reverse]
  | fuel + 1, reversed, column, b :: bs =>
    let after := columnAfter bytesOnly column b
    if after ≤ width then folded bytesOnly atBlanks width fuel (b :: reversed) after bs
    else
      let tail := reversed.takeWhile (!isBlankByte ·)
      if atBlanks ∧ tail.length < reversed.length then
        let kept := tail.reverse
        (reversed.drop tail.length).reverse ::
          folded bytesOnly atBlanks width fuel tail
            (kept.foldl (columnAfter bytesOnly) 0) (b :: bs)
      else if reversed.isEmpty then
        folded bytesOnly atBlanks width fuel [b] after bs
      else
        reversed.reverse :: folded bytesOnly atBlanks width fuel [] 0 (b :: bs)

/-- Options in which a number stands for an option of its own. -/
def withNumbers (letter : Char) (arguments : List Text) : List Text :=
  match arguments with
  | [] => []
  | ('-' :: c :: t) :: rest =>
    if c.isDigit then ('-' :: letter :: c :: t) :: withNumbers letter rest
    else if c = '-' ∧ t.isEmpty then ('-' :: c :: t) :: rest
    else ('-' :: c :: t) :: withNumbers letter rest
  | t :: rest => t :: withNumbers letter rest

/-- Breaks long lines. -/
def fold (arguments : List Text) : Task Int := do
  let run (given : Given) (paths : List Text) : Task Int := do
    let asked := (given.value? "w").getD "80".toList
    match wholeInteger? false asked with
    | none => complainOfColumns asked
    | some n =>
      if n ≤ 0 then complainOfColumns asked
      else
        let use (_ : Unit) (line : List UInt8) (isWhole : Bool) : Task (Except Unit Unit) := do
          let parts := folded (given.has "b") (given.has "s") n.toNat (4 * line.length + 4) [] 0 line
          emit ([newline].intercalate parts ++ if isWhole then [newline] else [])
          return .ok ()
        let (_, succeeds) ← eachLineOf complainAbout newline use () paths
        return if succeeds then 0 else 1
  foldUsage.call run (withNumbers 'w' arguments)
where
  /-- Complains of a number of columns. -/
  complainOfColumns (t : Text) : Task Int := do
    complain ("invalid number of columns: ".toList ++ Quoting.word t)
    return 1

/-- Where tabs go to: columns in order, and how it goes on after them. -/
structure TabStops where
  columns : List Nat
  /-- The distance of further stops. -/
  distance : Option Nat
  /-- Further stops are counted from the last column, not from the beginning of the line. -/
  isRelative : Bool

namespace TabStops

/-- The stop after a column, if there is one. -/
def next? (s : TabStops) (column : Nat) : Option Nat :=
  match s.columns.find? (column < ·), s.distance with
  | some stop, _ => some stop
  | none, none => none
  | none, some d =>
    let start := if s.isRelative then s.columns.getLastD 0 else 0
    some (start + ((column - start) / d + 1) * d)

/-- The numbers of a list. -/
def numbers (t : Text) : List Text :=
  ((pieces ',' (t.map fun c => if c = ' ' ∨ c = '\t' then ',' else c))).filter (!·.isEmpty)

/-- The stops that a list names, or what is wrong with it. -/
def ofText (t : Text) : Except Text TabStops := do
  let mut columns : List Nat := []
  let mut distance : Option Nat := none
  let mut isRelative := false
  for item in numbers t do
    let (mark, digits) : Option Char × Text := match item with
      | '/' :: ds => (some '/', ds)
      | '+' :: ds => (some '+', ds)
      | ds => (none, ds)
    let rest := digits.dropWhile Char.isDigit
    if ¬ rest.isEmpty then
      throw ("tab size contains invalid character(s): ".toList ++ Quoting.word rest)
    let n := digitsValue digits
    if mark.isSome then
      if n ≠ 0 then
        distance := some n
        isRelative := mark = some '+'
    else
      if n = 0 then throw "tab size cannot be 0".toList
      if columns.getLast?.any (n ≤ ·) then throw "tab sizes must be ascending".toList
      columns := columns ++ [n]
  match columns, distance with
  | [], none => return ⟨[], some 8, false⟩
  | [n], none => return ⟨[], some n, false⟩
  | _, _ => return ⟨columns, distance, isRelative⟩

end TabStops

/-- A line with blanks in the stead of its tabs; only those before anything else if `initial`. -/
def expanded (stops : TabStops) (initial : Bool) :
    (converts : Bool) → (column : Nat) → List UInt8 → List UInt8
  | _, _, [] => []
  | false, _, bs => bs
  | true, column, b :: bs =>
    let goesOn := !initial || isBlankByte b
    if b = 0x09 then
      let stop := (stops.next? column).getD (column + 1)
      List.replicate (stop - column) 0x20 ++ expanded stops initial true stop bs
    else
      let after := if b = 0x08 then column - 1 else column + 1
      b :: expanded stops initial goesOn after bs

/-- How `expand` takes options. -/
def expandUsage : Usage :=
  .free (OptionForm.flags [('i', "initial")] ++ OptionForm.valuedFlags [('t', "tabs")])

/-- Does something with the lines of files, with the tab stops that options name. -/
def withStops (given : Given) (paths : List Text)
    (line : TabStops → List UInt8 → List UInt8) : Task Int := do
  match TabStops.ofText ([','].intercalate (given.values "t")) with
  | .error message =>
    complain message
    return 1
  | .ok stops =>
    let use (_ : Unit) (bytes : List UInt8) (isWhole : Bool) : Task (Except Unit Unit) := do
      emit (line stops bytes ++ if isWhole then [newline] else [])
      return .ok ()
    let (_, succeeds) ← eachLineOf complainAbout newline use () paths
    return if succeeds then 0 else 1

/-- Puts blanks in the stead of tabs. -/
def expand (arguments : List Text) : Task Int := do
  let run (given : Given) (paths : List Text) : Task Int :=
    withStops given paths fun stops line => expanded stops (given.has "i") true 0 line
  expandUsage.call run (withNumbers 't' arguments)

/-- Where putting tabs into a line has come to. -/
structure Tabbing where
  converts : Bool
  column : Nat
  /-- The blanks that may still become tabs, last one first. -/
  pending : List UInt8
  /-- The first of them came just before a stop. -/
  beforeStop : Bool
  /-- The last byte was a blank. -/
  afterBlank : Bool

namespace Tabbing

/-- The blanks that are pending, as they are written. -/
def flushed (s : Tabbing) : List UInt8 :=
  let bytes := s.pending.reverse
  if 1 < bytes.length ∧ s.beforeStop then 0x09 :: bytes.tail else bytes

/-- A byte is written after all that is pending. -/
def settle (whole : Bool) (b : UInt8) (isBlank : Bool) (s : Tabbing) : Tabbing × List UInt8 :=
  ({ s with
      pending := []
      beforeStop := s.pending.isEmpty && s.beforeStop
      afterBlank := isBlank
      converts := s.converts && (whole || isBlank) }, s.flushed ++ [b])

/-- Takes one more byte, and gives what is written. -/
def take (stops : TabStops) (whole : Bool) (s : Tabbing) (b : UInt8) : Tabbing × List UInt8 :=
  if ¬ s.converts then (s, [b])
  else if isBlankByte b then
    match stops.next? s.column with
    | none => settle whole b true { s with converts := false }
    | some stop =>
      if b = 0x09 then
        let pending : List UInt8 := if s.pending.isEmpty then [] else
          if s.beforeStop then [0x09] else []
        settle whole b true { s with column := stop, pending }
      else
        let column := s.column + 1
        if s.afterBlank ∧ column = stop then
          let pending : List UInt8 := if s.beforeStop then [0x09] else []
          settle whole 0x09 true { s with column, pending }
        else
          ({ s with
              column
              beforeStop := s.beforeStop || column = stop
              pending := b :: s.pending
              afterBlank := true }, [])
  else
    settle whole b false { s with column := if b = 0x08 then s.column - 1 else s.column + 1 }

/-- What is written for some bytes. -/
def line (stops : TabStops) (whole : Bool) : Tabbing → List UInt8 → List UInt8
  | s, [] => s.flushed
  | s, b :: bs =>
    let (s, written) := s.take stops whole b
    written ++ line stops whole s bs

end Tabbing

/-- How `unexpand` takes options. -/
def unexpandUsage : Usage :=
  .free (OptionForm.flags [('a', "all")] ++ OptionForm.names ["first-only"] ++
    OptionForm.valuedFlags [('t', "tabs")])

/-- Puts tabs in the stead of blanks. -/
def unexpand (arguments : List Text) : Task Int := do
  let run (given : Given) (paths : List Text) : Task Int :=
    let whole := (given.has "a" || given.has "t") && !given.has "first-only"
    withStops given paths fun stops line =>
      Tabbing.line stops whole ⟨true, 0, [], false, true⟩ line
  unexpandUsage.call run (withNumbers 't' arguments)

end LineShell.Sh.Tool
