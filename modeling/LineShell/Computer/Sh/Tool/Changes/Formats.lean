import LineShell.Computer.Sh.Format
import LineShell.Computer.Sh.Tool.Changes.Printing

/-!
# Formats for parts of two texts

Two texts can be written in one, where each part is written by a format: lines that are the same, lines
of one text only, and lines that are changed.  Formats for parts stand for lines, for their numbers and
for choices between other formats; formats for lines stand for a line and its number.
-/

namespace LineShell.Sh.Tool.Changes

/-- Which lines a part holds. -/
inductive Side where
  | first
  | second
  | both
deriving DecidableEq, Repr

/-- The formats by which two texts are written in one. -/
structure Formats where
  line : Side → Text
  group : Side → Text
  /-- How changed lines are written. -/
  changed : Text

/-- A part of two texts that are written in one. -/
structure Group where
  first : Lines
  second : Lines

namespace Formats

/-- The number that a letter stands for: the first line, the last one, those around them, or how many
there are, in the first text or in the second one. -/
def letterValue? (g : Group) (c : Char) : Option Nat :=
  let part := if c.isUpper then g.second else g.first
  match c.toLower with
  | 'e' => some part.start
  | 'f' => some (part.start + 1)
  | 'l' => some part.stop
  | 'm' => some (part.stop + 1)
  | 'n' => some (part.stop - part.start)
  | _ => none

/-- The character between quotes at the beginning of a text. -/
def quoted? : Text → Option (Char × Text)
  | '\'' :: '\\' :: rest =>
    let digits := rest.takeWhile fun c => '0' ≤ c && c ≤ '7'
    match rest.drop digits.length with
    | '\'' :: rest =>
      if digits.isEmpty ∨ 3 < digits.length then none
      else some (Char.ofNat (digitsIn 8 digits % 256), rest)
    | _ => none
  | '\'' :: c :: '\'' :: rest => if c = '\'' then none else some (c, rest)
  | _ => none

/-- What a directive at the beginning of a text stands for, and what follows it; `value?` gives the
number of a letter. -/
def directive? (value? : Char → Option Nat) (t : Text) : Option (Text × Text) :=
  let flags := t.takeWhile "-'0".toList.contains
  let t := t.drop flags.length
  let width := t.takeWhile Char.isDigit
  let t := t.drop width.length
  let (precision, t) : Option Nat × Text := match t with
    | '.' :: t =>
      let ds := t.takeWhile Char.isDigit
      (some (digitsValue ds), t.drop ds.length)
    | t => (none, t)
  match t with
  | 'c' :: rest => (quoted? rest).map fun (c, rest) => ([c], rest)
  | kind :: letter :: rest =>
    if "doxX".toList.contains kind then
      (value? letter).map fun n =>
        (Format.integer flags (digitsValue width) precision kind n, rest)
    else none
  | _ => none

/-- A line written by a format. -/
def lineBy (r : Report) (s : Sheet) (i : Nat) : (fuel : Nat) → Text → List UInt8
  | 0, _ => []
  | _, [] => []
  | fuel + 1, '%' :: t =>
    match t with
    | '%' :: rest => 0x25 :: lineBy r s i fuel rest
    | 'l' :: rest => r.shown s i ++ lineBy r s i fuel rest
    | 'L' :: rest =>
      r.shown s i ++ (if s.isOpen i then [] else [newline]) ++ lineBy r s i fuel rest
    | t =>
      match directive? (fun c => if c = 'n' then some (i + 1) else none) t with
      | some (shown, rest) => Raw.bytes shown ++ lineBy r s i fuel rest
      | none => 0x25 :: lineBy r s i fuel t
  | fuel + 1, c :: t => Raw.bytes [c] ++ lineBy r s i fuel t

/-- Lines written by a format.  One that is the usual one leaves a last line as it is. -/
def linesBy (r : Report) (s : Sheet) (format : Text) (part : Lines) : List UInt8 :=
  ((List.range (part.stop - part.start)).map fun k =>
    lineBy r s (part.start + k) (format.length + 1) format).flatten

/-- The number at the beginning of a text, in digits or by a letter, and what follows it. -/
def operand? (g : Group) (t : Text) : Option (Nat × Text) :=
  let ds := t.takeWhile Char.isDigit
  if ¬ ds.isEmpty then some (digitsValue ds, t.drop ds.length)
  else
    match t with
    | c :: rest => (letterValue? g c).map (·, rest)
    | [] => none

/-- A part written by a format up to a character, and what follows that part of the format.  Nothing is
written unless it is wanted. -/
def groupBy (f : Formats) (r : Report) (g : Group) :
    (fuel : Nat) → (isWanted : Bool) → (ending : Option Char) → Text → List UInt8 × Text
  | 0, _, _, t => ([], t)
  | _, _, _, [] => ([], [])
  | fuel + 1, isWanted, ending, c :: t =>
    let goOn (shown : List UInt8) (rest : Text) : List UInt8 × Text :=
      let (more, rest) := groupBy f r g fuel isWanted ending rest
      ((if isWanted then shown else []) ++ more, rest)
    if some c = ending then ([], c :: t)
    else if c ≠ '%' then goOn (Raw.bytes [c]) t
    else
      match t with
      | '%' :: rest => goOn [0x25] rest
      | '<' :: rest => goOn (linesBy r r.first (f.line .first) g.first) rest
      | '=' :: rest => goOn (linesBy r r.first (f.line .both) g.first) rest
      | '>' :: rest => goOn (linesBy r r.second (f.line .second) g.second) rest
      | '(' :: rest =>
        let choice : Option (Bool × Text) := do
          let (a, rest) ← operand? g rest
          guard (rest.head? = some '=')
          let (b, rest) ← operand? g rest.tail
          guard (rest.head? = some '?')
          return (a == b, rest.tail)
        match choice with
        | none => goOn [0x25] t
        | some (holds, rest) =>
          let (whenTrue, rest) := groupBy f r g fuel (isWanted && holds) (some ':') rest
          match rest with
          | [] => goOn whenTrue []
          | _ :: rest =>
            let (whenFalse, rest) := groupBy f r g fuel (isWanted && !holds) (some ')') rest
            goOn (whenTrue ++ whenFalse) rest.tail
      | t =>
        match directive? (letterValue? g) t with
        | some (shown, rest) => goOn (Raw.bytes shown) rest
        | none => goOn [0x25] t

/-- A part written by a format. -/
def part (f : Formats) (r : Report) (g : Group) (format : Text) : List UInt8 :=
  (f.groupBy r g (format.length + 1) true none format).1

/-- Lines that are the same. -/
def common (f : Formats) (r : Report) (g : Group) : List UInt8 :=
  if g.first.start < g.first.stop ∨ g.second.start < g.second.stop then
    f.part r g (f.group .both)
  else []

/-- Both texts in one, from two lines on. -/
def written (f : Formats) (r : Report) : (i j : Nat) → List Alignment.Change → List UInt8
  | i, j, [] => f.common r ⟨⟨i, r.first.lines.size⟩, ⟨j, r.second.lines.size⟩⟩
  | i, j, change :: changes =>
    match r.extent? [change] with
    | none => written f r i j changes
    | some e =>
      let format := if e.removes ∧ e.adds then f.changed
        else f.group (if e.removes then .first else .second)
      f.common r ⟨⟨i, e.first.start⟩, ⟨j, e.second.start⟩⟩ ++
        f.part r ⟨e.first, e.second⟩ format ++ written f r e.first.stop e.second.stop changes

/-- The formats by which lines stand under the condition that something is defined. -/
def conditional (name : Text) : Side → Text
  | .first => "#ifndef ".toList ++ name ++ "\n%<#endif /* ! ".toList ++ name ++ " */\n".toList
  | .second => "#ifdef ".toList ++ name ++ "\n%>#endif /* ".toList ++ name ++ " */\n".toList
  | .both => "%=".toList

/-- The format by which changed lines stand under such a condition. -/
def conditionalChange (name : Text) : Text :=
  "#ifndef ".toList ++ name ++ "\n%<#else /* ".toList ++ name ++ " */\n%>#endif /* ".toList ++ name ++
    " */\n".toList

/-- The formats that options ask for. -/
def ofGiven (given : Given) : Formats :=
  let name? := given.value? "D"
  let line (s : Side) : Text :=
    let key := match s with
      | .first => "old-line-format"
      | .second => "new-line-format"
      | .both => "unchanged-line-format"
    ((given.value? key).or (given.value? "line-format")).getD "%l\n".toList
  let changed? := (given.value? "changed-group-format").or (name?.map conditionalChange)
  let group (s : Side) : Text :=
    let (key, usual) := match s with
      | .first => ("old-group-format", changed?.getD "%<".toList)
      | .second => ("new-group-format", changed?.getD "%>".toList)
      | .both => ("unchanged-group-format", "%=".toList)
    ((given.value? key).or (name?.map fun name => conditional name s)).getD usual
  ⟨line, group, changed?.getD (group .first ++ group .second)⟩

end Formats

end LineShell.Sh.Tool.Changes
