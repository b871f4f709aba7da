import LineShell.Computer.Alignment
import LineShell.Computer.Search.Basic
import LineShell.Computer.Sh.Tool.Basic
import LineShell.Computer.Text.Calendar
import Std.Data.HashMap

/-!
# What lines have in common

Two texts are compared line by line.  Lines may count as the same though their blanks or their letters
differ, and changes of some lines may count as nothing.
-/

namespace LineShell.Sh.Tool.Changes

/-- Which blanks of lines do not count. -/
inductive Blanks where
  | all
  /-- Blanks that stand together count as one, and those at the end do not count. -/
  | amount
  /-- Those at the end do not count, and tabs may count as blanks. -/
  | ending (tabs : Bool)
  /-- Tabs count as the blanks that they stand for. -/
  | tabs
  | none
deriving DecidableEq, Repr

/-- What counts when lines are compared. -/
structure Likeness where
  ignoresCase : Bool
  blanks : Blanks
  /-- What stands in front of the end of a line like a return to its beginning does not count. -/
  stripsReturns : Bool
  /-- Changes of empty lines count as nothing. -/
  ignoresEmpty : Bool
  /-- Changes of lines that are described in one of these ways count as nothing. -/
  ignored : List Search.Expression
  /-- All lines are compared. -/
  isExact : Bool

/-- The byte is blank. -/
def isBlankByte (b : UInt8) : Bool :=
  b = 0x20 || (0x09 ≤ b && b ≤ 0x0D)

/-- A line with blanks in the place of tabs, from a column on. -/
def untabbed (size : Nat) : (column : Nat) → List UInt8 → List UInt8
  | _, [] => []
  | column, b :: bs =>
    if b = 0x09 then
      let n := size - column % size
      List.replicate n 0x20 ++ untabbed size (column + n) bs
    else if b = 0x08 then b :: untabbed size (column - 1) bs
    else if b = 0x0D then b :: untabbed size 0 bs
    else b :: untabbed size (column + 1) bs

/-- A line with one blank for those that stand together; `isBlank` says that some came last. -/
def squeezed : (isBlank : Bool) → List UInt8 → List UInt8
  | _, [] => []
  | true, b :: bs => if isBlankByte b then squeezed true bs else 0x20 :: b :: squeezed false bs
  | false, b :: bs => if isBlankByte b then squeezed true bs else b :: squeezed false bs

/-- A line without the blanks at its end. -/
def trimmed (line : List UInt8) : List UInt8 :=
  (line.reverse.dropWhile isBlankByte).reverse

/-- What counts of a line. -/
def Likeness.counted (l : Likeness) (line : List UInt8) : List UInt8 :=
  let line := match l.blanks with
    | .all => line.filter (!isBlankByte ·)
    | .amount => squeezed false line
    | .ending true => trimmed (untabbed 8 0 line)
    | .ending false => trimmed line
    | .tabs => untabbed 8 0 line
    | .none => line
  if l.ignoresCase then
    line.map fun b => if 0x41 ≤ b && b ≤ 0x5A then b + 0x20 else b
  else line

/-- The blanks at the end of a line count. -/
def Likeness.seesEnding (l : Likeness) : Bool :=
  l.blanks = .none || l.blanks = .tabs

/-- A text that is compared. -/
structure Sheet where
  name : Text
  lines : Array (List UInt8)
  /-- The last line is ended like the others. -/
  isEnded : Bool
  /-- When it was altered. -/
  time : Calendar.Moment

namespace Sheet

/-- The lines of a text. -/
def ofBytes (l : Likeness) (name : Text) (time : Calendar.Moment) (bytes : List UInt8) : Sheet :=
  let bare (line : List UInt8) : List UInt8 :=
    if l.stripsReturns && line.getLast? = some 0x0D then line.dropLast else line
  { name
    lines := ((Tool.lines bytes).map bare).toArray
    isEnded := bytes.getLast?.all (· = newline)
    time }

/-- The line at a place lacks its end. -/
def isOpen (s : Sheet) (i : Nat) : Bool :=
  !s.isEnded && i + 1 = s.lines.size

end Sheet

/-- Numbers for lines, so that lines get the same one if they count as the same. -/
structure Numbering where
  known : Std.HashMap (List UInt8 × Bool) Nat
  numbers : Array Nat

/-- Numbers for the lines of a text after those of another one. -/
def Numbering.add (l : Likeness) (marksEnd : Bool) (s : Sheet)
    (known : Std.HashMap (List UInt8 × Bool) Nat) : Numbering :=
  s.lines.zipIdx.foldl (fun n (line, i) =>
    let key := (l.counted line, marksEnd && l.seesEnding && s.isOpen i)
    match n.known[key]? with
    | some k => { n with numbers := n.numbers.push k }
    | none =>
      let k := n.known.size + 1
      ⟨n.known.insert key k, n.numbers.push k⟩) ⟨known, #[]⟩

/-- How many lines at the beginning are the same, up to a number. -/
def commonStart (a b : Sheet) : (fuel : Nat) → (i : Nat) → Nat
  | 0, i => i
  | fuel + 1, i =>
    match a.lines[i]?, b.lines[i]? with
    | some x, some y => if x == y && a.isOpen i == b.isOpen i then commonStart a b fuel (i + 1) else i
    | _, _ => i

/-- How many lines at the end are the same, up to a number. -/
def commonEnd (a b : Sheet) : (fuel : Nat) → (i : Nat) → Nat
  | 0, i => i
  | fuel + 1, i =>
    if a.lines[a.lines.size - 1 - i]? == b.lines[b.lines.size - 1 - i]? then
      commonEnd a b fuel (i + 1)
    else i

/-- The changes that lead from one text to another one; `horizon` lines around them are looked at,
and `marksEnd` says that it counts whether the last line is ended. -/
def changesBetween (l : Likeness) (horizon : Nat) (marksEnd : Bool) (a b : Sheet) :
    List Alignment.Change :=
  let start := commonStart a b (min a.lines.size b.lines.size) 0 - horizon
  let most := min a.lines.size b.lines.size - start
  let common := if marksEnd && a.isEnded != b.isEnded then 0 else commonEnd a b most 0
  let stop := common - horizon
  let first := Numbering.add l marksEnd a ∅
  let second := Numbering.add l marksEnd b first.known
  let inner (numbers : Array Nat) : Array Nat := numbers.extract start (numbers.size - stop)
  (Alignment.changes l.isExact (inner first.numbers) (inner second.numbers)).map fun c =>
    { c with start := c.start + start, otherStart := c.otherStart + start }

/-- A change of the line counts as nothing. -/
def Likeness.isIgnored (l : Likeness) (line : List UInt8) : Bool :=
  let isEmpty := match l.blanks with
    | .all => line.all isBlankByte
    | .amount => line.all isBlankByte
    | .ending _ => line.all isBlankByte
    | _ => line.isEmpty
  (l.ignoresEmpty && isEmpty) ||
    l.ignored.any fun e =>
      let s : Search.Subject := ⟨Search.symbols (Raw.ofBytes line), false, false, false⟩
      (e.search s 0).isSome

end LineShell.Sh.Tool.Changes
