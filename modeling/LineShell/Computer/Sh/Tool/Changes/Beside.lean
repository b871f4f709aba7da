import LineShell.Computer.Sh.Tool.Changes.Printing

/-!
# Texts side by side

The lines of two texts are written next to each other, cut where they are too long.  A mark between
them tells how they differ.
-/

namespace LineShell.Sh.Tool.Changes

/-- What is written when texts stand side by side. -/
structure Columns where
  /-- The columns of a half. -/
  half : Nat
  /-- The column in which the second half begins. -/
  second : Nat
  tabSize : Nat
  expandsTabs : Bool
  /-- Lines that are the same are not written. -/
  hidesCommon : Bool
  /-- Lines that are the same are written once. -/
  writesOnce : Bool

namespace Columns

/-- The columns of halves that fit into a width. -/
def ofWidth (width tabSize : Nat) (expandsTabs hidesCommon writesOnce : Bool) : Columns :=
  let tab := if expandsTabs then 1 else tabSize
  let gap := tab + 3
  let middle := width / 2 + gap / 2 + width % 2 * (gap % 2)
  let offset := middle - middle % tab
  let half := min (offset - 3) (width - offset)
  { half, second := if half = 0 then width else offset, tabSize, expandsTabs, hidesCommon,
    writesOnce }

/-- Tabs and blanks that lead from one column to another one. -/
def gap (c : Columns) : (fuel : Nat) → (start stop : Nat) → List UInt8
  | 0, _, _ => []
  | fuel + 1, start, stop =>
    let tab := start + c.tabSize - start % c.tabSize
    if !c.expandsTabs && tab ≤ stop then 0x09 :: gap c fuel tab stop
    else List.replicate (stop - start) 0x20

/-- Tabs and blanks that lead from one column to another one. -/
def space (c : Columns) (start stop : Nat) : List UInt8 :=
  c.gap (stop + 1) start stop

/-- A line cut to a half, and the column in which it ends.  `reached` is the column of what has been
read of it, and `shown` that of what has been written. -/
def cut (c : Columns) (indent : Nat) : (reached shown : Nat) → List UInt8 → List UInt8 × Nat
  | _, shown, [] => ([], shown)
  | reached, shown, b :: bs =>
    let before (front : List UInt8) (rest : List UInt8 × Nat) : List UInt8 × Nat :=
      (front ++ rest.1, rest.2)
    if b = 0x09 then
      let spaces := c.tabSize - reached % c.tabSize
      let stop := shown + spaces
      if reached ≠ shown then cut c indent (reached + spaces) shown bs
      else if c.expandsTabs then
        let stop := min stop c.half
        before (List.replicate (stop - shown) 0x20) (cut c indent (reached + spaces) stop bs)
      else if stop < c.half then before [b] (cut c indent (reached + spaces) stop bs)
      else cut c indent (reached + spaces) shown bs
    else if b = 0x0D then before (b :: c.space 0 indent) (cut c indent 0 0 bs)
    else if b = 0x08 then
      if reached = 0 then cut c indent reached shown bs
      else
        let reached := reached - 1
        if c.half ≤ reached then cut c indent reached shown bs
        else if shown ≤ reached then
          before (List.replicate (reached - shown) 0x20) (cut c indent reached reached bs)
        else before [b] (cut c indent reached reached bs)
    else if 0x80 ≤ b && b < 0xC0 then
      if reached ≤ c.half then before [b] (cut c indent reached shown bs)
      else cut c indent reached shown bs
    else if b < 0x20 || b = 0x7F then
      if reached ≤ c.half then before [b] (cut c indent reached shown bs)
      else cut c indent reached shown bs
    else if reached < c.half then before [b] (cut c indent (reached + 1) (reached + 1) bs)
    else cut c indent (reached + 1) shown bs

/-- Two lines next to each other, of which one may lack, with a mark between them. -/
def row (c : Columns) (r : Report) (left right : Option Nat) (mark : Char) : List UInt8 :=
  let lineAt (s : Sheet) (i : Nat) : List UInt8 := s.lines.getD i []
  let isEnded (s : Sheet) (i : Option Nat) : Bool := i.any fun i => !s.isOpen i
  let leftEnded := isEnded r.first left
  let rightEnded := isEnded r.second right
  let (front, column) := match left with
    | some i => c.cut 0 0 0 (lineAt r.first i)
    | none => ([], 0)
  let mark := if mark = '|' ∧ leftEnded ≠ rightEnded then (if leftEnded then '/' else '\\') else mark
  let middle := (c.half + c.second - 1) / 2
  let (between, column) : List UInt8 × Nat :=
    if mark = ' ' then ([], column)
    else (c.space column middle ++ Raw.bytes [mark], middle + 1)
  let back : List UInt8 := match right with
    | some i =>
      let line := lineAt r.second i
      if line.isEmpty && !r.second.isOpen i then []
      else c.space column c.second ++ (c.cut c.second 0 0 line).1
    | none => []
  front ++ between ++ back ++ if leftEnded || rightEnded then [newline] else []

/-- Lines that are the same, as many as there are of both texts. -/
def common (c : Columns) (r : Report) (first second : Lines) : List UInt8 :=
  let count := first.stop - first.start
  let others := second.stop - second.start
  let rows (n : Nat) (write : Nat → List UInt8) : List UInt8 :=
    ((List.range n).map write).flatten
  if c.hidesCommon then []
  else if c.writesOnce then rows count fun k => c.row r (some (first.start + k)) none '('
  else
    let pairs := min count others
    rows pairs (fun k => c.row r (some (first.start + k)) (some (second.start + k)) ' ') ++
      rows (others - pairs) (fun k => c.row r none (some (second.start + pairs + k)) ')') ++
      rows (count - pairs) fun k => c.row r (some (first.start + pairs + k)) none '('

/-- Lines that differ. -/
def different (c : Columns) (r : Report) (e : Extent) : List UInt8 :=
  let count := e.first.stop - e.first.start
  let others := e.second.stop - e.second.start
  let rows (n : Nat) (write : Nat → List UInt8) : List UInt8 :=
    ((List.range n).map write).flatten
  let pairs := min count others
  rows pairs (fun k => c.row r (some (e.first.start + k)) (some (e.second.start + k)) '|') ++
    rows (others - pairs) (fun k => c.row r none (some (e.second.start + pairs + k)) '>') ++
    rows (count - pairs) fun k => c.row r (some (e.first.start + pairs + k)) none '<'

/-- Both texts side by side, from two lines on. -/
def written (c : Columns) (r : Report) : (i j : Nat) → List Alignment.Change → List UInt8
  | i, j, [] => c.common r ⟨i, r.first.lines.size⟩ ⟨j, r.second.lines.size⟩
  | i, j, change :: changes =>
    match r.extent? [change] with
    | none => written c r i j changes
    | some e =>
      c.common r ⟨i, e.first.start⟩ ⟨j, e.second.start⟩ ++ c.different r e ++
        written c r e.first.stop e.second.stop changes

end Columns

end LineShell.Sh.Tool.Changes
