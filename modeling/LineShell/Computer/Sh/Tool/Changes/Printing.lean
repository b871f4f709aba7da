import LineShell.Computer.Sh.Tool.Changes.Lines

/-!
# How changes are written

Changes are written one after another, or together with the lines around them, or as a script that
makes the second text from the first one.
-/

namespace LineShell.Sh.Tool.Changes

/-- How changes are written. -/
inductive Layout where
  | plain
  /-- With lines around them, the two texts one after the other. -/
  | context
  /-- With lines around them, the two texts in one. -/
  | unified
  /-- Commands for an editor. -/
  | script
  /-- Commands in the order of the lines. -/
  | forward
  /-- Commands with numbers of lines. -/
  | counted
  /-- Both texts side by side. -/
  | beside
  /-- Both texts in one, where each part is written by a format. -/
  | merged
deriving DecidableEq, Repr

namespace Layout

/-- It is told that a last line is not ended. -/
def isRobust (l : Layout) : Bool := l ≠ .script && l ≠ .forward

/-- Lines around changes are written too. -/
def showsAround (l : Layout) : Bool := l = .context || l = .unified

end Layout

/-- What is written besides the changes. -/
structure Manner where
  layout : Layout
  likeness : Likeness
  /-- How many lines around changes are written. -/
  around : Nat
  /-- Tabs are written as blanks. -/
  expandsTabs : Bool
  /-- A tab stands in front of each line. -/
  startsWithTab : Bool
  /-- Nothing stands in front of empty lines. -/
  baresEmpty : Bool
  /-- The columns of a tab. -/
  tabSize : Nat
  /-- What describes lines under which others stand. -/
  headings : Option (List Search.Expression)
  /-- The names that are written for the texts. -/
  labels : List Text

/-- Two texts that are compared. -/
structure Report where
  manner : Manner
  first : Sheet
  second : Sheet

/-- Changes that are written together. -/
abbrev Hunk := List Alignment.Change

/-- A part of lines: the first one, and the one after the last one. -/
structure Lines where
  start : Nat
  stop : Nat
deriving DecidableEq, Repr

/-- What changes do together. -/
structure Extent where
  first : Lines
  second : Lines
  removes : Bool
  adds : Bool

namespace Report

/-- The lines of a part. -/
def taken (s : Sheet) (part : Lines) : List (List UInt8) :=
  (s.lines.extract part.start part.stop).toList

/-- What changes do together, unless they count as nothing. -/
def extent? (r : Report) (hunk : Hunk) : Option Extent := do
  let c ← hunk.head?
  let last ← hunk.getLast?
  let first : Lines := ⟨c.start, last.start + last.removed⟩
  let second : Lines := ⟨c.otherStart, last.otherStart + last.added⟩
  let l := r.manner.likeness
  let isIgnored (c : Alignment.Change) : Bool :=
    (taken r.first ⟨c.start, c.start + c.removed⟩).all l.isIgnored &&
      (taken r.second ⟨c.otherStart, c.otherStart + c.added⟩).all l.isIgnored
  if (l.ignoresEmpty || !l.ignored.isEmpty) && hunk.all isIgnored then none
  else some ⟨first, second, hunk.any (·.removed ≠ 0), hunk.any (·.added ≠ 0)⟩

/-- The text of a line as it is written. -/
def shown (r : Report) (s : Sheet) (i : Nat) : List UInt8 :=
  let line := s.lines.getD i []
  if r.manner.expandsTabs then untabbed r.manner.tabSize 0 line else line

/-- A line with what stands in front of it, and its end. -/
def line (r : Report) (mark : String) (s : Sheet) (i : Nat) : List UInt8 :=
  let m := r.manner
  let text := r.shown s i
  let isBare := m.baresEmpty && text.isEmpty
  let front : String := match m.layout with
    | .unified => if mark = " " ∧ isBare then "" else if m.startsWithTab then
        (if mark = " " then "\t" else if isBare then mark else mark ++ "\t") else mark
    | _ => if isBare then (if mark = " " then "" else mark)
      else mark ++ if m.startsWithTab then "\t" else " "
  let ending := if s.isOpen i then "\n\\ No newline at end of file\n" else "\n"
  Raw.bytes front.toList ++ text ++ Raw.bytes ending.toList

/-- Lines with what stands in front of them. -/
def linesOf (r : Report) (mark : String) (s : Sheet) (part : Lines) : List UInt8 :=
  ((List.range (part.stop - part.start)).map fun i => r.line mark s (part.start + i)).flatten

/-- A line as it is, and its end if it has one. -/
def bareLine (r : Report) (s : Sheet) (i : Nat) : List UInt8 :=
  r.shown s i ++ if s.isOpen i && r.manner.layout.isRobust then [] else [newline]

/-- Lines as they are. -/
def bareLines (r : Report) (s : Sheet) (part : Lines) : List UInt8 :=
  ((List.range (part.stop - part.start)).map fun i => r.bareLine s (part.start + i)).flatten

/-- The numbers of lines: the first one and the last one, or the one in front of none. -/
def numbers (separator : Char) (part : Lines) : Text :=
  if part.start + 1 < part.stop then
    numeral (part.start + 1) ++ separator :: numeral part.stop
  else numeral part.stop

/-- The letter for what changes do. -/
def letter (e : Extent) : Char :=
  if e.removes ∧ e.adds then 'c' else if e.removes then 'd' else 'a'

/-- A change that is written for itself. -/
def plainHunk (r : Report) (e : Extent) : List UInt8 :=
  Raw.bytes (numbers ',' e.first ++ letter e :: numbers ',' e.second ++ ['\n']) ++
    (if e.removes then r.linesOf "<" r.first e.first else []) ++
    (if e.removes ∧ e.adds then Raw.bytes "---\n".toList else []) ++
    if e.adds then r.linesOf ">" r.second e.second else []

/-- Lines for an editor, which a line with nothing but a point would end; `inserting` says that it
takes lines. -/
def scriptLines (r : Report) : (inserting : Bool) → List Nat → List UInt8
  | inserting, [] => if inserting then Raw.bytes ".\n".toList else []
  | inserting, i :: is =>
    let front : List UInt8 := if inserting then [] else Raw.bytes "a\n".toList
    if r.second.lines[i]? = some [0x2E] then
      front ++ Raw.bytes "..\n.\ns/.//\n".toList ++ scriptLines r false is
    else front ++ r.bareLine r.second i ++ scriptLines r true is

/-- A change as a command for an editor. -/
def scriptHunk (r : Report) (e : Extent) : List UInt8 :=
  Raw.bytes (numbers ',' e.first ++ [letter e, '\n']) ++
    if e.adds then
      r.scriptLines true ((List.range (e.second.stop - e.second.start)).map (e.second.start + ·))
    else []

/-- A change as a command that comes in the order of the lines. -/
def forwardHunk (r : Report) (e : Extent) : List UInt8 :=
  Raw.bytes (letter e :: numbers ' ' e.first ++ ['\n']) ++
    if e.adds then r.bareLines r.second e.second ++ Raw.bytes ".\n".toList else []

/-- A change as commands with the number of the first line and how many there are. -/
def countedHunk (r : Report) (e : Extent) : List UInt8 :=
  let command (c : Char) (line count : Nat) : List UInt8 :=
    Raw.bytes (c :: numeral line ++ ' ' :: numeral count ++ ['\n'])
  (if e.removes then command 'd' (e.first.start + 1) (e.first.stop - e.first.start) else []) ++
    if e.adds then
      command 'a' e.first.stop (e.second.stop - e.second.start) ++ r.bareLines r.second e.second
    else []

/-- A part of lines with lines around it. -/
def widened (r : Report) (s : Sheet) (part : Lines) : Lines :=
  ⟨part.start - r.manner.around, min (part.stop + r.manner.around) s.lines.size⟩

/-- The line above a part under which it stands. -/
def heading (r : Report) (e : Extent) : Text :=
  match r.manner.headings with
  | none => []
  | some expressions =>
    let above := (r.first.lines.extract 0 (r.widened r.first e.first).start).toList.reverse
    let isHeading (line : List UInt8) : Bool :=
      let s : Search.Subject := ⟨Search.symbols (Raw.ofBytes line), false, false, false⟩
      expressions.any fun e => (e.search s 0).isSome
    match above.find? isHeading with
    | none => []
    | some line =>
      let shown := trimmed ((line.dropWhile isBlankByte).take 40)
      ' ' :: Raw.ofBytes shown

/-- The lines of both texts in one, where the next change comes at a line of the first one. -/
def unifiedLines (r : Report) (stop : Nat) : (fuel : Nat) → (i : Nat) → Hunk → List UInt8
  | 0, _, _ => []
  | fuel + 1, i, [] =>
    if i < stop then r.line " " r.first i ++ unifiedLines r stop fuel (i + 1) [] else []
  | fuel + 1, i, c :: cs =>
    if i < c.start then r.line " " r.first i ++ unifiedLines r stop fuel (i + 1) (c :: cs)
    else
      r.linesOf "-" r.first ⟨c.start, c.start + c.removed⟩ ++
        r.linesOf "+" r.second ⟨c.otherStart, c.otherStart + c.added⟩ ++
        unifiedLines r stop fuel (c.start + c.removed) cs

/-- Changes with lines around them, both texts in one. -/
def unifiedHunk (r : Report) (hunk : Hunk) (e : Extent) : List UInt8 :=
  let first := r.widened r.first e.first
  let second := r.widened r.second e.second
  let range (part : Lines) : Text :=
    if part.stop = part.start + 1 then numeral part.stop
    else if part.stop ≤ part.start then numeral part.stop ++ ",0".toList
    else numeral (part.start + 1) ++ ',' :: numeral (part.stop - part.start)
  Raw.bytes ("@@ -".toList ++ range first ++ " +".toList ++ range second ++ " @@".toList ++
    r.heading e ++ ['\n']) ++
    r.unifiedLines first.stop (first.stop + hunk.length + 1) first.start hunk

/-- The mark of a line that changes may alter: the number of lines in the text, where they are, and
what is there in the other text. -/
def contextMark (spans : List (Lines × Bool)) (own : String) (i : Nat) : String :=
  match spans.find? fun (part, _) => part.start ≤ i && i < part.stop with
  | some (_, hasOthers) => if hasOthers then "!" else own
  | none => " "

/-- Changes with lines around them, the two texts one after the other. -/
def contextHunk (r : Report) (hunk : Hunk) (e : Extent) : List UInt8 :=
  let first := r.widened r.first e.first
  let second := r.widened r.second e.second
  let written (s : Sheet) (part : Lines) (own : String) (spans : List (Lines × Bool)) :
      List UInt8 :=
    ((List.range (part.stop - part.start)).map fun k =>
      r.line (contextMark spans own (part.start + k)) s (part.start + k)).flatten
  let removed : List (Lines × Bool) :=
    hunk.map fun c => (⟨c.start, c.start + c.removed⟩, c.added != 0)
  let added : List (Lines × Bool) :=
    hunk.map fun c => (⟨c.otherStart, c.otherStart + c.added⟩, c.removed != 0)
  Raw.bytes ("***************".toList ++ r.heading e ++ "\n*** ".toList ++ numbers ',' first ++
    " ****\n".toList) ++
    (if e.removes then written r.first first "-" removed else []) ++
    Raw.bytes ("--- ".toList ++ numbers ',' second ++ " ----\n".toList) ++
    if e.adds then written r.second second "+" added else []

/-- Changes that are near each other are taken together. -/
def gathered (r : Report) : List Alignment.Change → List Hunk
  | [] => []
  | c :: cs =>
    match gathered r cs with
    | [] => [[c]]
    | hunk :: hunks =>
      let isNear := hunk.head?.any fun next =>
        let isIgnored := (r.extent? [next]).isNone
        let gap := next.start - (c.start + c.removed)
        gap < if isIgnored then r.manner.around else 2 * r.manner.around + 1
      if isNear then (c :: hunk) :: hunks else [c] :: hunk :: hunks

/-- What stands above all changes. -/
def header (r : Report) : List UInt8 :=
  let pattern : String :=
    if r.manner.layout = .context then "%a %b %e %T %Y" else "%Y-%m-%d %H:%M:%S.%N %z"
  let named (mark : String) (s : Sheet) (label : Option Text) : List UInt8 :=
    Raw.bytes (mark.toList ++ ' ' :: (match label with
      | some t => t
      | none => s.name ++ '\t' :: s.time.written pattern.toList) ++ ['\n'])
  let (mark, otherMark) := if r.manner.layout = .context then ("***", "---") else ("---", "+++")
  named mark r.first r.manner.labels[0]? ++ named otherMark r.second r.manner.labels[1]?

/-- All changes, one after another. -/
def written (r : Report) (changes : List Alignment.Change) : List UInt8 :=
  let each (write : Extent → List UInt8) (changes : List Alignment.Change) : List UInt8 :=
    (changes.filterMap fun c => (r.extent? [c]).map write).flatten
  let around (write : Hunk → Extent → List UInt8) : List UInt8 :=
    let hunks := (r.gathered changes).filterMap fun hunk => (r.extent? hunk).map (write hunk)
    if hunks.isEmpty then [] else r.header ++ hunks.flatten
  match r.manner.layout with
  | .plain => each r.plainHunk changes
  | .script => each r.scriptHunk changes.reverse
  | .forward => each r.forwardHunk changes
  | .counted => each r.countedHunk changes
  | .unified => around r.unifiedHunk
  | .context => around r.contextHunk
  | .beside => []
  | .merged => []

end Report

end LineShell.Sh.Tool.Changes
