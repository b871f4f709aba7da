import LineShell.Computer.Sh.Tool.Basic
import LineShell.Computer.Text.Paragraph

/-!
# The tool that fills paragraphs

Lines that begin at the same place belong to one paragraph, whose words are put on lines anew.  Lines
may have to begin with a mark, which then stands in front of each line.
-/

namespace LineShell.Sh.Tool

namespace Filling

open Paragraph hiding Word

/-- How paragraphs are filled. -/
structure Style where
  width : Nat
  goal : Nat
  /-- The second line of a paragraph tells where all others begin. -/
  isCrown : Bool
  /-- The first line of a paragraph begins elsewhere. -/
  isTagged : Bool
  /-- Lines are broken, but not joined. -/
  splits : Bool
  /-- There is one blank between words, and two after sentences. -/
  isUniform : Bool
  /-- What lines begin with. -/
  mark : Text
  /-- How many blanks are in front of it. -/
  markIndent : Nat
  /-- How long it is with the blanks behind it. -/
  markLength : Nat

/-- What has been read and written so far. -/
structure State where
  /-- What has not been read yet. -/
  rest : Text
  /-- The column of what is read next. -/
  column : Nat
  /-- The column of the mark of the next line. -/
  nextIndent : Nat
  /-- There were tabs, so that there may be some in what is written. -/
  hasTabs : Bool
  /-- The column of the mark of the paragraph. -/
  indent : Nat
  /-- Where the lines of the paragraph begin. -/
  first : Nat
  other : Nat
  words : Array Paragraph.Word
  /-- How many characters the words have. -/
  size : Nat
  /-- How long the line is that was written last. -/
  before : Nat
  /-- What has been written, last character first. -/
  written : Text

/-- How far tabs are apart. -/
def tabWidth : Nat := 8

/-- How many characters a paragraph may have before it is cut. -/
def mostCharacters : Nat := 5000

/-- How many words a paragraph may have before it is cut. -/
def mostWords : Nat := 998

namespace State

/-- Passes over blanks. -/
def skipBlanks (s : State) : State :=
  go s.rest s
where
  /-- Passes over what is left of them. -/
  go : Text → State → State
    | ' ' :: rest, s => go rest { s with rest, column := s.column + 1 }
    | '\t' :: rest, s =>
      go rest { s with rest, hasTabs := true, column := (s.column / tabWidth + 1) * tabWidth }
    | _, s => s

/-- Passes over a mark, as far as it is there, and tells whether all of it is. -/
def skipMark : (mark : Text) → State → State × Bool
  | [], s => (s, true)
  | m :: mark, s =>
    match s.rest with
    | c :: rest =>
      if c = m then skipMark mark { s with rest, column := s.column + 1 } else (s, false)
    | [] => (s, false)

/-- Reads the beginning of a line, after the end of the line before. -/
def readIndent (style : Style) (s : State) : State :=
  let s := { s with column := 0 }.skipBlanks
  if style.mark.isEmpty then { s with nextIndent := min style.markIndent s.column }
  else
    let (s, isThere) := { s with nextIndent := s.column }.skipMark style.mark
    if isThere then s.skipBlanks else s

/-- Nothing follows in the line. -/
def isAtEnd (s : State) : Bool :=
  s.rest.isEmpty || s.rest.head? = some '\n'

/-- Writes characters. -/
def put (t : Text) (s : State) : State :=
  { s with written := t.reverse ++ s.written }

/-- Blanks from one column to another one. -/
def blanks (hasTabs : Bool) (column target : Nat) : Text :=
  let stop := target / tabWidth * tabWidth
  if hasTabs && column + 1 < stop then
    List.replicate (stop / tabWidth - column / tabWidth) '\t' ++ List.replicate (target - stop) ' '
  else List.replicate (target - column) ' '

/-- The line belongs to the paragraph. -/
def goesOn (style : Style) (s : State) : Bool :=
  s.nextIndent == s.indent && s.nextIndent + style.markLength ≤ s.column && !s.isAtEnd

/-- Finds where lines other than the first one begin. -/
def setOther (style : Style) (goesOn : Bool) (s : State) : State :=
  if style.splits then { s with other := s.first }
  else if style.isCrown then { s with other := if goesOn then s.column else s.first }
  else if style.isTagged then
    if goesOn && s.column ≠ s.first then { s with other := s.column }
    else if s.other = s.first then { s with other := if s.first = 0 then 3 else 0 }
    else s
  else { s with other := s.first }

/-- How the lines of the paragraph are measured. -/
def measure (style : Style) (s : State) : Measure :=
  ⟨style.width, style.goal, s.first, s.other, s.before⟩

/-- Writes a line of words that begins at a column. -/
def putLine (style : Style) (indent : Nat) (words : List Paragraph.Word) (s : State) : State :=
  let start := s.indent + style.mark.length
  let front := blanks s.hasTabs 0 s.indent ++ style.mark ++ blanks s.hasTabs start indent
  go words (max start indent) (s.put front)
where
  /-- Writes what is left of the words. -/
  go : List Paragraph.Word → (column : Nat) → State → State
    | [], column, s => { s.put ['\n'] with before := column }
    | [w], column, s =>
      let column := column + w.text.length
      { s.put (w.text ++ ['\n']) with before := column }
    | w :: words, column, s =>
      let column := column + w.text.length
      let target := column + w.space
      go words target (s.put (w.text ++ blanks s.hasTabs column target))

/-- Writes the lines of the paragraph that begin before a word. -/
def putLines (style : Style) (plans : Array Plan) (last : Nat) (s : State) : State :=
  let starts := starts plans last (plans.size + 1) 0
  (starts.zip (starts.drop 1)).foldl (fun s (i, j) =>
    s.putLine style (if i = 0 then s.first else s.other) (s.words.extract i j).toList) s

/-- Writes the first part of a paragraph that is too long, when a word has begun that is not among its
words yet. -/
def cut (style : Style) (s : State) : State :=
  let plans := plans (s.measure style) s.words
  let first := (plans[0]?.map (·.next)).getD plans.size
  let place := Paragraph.cut plans plans.size first none
  let s := s.putLines style plans place
  let words := s.words.extract place s.words.size
  { s with words, size := words.foldl (fun n w => n + w.text.length) 0 }

/-- Reads a word, whose characters so far are reversed. -/
def readWord (style : Style) : (fuel : Nat) → Text → (length : Nat) → State → State × Text
  | 0, word, _, s => (s, word.reverse)
  | fuel + 1, word, length, s =>
    match s.rest with
    | [] => (s, word.reverse)
    | c :: rest =>
      if isSpace c ∧ length ≠ 0 then (s, word.reverse)
      else if s.size + length = mostCharacters then
        let s := s.setOther style true
        if s.words.isEmpty then
          readWord style fuel [c] 1 { s.put word.reverse with rest }
        else
          let s := s.cut style
          readWord style fuel (c :: word) (length + 1) { s with rest }
      else readWord style fuel (c :: word) (length + 1) { s with rest }

/-- Reads the words of a line, and the beginning of the next one. -/
def readLine (style : Style) : (fuel : Nat) → State → State
  | 0, s => s
  | fuel + 1, s =>
    let begun := s.column
    let (s, text) := s.readWord style (s.rest.length + 1) [] 0
    let s := { s with column := begun + text.length }
    let start := s.column
    let s := s.skipBlanks
    let word := Paragraph.Word.ofText text
    let space := s.column - start
    let isFinal := s.rest.isEmpty || (word.isPeriod && (s.rest.head? = some '\n' || 1 < space))
    let space := if s.isAtEnd || style.isUniform then (if isFinal then 2 else 1) else space
    let s :=
      if s.words.size = mostWords then (s.setOther style true).cut style else s
    let s := { s with
      words := s.words.push { word with space, isFinal }
      size := s.size + text.length }
    if s.isAtEnd then { s with rest := s.rest.drop 1 }.readIndent style
    else readLine style fuel s

/-- Copies what is left of a line that belongs to no paragraph. -/
def copyLine (style : Style) (s : State) : State :=
  let s :=
    if s.nextIndent < s.column ∨ ¬ s.isAtEnd then
      let front := blanks s.hasTabs 0 s.nextIndent
      let mark := style.mark.take (s.column - s.nextIndent)
      let column := s.nextIndent + mark.length
      let space := if s.isAtEnd then [] else blanks s.hasTabs column s.column
      let ending := if s.rest.isEmpty ∧ s.nextIndent + style.mark.length ≤ s.column then ['\n'] else []
      s.put (front ++ mark ++ space ++ ending)
    else s
  let line := s.rest.takeWhile (· ≠ '\n')
  { s.put line with rest := s.rest.drop line.length }

/-- Copies lines that belong to no paragraph, and tells if there is one after them. -/
def copyLines (style : Style) : (fuel : Nat) → State → State × Bool
  | 0, s => (s, false)
  | fuel + 1, s =>
    if s.isAtEnd || s.nextIndent < style.markIndent || s.column < s.nextIndent + style.markLength then
      let s := s.copyLine style
      match s.rest with
      | [] => (s, false)
      | _ :: rest => copyLines style fuel ({ s.put ['\n'] with rest }.readIndent style)
    else (s, true)

/-- Reads more lines of a paragraph, as long as they begin where they should. -/
def readMore (style : Style) : (fuel : Nat) → State → State
  | 0, s => s
  | fuel + 1, s =>
    if s.goesOn style && s.column = s.other then readMore style fuel (s.readLine style (s.rest.length + 1))
    else s

/-- Reads the lines of a paragraph after its first one, where `goesOn` tells if there may be any. -/
def readFurther (style : Style) (fuel : Nat) (goesOn : Bool) (s : State) : State :=
  if style.splits then s
  else if style.isCrown then
    if goesOn then readMore style fuel (s.readLine style fuel) else s
  else if style.isTagged then
    if goesOn && s.column ≠ s.first then readMore style fuel (s.readLine style fuel) else s
  else readMore style fuel s

/-- Reads a paragraph. -/
def readParagraph (style : Style) (s : State) : State :=
  let fuel := s.rest.length + 1
  let s := { s with indent := s.nextIndent, first := s.column, words := #[], size := 0 }
  let s := s.readLine style fuel
  let goesOn := s.goesOn style
  let s := (s.setOther style goesOn).readFurther style fuel goesOn
  let last := s.words.size - 1
  { s with words := s.words.modify last fun w => { w with isPeriod := true, isFinal := true } }

/-- Fills one paragraph after the other. -/
def fillAll (style : Style) : (fuel : Nat) → State → State
  | 0, s => s
  | fuel + 1, s =>
    let (s, isMore) := copyLines style (s.rest.length + 2) { s with before := 0 }
    if !isMore then s
    else
      let s := s.readParagraph style
      let plans := plans (s.measure style) s.words
      fillAll style fuel (s.putLines style plans s.words.size)

end State

/-- A text with its paragraphs filled. -/
def filled (style : Style) (t : Text) : Text :=
  let s : State := ⟨t, 0, 0, false, 0, 0, 0, #[], 0, 0, []⟩
  ((s.readIndent style).fillAll style (t.length + 2)).written.reverse

/-- How the tool takes options. -/
def forms : List OptionForm :=
  OptionForm.flags [('c', "crown-margin"), ('s', "split-only"), ('t', "tagged-paragraph"),
    ('u', "uniform-spacing")] ++
    OptionForm.valuedFlags [('w', "width"), ('p', "prefix"), ('g', "goal")] ++
    OptionForm.letters "0123456789"

/-- A width that options ask for, at most as great as given. -/
def widthOf (greatest : Nat) (t : Text) : Except Text Nat :=
  let bare := t.dropWhile isSpace
  let digits := if bare.head? = some '+' then bare.drop 1 else bare
  let complaint (reason : String) : Text :=
    "invalid width: ".toList ++ Quoting.word t ++ reason.toList
  if digits.isEmpty ∨ ¬ digits.all Char.isDigit then .error (complaint "")
  else if 18446744073709551615 < digitsValue digits then
    .error (complaint ": Value too large for defined data type")
  else if greatest < digitsValue digits then
    .error (complaint ": Numerical result out of range")
  else .ok (digitsValue digits)

/-- How paragraphs are filled, as options ask. -/
def Style.ofGiven (given : Given) (width : Option Text) : Except Text Style := do
  let mostWidth := mostCharacters / 2
  let width ← match width with
    | none => pure none
    | some t => (widthOf mostWidth t).map some
  let (width, goal) ← match given.value? "g" with
    | some t => do
      let goal ← widthOf (width.getD 75) t
      pure (width.getD (goal + 10), goal)
    | none =>
      let width := width.getD 75
      pure (width, width * 187 / 200)
  let mark := (given.value? "p").getD []
  let bare := mark.dropWhile (· = ' ')
  return {
    width
    goal
    isCrown := given.has "c"
    isTagged := given.has "t"
    splits := given.has "s"
    isUniform := given.has "u"
    mark := (bare.reverse.dropWhile (· = ' ')).reverse
    markIndent := mark.length - bare.length
    markLength := bare.length }

end Filling

/-- Fills paragraphs. -/
def fmt (arguments : List Text) : Task Int := do
  let (width, arguments) : Option Text × List Text := match arguments with
    | ('-' :: c :: cs) :: rest =>
      if c.isDigit then (some (c :: cs), rest) else (none, arguments)
    | _ => (none, arguments)
  match Given.read Filling.forms .free none arguments with
  | .error message => refuse message 1
  | .ok (given, operands) =>
    match given.find? fun (key, _) => key.toList.all Char.isDigit with
    | some (key, _) =>
      refuse ("invalid option -- ".toList ++ key.toList ++
        "; -WIDTH is recognized only when it is the first\noption; use -w N instead".toList) 1
    | none =>
      let width := match given.value? "w" with
        | some t => some t
        | none => width
      match Filling.Style.ofGiven given width with
      | .error message =>
        complain message
        return 1
      | .ok style =>
        let mut status : Int := 0
        for path in if operands.isEmpty then [['-']] else operands do
          match ← bytesOf path with
          | .ok bytes => print (Filling.filled style (Raw.ofBytes bytes))
          | .error .isDirectory =>
            complain "read error".toList
            status := 1
          | .error fault =>
            complain ("cannot open ".toList ++ Quoting.always path ++ " for reading: ".toList ++
              fault.message)
            status := 1
        return status

end LineShell.Sh.Tool
