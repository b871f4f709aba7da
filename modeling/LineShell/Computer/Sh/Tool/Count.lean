import LineShell.Computer.Sh.Commands
import LineShell.Computer.Sh.Tool.Basic
import LineShell.Text.Hidden

/-!
# Counts

The tool that counts the lines, words, characters and bytes of its input, and the columns that its
longest line takes up.
-/

namespace LineShell.Sh.Tool

/-- What has been counted. -/
structure Count where
  lines : Nat
  words : Nat
  chars : Nat
  bytes : Nat
  /-- The columns that the longest line takes up. -/
  longest : Nat
deriving Repr

namespace Count

/-- Nothing counted so far. -/
def zero : Count := ⟨0, 0, 0, 0, 0⟩

/-- Two counts together. -/
def plus (a b : Count) : Count :=
  ⟨a.lines + b.lines, a.words + b.words, a.chars + b.chars, a.bytes + b.bytes,
    max a.longest b.longest⟩

/-- Where counting has come to. -/
structure State where
  count : Count
  column : Nat
  inWord : Bool

/-- The character is a space that keeps words together, but not for those who count them. -/
def isHardSpace (c : Char) : Bool :=
  [0xA0, 0x2007, 0x202F, 0x2060].contains c.toNat

/-- Counts one more piece of a text, which spells a character or is a byte that is part of none. -/
def State.take (s : State) (char : Option Char) : State :=
  let moved (column : Nat) (s : State) : State :=
    { s with column, count := { s.count with longest := max s.count.longest column } }
  let apart (s : State) : State := { s with inWord := false }
  match char with
  | none => s
  | some c =>
    let s := { s with count := { s.count with chars := s.count.chars + 1 } }
    if c = '\n' then
      apart { s with column := 0, count := { s.count with lines := s.count.lines + 1 } }
    else if c = '\r' ∨ c = '\x0c' then apart { s with column := 0 }
    else if c = '\t' then apart (moved (s.column / 8 * 8 + 8) s)
    else if c = '\x0b' then apart s
    else if isShown c then
      let s := moved (s.column + width c) s
      if isBlank c || isHardSpace c then apart s
      else
        let words := if s.inWord then s.count.words else s.count.words + 1
        { s with inWord := true, count := { s.count with words } }
    else s

/-- What is counted of some bytes. -/
def ofBytes (bytes : List UInt8) : Count :=
  let start : State := ⟨zero, 0, false⟩
  let s := (Raw.units (Raw.ofBytes bytes)).foldl (fun s unit => State.take s unit.2) start
  { s.count with bytes := bytes.length }

/-- The numbers of a count that are asked for, in columns of a width. -/
def shown (letters : String) (width : Nat) (c : Count) : Text :=
  let numbers := [('l', c.lines), ('w', c.words), ('m', c.chars), ('c', c.bytes), ('L', c.longest)]
  let wanted := numbers.filter fun (letter, _) => letters.toList.contains letter
  [' '].intercalate (wanted.map fun (_, n) =>
    List.replicate (width - (numeral n).length) ' ' ++ numeral n)

end Count

/-- How `wc` takes options. -/
def wcUsage : Usage :=
  .free (OptionForm.flags [('c', "bytes"), ('m', "chars"), ('l', "lines"), ('w', "words"),
    ('L', "max-line-length")] ++ OptionForm.valuedNames ["files0-from"])

/-- The node that a path stands for; `-` stands for the standard input. -/
def nodeOf? (path : Text) : Task (Option Node) := do
  let m ← get
  if path = ['-'] then
    match ← Task.channel? 0 with
    | some channel => return Commands.channelNode? m.files channel
    | none => return none
  else return (m.files.nodeAt true m.process.directory path).toOption

/-- How wide the columns of counts are. -/
def countWidth (paths : List Text) : Task Nat := do
  let nodes ← (if paths.isEmpty then [['-']] else paths).mapM nodeOf?
  let known := nodes.filterMap id
  let total := (known.filter Node.isFile).foldl (fun n node => n + node.size) 0
  let least := if known.all Node.isFile then 1 else 7
  return max least (numeral total).length

/-- What is counted of a descriptor.  If only bytes are, those of a file are not read. -/
def countOf (onlyBytes : Bool) (descriptor : Nat) : Task (Except FileFault Count) := do
  match onlyBytes, ← Task.channel? descriptor with
  | true, some (.file id offset true ..) =>
    match (← Task.files).node? id with
    | some node =>
      if node.isDirectory then return .error .isDirectory
      return .ok { Count.zero with bytes := node.size - offset }
    | none => return .ok .zero
  | _, _ => return (← Task.takeAll descriptor).map Count.ofBytes

/-- Counts what its input holds. -/
def wc (given : Given) (paths : List Text) : Task Int := do
  let asked := String.ofList ("lwmcL".toList.filter fun c => given.has (String.singleton c))
  let letters := if asked.isEmpty then "lwc" else asked
  let width ← if paths.length ≤ 1 ∧ letters.length = 1 then pure 1 else countWidth paths
  let mut total := Count.zero
  let mut status : Int := 0
  for path in if paths.isEmpty then [['-']] else paths do
    let label := if paths.isEmpty then [] else ' ' :: path
    match ← withInput path (countOf (letters == "c")) with
    | .ok (.ok count) =>
      printLine (count.shown letters width ++ label)
      total := total.plus count
    | .ok (.error fault) =>
      complainAbout path fault
      printLine (Count.zero.shown letters width ++ label)
      status := 1
    | .error fault =>
      complainAbout path fault
      status := 1
  if 1 < paths.length then printLine (total.shown letters width ++ " total".toList)
  return status

end LineShell.Sh.Tool
