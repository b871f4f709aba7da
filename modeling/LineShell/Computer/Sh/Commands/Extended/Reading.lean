import LineShell.Computer.Sh.Commands.Extended.Basic
import LineShell.Computer.Sh.Commands.Variables
import LineShell.Computer.Sh.Tool.Basic

/-!
# Commands of the extended language that read

Lines are read into variables, or all at once into a list.
-/

namespace LineShell.Sh.Commands.Extended

namespace Reading

/-- How a line is read. -/
structure Manner where
  descriptor : Nat
  /-- What ends the line, if anything does. -/
  ending : Option UInt8
  /-- How many characters are read at most. -/
  limit : Option Nat
  /-- A backslash is a character like others. -/
  plain : Bool
  /-- The time at which nothing more is waited for. -/
  deadline : Option Nat

/-- How the reading of a line has ended. -/
inductive Outcome where
  | whole
  | cutOff
  | late
deriving DecidableEq

/-- Waits until there is something to read, and tells whether there is. -/
def isReady (m : Manner) : Task Bool := do
  match m.deadline, ← Task.channel? m.descriptor with
  | some time, some (.reader pipe) =>
    if (← get).isThere (.input pipe) then return true
    Task.wait ⟨.input pipe, some time, false⟩
    return (← get).isThere (.input pipe)
  | _, _ => return true

/-- Takes the bytes of a line, one after the other, without what ends it.  `taken` are those so far,
last one first. -/
def take (m : Manner) : (fuel : Nat) → (isEscaped : Bool) → (taken : List UInt8) →
    Task (List UInt8 × Outcome)
  | 0, _, taken => return (taken.reverse, .cutOff)
  | fuel + 1, isEscaped, taken => do
    let isFull : Bool := match m.limit with
      | none => false
      | some n =>
        let units := Raw.units (Raw.ofBytes taken.reverse)
        n ≤ units.length && (n = 0 || (units.getLast?.map fun u => u.2.isSome).getD true)
    if isFull then return (taken.reverse, .whole)
    if !(← isReady m) then return (taken.reverse, .late)
    match ← Task.take m.descriptor 1 with
    | .ok (b :: _) =>
      if some b = m.ending ∧ ¬ isEscaped then return (taken.reverse, .whole)
      else if b = 0 then take m fuel false taken
      else take m fuel (b = 0x5C && !isEscaped && !m.plain) (b :: taken)
    | _ => return (taken.reverse, .cutOff)

/-- The characters of a line, in which a backslash keeps the one after it from being special unless
the line is `plain`. -/
def glyphs (plain : Bool) : Text → List Glyph
  | [] => []
  | [c] => if c = '\\' ∧ ¬ plain then [] else [⟨c, false⟩]
  | c :: d :: t =>
    if c = '\\' ∧ ¬ plain then
      if d = '\n' then glyphs plain t else ⟨d, true⟩ :: glyphs plain t
    else ⟨c, false⟩ :: glyphs plain (d :: t)

/-- The fields of a line. -/
def fields (separators : Text) : (fuel : Nat) → List Glyph → List Text
  | 0, _ => []
  | fuel + 1, gs =>
    let isSeparator (g : Glyph) : Bool := !g.quoted && separators.contains g.char
    let isBlank (g : Glyph) : Bool := isSeparator g && ([' ', '\t', '\n'].contains g.char)
    let gs := gs.dropWhile isBlank
    if gs.isEmpty then []
    else
      let field := gs.takeWhile (!isSeparator ·)
      let behind := (gs.drop field.length).dropWhile isBlank
      let rest := if (behind.head?.map isSeparator).getD false then behind.tail else behind
      Glyph.text field :: fields separators fuel rest

/-- A number of seconds, in microseconds. -/
def microseconds? (t : Text) : Option Nat :=
  let whole := t.takeWhile Char.isDigit
  let rest := t.drop whole.length
  let part := match rest with
    | '.' :: digits => if digits.all Char.isDigit then some (digits.take 6) else none
    | [] => some []
    | _ => none
  part.bind fun digits =>
    if whole.isEmpty ∧ digits.isEmpty then none
    else
      let scaled := digits ++ List.replicate (6 - digits.length) '0'
      some (digitsValue whole * 1000000 + digitsValue scaled)

end Reading

/-- Gives a variable or an item that a word names a value. -/
def assignWord (word value : Text) : Task Unit := do
  let (name, key) ← targetOf word
  Values.assign name key false value

/-- Reads a line into variables. -/
def read (separators : Text) (arguments : List Text) : Task Int := do
  let (given, names) ← optionsOf "ers" "aditnNpu" arguments
  let number (letter : Char) (what : String) : Task (Option Nat) := do
    match value? given letter with
    | none => return none
    | some t =>
      match wholeInteger? false t with
      | some n => if 0 ≤ n then return some n.toNat else fail (t ++ what.toList)
      | none => fail (t ++ what.toList)
  let limit ← number 'n' ": invalid number"
  let exact ← number 'N' ": invalid number"
  let descriptor := (← number 'u' ": invalid file descriptor specification").getD 0
  let deadline ← match value? given 't' with
    | none => pure none
    | some t =>
      match Reading.microseconds? t with
      | some n => pure (some ((← Task.process).time + n))
      | none => fail (t ++ ": invalid timeout specification".toList)
  if (← Task.channel? descriptor).isNone then
    fail (numeral descriptor ++ ": invalid file descriptor: Bad file descriptor".toList)
  for name in names do
    let _ ← targetOf name
  if value? given 't' = some ['0'] then
    match ← Task.channel? descriptor with
    | some (.reader pipe) => return if (← get).isThere (.input pipe) then 0 else 1
    | _ => return 0
  let plain := has given 'r'
  let ending : UInt8 := match value? given 'd' with
    | some (c :: _) => UInt8.ofNat c.toNat
    | some [] => 0
    | none => 0x0A
  let manner : Reading.Manner :=
    ⟨descriptor, if exact.isSome then none else some ending, exact.or limit, plain, deadline⟩
  let (bytes, outcome) ← Reading.take manner Task.blockLimit false []
  let gs := Reading.glyphs plain (Raw.ofBytes bytes)
  match value? given 'a' with
  | some name =>
    let (name, _) ← targetOf name
    let texts := Reading.fields separators (gs.length + 1) gs
    Values.assignList name false (texts.map fun t => (none, false, t))
  | none =>
    match names with
    | [] => Values.assign "REPLY".toList none false (Glyph.text gs)
    | first :: rest =>
      if exact.isSome then
        assignWord first (Glyph.text gs)
        for name in rest do
          assignWord name []
      else distribute assignWord separators names gs
  return match outcome with
    | .whole => 0
    | .cutOff => 1
    | .late => 142

/-- Reads lines into a list.  After some of them a text may be carried out, which is told the place
and the line. -/
def mapfile (run : Text → Task Unit) (arguments : List Text) : Task Int := do
  let (given, names) ← optionsOf "t" "dnOsuCc" arguments
  let number (letter : Char) (usual : Nat) (what : String) : Task Nat := do
    match value? given letter with
    | none => return usual
    | some t =>
      match wholeInteger? false t with
      | some n => if 0 ≤ n then return n.toNat else fail (t ++ what.toList)
      | none => fail (t ++ what.toList)
  let limit ← number 'n' 0 ": invalid line count"
  let origin ← number 'O' 0 ": invalid array origin"
  let skipped ← number 's' 0 ": invalid line count"
  let descriptor ← number 'u' 0 ": invalid file descriptor specification"
  let quantum ← number 'c' 5000 ": invalid callback quantum"
  let name := names.headD "MAPFILE".toList
  if !Grammar.isName name then fail (notName name)
  let ending : UInt8 := match value? given 'd' with
    | some (c :: _) => UInt8.ofNat c.toNat
    | some [] => 0
    | none => 0x0A
  let bytes := (← Task.takeAll descriptor).toOption.getD []
  let lines := (Tool.linesFrom ending [] bytes).drop skipped
  let isWhole := bytes.getLast? = some ending
  let count := lines.length
  let lines := if limit = 0 then lines else lines.take limit
  Values.check name
  if !has given 'O' then
    Values.assignList name false []
  let mut place := origin
  let mut read := 0
  for line in lines do
    read := read + 1
    let ends := isWhole || read < count
    let kept := if has given 't' ∨ ¬ ends then line else line ++ [ending]
    let t := (Raw.ofBytes kept).filter (· ≠ '\x00')
    if let some command := value? given 'C' then
      if read % quantum = 0 then
        run (command ++ ' ' :: numeral place ++ ' ' :: Quotation.inBackslashes t)
    Values.place name (some (numeral place)) t
    place := place + 1
  return 0

end LineShell.Sh.Commands.Extended
