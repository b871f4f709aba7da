import LineShell.Computer.Sh.Tool.Launch
import LineShell.Computer.Sh.Tool.Size

/-!
# The tool that cuts a file into several

The input is cut by lines, by bytes, or into a number of parts, and each piece is written to a file
of its own, whose name ends with the number of the piece in letters or digits.
-/

namespace LineShell.Sh.Tool

namespace Splitting

/-- In what the parts are that the input is cut into. -/
inductive PartUnit where
  | bytes
  /-- No line is cut. -/
  | lines
  /-- Each part gets every line whose turn comes. -/
  | turns
deriving DecidableEq

/-- How the input is cut. -/
inductive Way where
  /-- After a number of lines. -/
  | lines (n : Nat)
  /-- After a number of bytes. -/
  | bytes (n : Nat)
  /-- At the end of a line, after a number of bytes at most. -/
  | lineBytes (n : Nat)
  /-- Into a number of parts, of which perhaps only one is wanted. -/
  | parts (unit : PartUnit) (chosen : Option Nat) (n : Nat)
deriving DecidableEq

/-- The lines of some bytes, each with what ends it. -/
def wholeLines (ending : UInt8) (bytes : List UInt8) : List (List UInt8) :=
  let ls := linesFrom ending [] bytes
  let isWhole := bytes.getLast? = some ending
  (ls.zip (List.range ls.length)).map fun (l, i) =>
    if i + 1 = ls.length ∧ ¬ isWhole then l else l ++ [ending]

/-- Items in groups of a number, the last of which may be smaller; at most `fuel` groups. -/
def inGroups {α : Type} (n : Nat) : (fuel : Nat) → List α → List (List α)
  | 0, _ => []
  | _, [] => []
  | fuel + 1, items => items.take n :: inGroups n fuel (items.drop n)

/-- Pieces of at most a number of bytes that end with a line if they can; at most `fuel` pieces. -/
def byLineBytes (ending : UInt8) (n : Nat) : (fuel : Nat) → List UInt8 → List (List UInt8)
  | 0, _ => []
  | _, [] => []
  | fuel + 1, bytes =>
    if bytes.length < n then [bytes]
    else
      let window := bytes.take n
      let behind := window.reverse.takeWhile (· ≠ ending)
      let size := if behind.length = window.length then n else n - behind.length
      bytes.take size :: byLineBytes ending n fuel (bytes.drop size)

/-- Parts of a size, of which the last one has all that is left. -/
def partsOfBytes (size : Nat) : (count : Nat) → List UInt8 → List (List UInt8)
  | 0, _ => []
  | 1, bytes => [bytes]
  | count + 1, bytes => bytes.take size :: partsOfBytes size count (bytes.drop size)

/-- Parts that end with a line.  `place` is how much has been given so far, and `number` is the number
of the next part. -/
def partsOfLines (ending : UInt8) (size whole : Nat) : (count number place : Nat) → List UInt8 →
    List (List UInt8)
  | 0, _, _, _ => []
  | count + 1, number, place, bytes =>
    let last := if count = 0 then whole - 1 else number * size - 1
    if last < place ∨ bytes.isEmpty then
      [] :: partsOfLines ending size whole count (number + 1) place bytes
    else
      let skipped := last - place
      let more := ((bytes.drop skipped).takeWhile (· ≠ ending)).length + 1
      let part := bytes.take (skipped + more)
      part :: partsOfLines ending size whole count (number + 1) (place + part.length)
        (bytes.drop part.length)

/-- The lines whose turn it is for each of a number of parts. -/
def partsByTurns (count : Nat) (ls : List (List UInt8)) : List (List UInt8) :=
  (List.range count).map fun i =>
    ((ls.zip (List.range ls.length)).filterMap fun (l, j) =>
      if j % count = i then some l else none).flatten

/-- The pieces into which bytes are cut. -/
def Way.pieces (way : Way) (ending : UInt8) (bytes : List UInt8) : List (List UInt8) :=
  match way with
  | .lines n =>
    (inGroups n bytes.length (wholeLines ending bytes)).map List.flatten
  | .bytes n => inGroups n bytes.length bytes
  | .lineBytes n => byLineBytes ending n bytes.length bytes
  | .parts .bytes _ n => partsOfBytes (max bytes.length n / n) n bytes
  | .parts .lines _ n =>
    partsOfLines ending (max bytes.length n / n) (max bytes.length n) n 1 0 bytes
  | .parts .turns _ n => partsByTurns n (wholeLines ending bytes)

/-- How the names of pieces end. -/
structure Ending where
  digits : Text
  /-- The number of the first piece, in digits. -/
  start : Option Text
  /-- How many digits there are. -/
  size : Nat
  /-- The number of digits grows when it has to. -/
  grows : Bool

/-- A number in digits, as many as given. -/
def inDigits (digits : Text) : (size n : Nat) → Text
  | 0, _ => []
  | size + 1, n => inDigits digits size (n / digits.length) ++ [digits.getD (n % digits.length) ' ']

/-- The end of the name of a piece.  The last digit in front says that there are more of them; at most
`fuel` are in front. -/
def Ending.name? (e : Ending) (n : Nat) : Option Text :=
  let base := e.digits.length
  let first := ((e.start.getD []).foldl (fun n c =>
    n * base + (e.digits.findIdx? (· = c)).getD 0) 0)
  if e.grows then grown (n + 2) base e.size n
  else if Nat.pow base e.size ≤ n + first then none
  else some (inDigits e.digits e.size (n + first))
where
  /-- The end of a name with at least as many digits as given. -/
  grown : (fuel base size n : Nat) → Option Text
    | 0, _, _, _ => none
    | fuel + 1, base, size, n =>
      let held := (base - 1) * Nat.pow base (size - 1)
      if n < held then some (inDigits e.digits size n)
      else (grown fuel base (size + 1) (n - held)).map (e.digits.getLastD ' ' :: ·)

/-- How the tool takes options. -/
def usage : Usage :=
  .free (OptionForm.valuedFlags [('a', "suffix-length"), ('b', "bytes"), ('C', "line-bytes"),
      ('l', "lines"), ('n', "number"), ('t', "separator")] ++
    OptionForm.flags [('e', "elide-empty-files"), ('u', "unbuffered")] ++
    [⟨some 'd', none, .never⟩, ⟨none, some "numeric-suffixes", .perhaps⟩,
      ⟨some 'x', none, .never⟩, ⟨none, some "hex-suffixes", .perhaps⟩] ++
    OptionForm.names ["verbose"] ++ OptionForm.valuedNames ["additional-suffix", "filter"])

/-- Arguments in which a number of lines by itself is an option like others. -/
def withNumber : List Text → List Text
  | [] => []
  | ['-', '-'] :: rest => ['-', '-'] :: rest
  | ('-' :: c :: cs) :: rest =>
    if c.isDigit then
      let digits := (c :: cs).takeWhile Char.isDigit
      let more := (c :: cs).drop digits.length
      ("-l".toList ++ digits) :: (if more.isEmpty then [] else ['-' :: more]) ++ withNumber rest
    else ('-' :: c :: cs) :: withNumber rest
  | t :: rest => t :: withNumber rest

/-- A number of something that is not zero. -/
def countOf (what : String) (t : Text) : Except Text Nat :=
  let fault (reason : Text) : Except Text Nat :=
    .error ("invalid number of ".toList ++ what.toList ++ ": ".toList ++ Quoting.word t ++ reason)
  match Amount.ofText (if what = "bytes" then Amount.usualLetters else "") t with
  | .ok 0 => fault []
  | .ok n => .ok n
  | .error found => fault (Amount.reason found)

/-- The parts that a text names. -/
def partsOf (t : Text) : Except Text Way := do
  let (unit, rest) : PartUnit × Text := match t with
    | 'l' :: '/' :: r => (.lines, r)
    | 'r' :: '/' :: r => (.turns, r)
    | r => (.bytes, r)
  let first := rest.takeWhile (· ≠ '/')
  match rest.drop first.length with
  | [] => return .parts unit none (← countOf "chunks" rest)
  | _ :: second =>
    let n ← countOf "chunks" second
    let fault : Text := "invalid chunk number: ".toList ++ Quoting.word first
    match Amount.ofText "" first with
    | .ok k => if k = 0 ∨ n < k then throw fault else return .parts unit (some k) n
    | .error _ => throw fault

/-- The way that options ask for, or what is wrong with them and whether help is to be pointed to. -/
def wayOf (given : Given) : Except (Text × Bool) Way := do
  let plain {α : Type} (e : Except Text α) : Except (Text × Bool) α := e.mapError (·, false)
  let mut ways : List Way := []
  for (key, value) in given do
    if ["l", "b", "C", "n"].contains key ∧ !ways.isEmpty then
      throw ("cannot split in more than one way".toList, true)
    match key with
    | "l" => ways := [.lines (← plain (countOf "lines" value))]
    | "b" => ways := [.bytes (← plain (countOf "bytes" value))]
    | "C" =>
      let what := if value = ['0'] then "lines" else "bytes"
      ways := [.lineBytes (← plain (countOf what value))]
    | "n" => ways := [← plain (partsOf value)]
    | _ => pure ()
  return ways.headD (.lines 1000)

/-- The character that ends lines. -/
def separatorOf (given : Given) : Except Text UInt8 :=
  match given.value? "t" with
  | none => .ok newline
  | some [] => .error "empty record separator".toList
  | some [c] => .ok (UInt8.ofNat c.toNat)
  | some ['\\', '0'] => .ok 0
  | some t => .error ("multi-character separator ".toList ++ Quoting.word t)

/-- How many digits it takes to count up to a number. -/
def digitsFor (base : Nat) : (fuel n : Nat) → Nat
  | 0, _ => 1
  | fuel + 1, n => if n < base then 1 else digitsFor base fuel (n / base) + 1

/-- How the names of pieces end if options ask for it, or what is wrong with them and whether help is
to be pointed to. -/
def endingOf (given : Given) (way : Way) : Except (Text × Bool) Ending := do
  let isKey (key : String) : Bool :=
    ["d", "numeric-suffixes", "x", "hex-suffixes"].contains key
  let (digits, start) : Text × Option Text :=
    match given.reverse.find? fun entry => isKey entry.1 with
    | none => ("abcdefghijklmnopqrstuvwxyz".toList, none)
    | some (key, value) =>
      (if key = "d" ∨ key = "numeric-suffixes" then "0123456789".toList
        else "0123456789abcdef".toList, if value.isEmpty then none else some value)
  if let some t := start then
    if ¬ t.all digits.contains then
      throw (Quoting.word t ++ ": invalid start value for ".toList ++
        (if digits.length = 10 then "numerical" else "hexadecimal").toList ++ " suffix".toList, true)
  let needed := match way with
    | .parts _ _ n => digitsFor digits.length n (n - 1)
    | _ => 0
  let asked ← match given.value? "a" with
    | none => pure 0
    | some t =>
      match Amount.ofText "" t with
      | .ok n => pure n
      | .error _ => throw ("invalid suffix length: ".toList ++ Quoting.word t, false)
  if asked ≠ 0 ∧ asked < needed then
    throw ("the suffix length needs to be at least ".toList ++ numeral needed, false)
  let size := if asked = 0 then max 2 needed else asked
  if size < (start.getD []).length then
    throw ("numerical suffix start value is too large for the suffix length".toList, true)
  return ⟨digits, start, size, asked = 0 && needed = 0 && start.isNone⟩

/-- Writes a piece to a file, or to a command that is told the name of the file, and gives an exit
code. -/
def writePiece (l : Launcher) (given : Given) (path : Text) (bytes : List UInt8) : Task Int := do
  match given.value? "filter" with
  | some command =>
    if given.has "verbose" then
      printLine ("executing with FILE=".toList ++ Quoting.always path)
      flush
    Task.modifyProcess fun p =>
      { p with bindings := Task.assign "FILE".toList (.told path) p.bindings }
    let (id, descriptor) ← l.beginSink "sh" command
    let _ ← Task.write descriptor bytes
    Task.disconnect descriptor
    let ending := (← Control.collectOne [id]).2
    if ending.code ≠ 0 then
      complain ("with FILE=".toList ++ path ++ ", exit ".toList ++ signedNumeral ending.code ++
        " from command: ".toList ++ command)
    return ending.code
  | none =>
    if given.has "verbose" then printLine ("creating file ".toList ++ Quoting.always path)
    match ← writeTo .output path bytes with
    | .ok () => return 0
    | .error fault =>
      complainAbout path fault
      return 1

/-- Writes pieces to files, as long as that is possible. -/
def writePieces (l : Launcher) (given : Given) (ending : Ending) (stem tail : Text) :
    (number : Nat) → List (List UInt8) → Task Int
  | _, [] => return 0
  | number, piece :: rest => do
    if piece.isEmpty ∧ given.has "e" then writePieces l given ending stem tail number rest
    else
      match ending.name? number with
      | none =>
        complain "output file suffixes exhausted".toList
        return 1
      | some name =>
        match ← writePiece l given (stem ++ name ++ tail) piece with
        | 0 => writePieces l given ending stem tail (number + 1) rest
        | status => return status

end Splitting

/-- Cuts a file into several. -/
def split (l : Launcher) (arguments : List Text) : Task Int := do
  let run (given : Given) (operands : List Text) : Task Int := do
    let tail := (given.value? "additional-suffix").getD []
    if tail.contains '/' then
      return ← refuse ("invalid suffix ".toList ++ Quoting.word tail ++
        ", contains directory separator".toList) 1
    let wish : Except (Text × Bool) (Splitting.Way × UInt8 × Splitting.Ending) := do
      let way ← Splitting.wayOf given
      let separator ← (Splitting.separatorOf given).mapError (·, false)
      return (way, separator, ← Splitting.endingOf given way)
    match wish with
    | .error (message, true) => refuse message 1
    | .error (message, false) =>
      complain message
      return 1
    | .ok (way, separator, ending) =>
      if let some extra := operands[2]? then return ← refuseExtra extra
      let path := operands.headD ['-']
      match ← withInput path Task.takeAll with
      | .error fault =>
        complain ("cannot open ".toList ++ Quoting.always path ++ " for reading: ".toList ++
          fault.message)
        return 1
      | .ok (.error fault) =>
        complainAbout path fault
        return 1
      | .ok (.ok bytes) =>
        let pieces := way.pieces separator bytes
        match way with
        | .parts _ (some k) _ =>
          emit (pieces.getD (k - 1) [])
          return 0
        | _ => Splitting.writePieces l given ending (operands.getD 1 ['x']) tail 0 pieces
  Splitting.usage.call run (Splitting.withNumber arguments)

end LineShell.Sh.Tool
