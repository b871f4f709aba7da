import LineShell.Computer.Sh.Tool.Basic
import LineShell.Computer.Sh.Tool.Size

/-!
# What is asked of the tool that copies blocks

The operands of the tool name what is read and what is written, how great the blocks are, how many of
them are left out or copied, and what is done to them on the way.
-/

namespace LineShell.Sh.Tool.Blocks

/-- What is done to blocks on the way. -/
inductive Conversion where
  /-- Bytes of EBCDIC become bytes of ASCII. -/
  | ascii
  | ebcdic
  /-- Bytes of ASCII become bytes of EBCDIC as printers know it. -/
  | ibm
  /-- Lines are filled up with blanks. -/
  | block
  /-- Blanks at the ends of records become newlines. -/
  | unblock
  | lower
  | upper
  /-- Where there are only zeros, nothing is written. -/
  | sparse
  /-- Each two bytes change places. -/
  | swap
  /-- It goes on after what cannot be read. -/
  | goesOn
  /-- The output is not made. -/
  | mustExist
  /-- The output must not be there. -/
  | mustBeNew
  /-- What the output holds is kept. -/
  | keeps
  /-- Each block is filled up. -/
  | fills
  | flushesData
  | flushes
deriving DecidableEq, Repr

namespace Conversion

/-- The words for conversions. -/
def words : List (String × Conversion) :=
  [("ascii", ascii), ("ebcdic", ebcdic), ("ibm", ibm), ("block", block), ("unblock", unblock),
    ("lcase", lower), ("ucase", upper), ("sparse", sparse), ("swab", swap), ("noerror", goesOn),
    ("nocreat", mustExist), ("excl", mustBeNew), ("notrunc", keeps), ("sync", fills),
    ("fdatasync", flushesData), ("fsync", flushes)]

/-- The blocks of the input are not those of the output. -/
def regroups : Conversion → Bool
  | ascii | ebcdic | ibm | block | unblock | lower | upper | swap => true
  | _ => false

end Conversion

/-- The words for how files are opened and read. -/
def flagWords : List String :=
  ["append", "direct", "directory", "dsync", "noatime", "nocache", "noctty", "nofollow", "nonblock",
    "sync", "fullblock", "count_bytes", "skip_bytes", "seek_bytes"]

/-- How much is told at the end. -/
inductive Telling where
  | nothing
  /-- How many blocks there were. -/
  | records
  | all
deriving DecidableEq, Repr

/-- The words for how much is told. -/
def tellingWords : List (String × Telling) :=
  [("none", .nothing), ("noxfer", .records), ("progress", .all)]

/-- What is asked for. -/
structure Wish where
  input : Option Text
  output : Option Text
  inputSize : Nat
  outputSize : Nat
  /-- The size of the blocks of both. -/
  size : Nat
  /-- The size of records that are filled up. -/
  recordSize : Nat
  skipped : Nat
  skippedIsBytes : Bool
  sought : Nat
  soughtIsBytes : Bool
  /-- How much is copied, if not all. -/
  count : Option Nat
  countIsBytes : Bool
  conversions : List Conversion
  inputFlags : List String
  outputFlags : List String
  telling : Telling

/-- The size of blocks if none is asked for. -/
def usualSize : Nat := 512

/-- What is done if nothing is asked for. -/
def Wish.usual : Wish :=
  ⟨none, none, 0, 0, 0, 0, 0, false, 0, false, none, false, [], [], [], .all⟩

/-- The greatest number. -/
def greatestNumber : Nat := 9223372036854775807

/-- The letters of units. -/
def unitLetters : String := "EGkKMPTYZ"

/-- The number at the beginning of a text with its unit, and what follows. -/
def leading (t : Text) : Except AmountFault (Nat × Text) := do
  let bare := t.dropWhile isSpace
  let unsigned := if bare.head? = some '+' then bare.drop 1 else bare
  let digits := unsigned.takeWhile Char.isDigit
  let isUnit (c : Char) : Bool := c = 'b' || c = 'c' || c = 'w' || unitLetters.toList.contains c
  if digits.isEmpty && !t.head?.any isUnit then throw .malformed
  let n := if digits.isEmpty then 1 else digitsValue digits
  let rest := if digits.isEmpty then t else unsigned.drop digits.length
  let (factor, taken) : Nat × Nat := match rest with
    | 'b' :: _ => (512, 1)
    | 'c' :: _ => (1, 1)
    | 'w' :: _ => (2, 1)
    | c :: more =>
      if unitLetters.toList.contains c then
        let power := (Amount.powers.lookup c).getD 0
        match more with
        | 'i' :: 'B' :: _ => (Nat.pow 1024 power, 3)
        | 'B' :: _ => (Nat.pow 1000 power, 2)
        | 'D' :: _ => (Nat.pow 1000 power, 2)
        | _ => (Nat.pow 1024 power, 1)
      else (1, 0)
    | [] => (1, 0)
  let left := rest.drop taken
  let isOfBytes := 0 < taken && rest[taken - 1]? = some 'B'
  let left := if left.head? = some 'B' && !isOfBytes then left.drop 1 else left
  return (n * factor, left)

/-- A number, which may be a product, and for how many zeros with an `x` behind them a warning is
due. -/
def product : (fuel : Nat) → Text → Except AmountFault (Nat × Nat)
  | 0, _ => .error .malformed
  | fuel + 1, t => do
    let (n, rest) ← leading t
    match rest with
    | [] => if greatestNumber < n then .error .tooGreat else return (n, 0)
    | 'x' :: more =>
      let (m, warnings) ← product fuel more
      let result := n * m
      if greatestNumber < result then .error .tooGreat
      else if result = 0 ∧ "0x".toList.isPrefixOf t then return (0, warnings + 1)
      else return (result, warnings)
    | _ => .error .malformed

/-- The parts of a text between commas. -/
def parts (t : Text) : List Text :=
  t.splitOn ','

/-- What the words between commas stand for. -/
def chosen {α : Type} (table : List (String × α)) (complaint : String) (t : Text) :
    Except Misuse (List α) :=
  (parts t).mapM fun word =>
    match table.lookup (String.ofList word) with
    | some a => .ok a
    | none => .error (.ofForm (complaint.toList ++ ": ".toList ++ Quoting.word word))

/-- What is asked for, with one more operand. -/
def Wish.add (w : Wish) (operand : Text) : Task (Except Misuse Wish) := do
  let unknown : Misuse := .ofForm ("unrecognized operand ".toList ++ Quoting.always operand)
  let name := operand.takeWhile (· ≠ '=')
  match operand.drop name.length with
  | [] => return .error unknown
  | _ :: value =>
    let flags := flagWords.map fun word => (word, word)
    match String.ofList name with
    | "if" => return .ok { w with input := some value }
    | "of" => return .ok { w with output := some value }
    | "conv" => return (chosen Conversion.words "invalid conversion" value).map fun cs =>
        { w with conversions := w.conversions ++ cs }
    | "iflag" => return (chosen flags "invalid input flag" value).map fun fs =>
        { w with inputFlags := w.inputFlags ++ fs }
    | "oflag" => return (chosen flags "invalid output flag" value).map fun fs =>
        { w with outputFlags := w.outputFlags ++ fs }
    | "status" => return (chosen tellingWords "invalid status level" value).map fun ls =>
        { w with telling := ls.getLastD w.telling }
    | key =>
      let isSize := ["ibs", "obs", "bs", "cbs"].contains key
      let fault (reason : AmountFault) : Misuse :=
        .ofValue ("invalid number: ".toList ++ Quoting.always value ++ Amount.reason reason)
      let counted := product (value.length + 1) value
      match counted with
      | .ok (_, warnings) =>
        for _ in List.range warnings do
          complain ("warning: ".toList ++ Quoting.word "0x".toList ++
            " is a zero multiplier; use ".toList ++ Quoting.word "00x".toList ++
            " if that is intended".toList)
      | .error _ => pure ()
      let n := match counted with
        | .ok (n, _) => n
        | .error _ => 0
      let ofBytes := value.contains 'B'
      let w? : Option Wish := match key with
        | "ibs" => some { w with inputSize := n }
        | "obs" => some { w with outputSize := n }
        | "bs" => some { w with size := n }
        | "cbs" => some { w with recordSize := n }
        | "skip" => some { w with skipped := n, skippedIsBytes := ofBytes }
        | "iseek" => some { w with skipped := n, skippedIsBytes := ofBytes }
        | "seek" => some { w with sought := n, soughtIsBytes := ofBytes }
        | "oseek" => some { w with sought := n, soughtIsBytes := ofBytes }
        | "count" => some { w with count := some n, countIsBytes := ofBytes }
        | _ => none
      match w?, counted with
      | none, _ => return .error unknown
      | _, .error reason => return .error (fault reason)
      | some w, .ok (n, _) =>
        if isSize && n = 0 then return .error (fault .malformed)
        if isSize && greatestNumber ≤ n then return .error (fault .tooGreat)
        return .ok w

/-- What is wrong with what is asked for as a whole. -/
def Wish.fault? (w : Wish) : Option Misuse :=
  let has (c : Conversion) : Bool := w.conversions.contains c
  let several (cs : List Conversion) : Bool := 1 < (cs.filter has).length
  let withoutCache (flags : List String) : Bool := flags.contains "direct" && flags.contains "nocache"
  if w.outputFlags.contains "fullblock" then
    some (.ofForm ("invalid output flag: ".toList ++ Quoting.word "fullblock".toList))
  else if several [.ascii, .ebcdic, .ibm] then
    some (.ofValue "cannot combine any two of \x7bascii,ebcdic,ibm\x7d".toList)
  else if (has .block || has .ebcdic || has .ibm) && (has .unblock || has .ascii) &&
      w.recordSize ≠ 0 then
    some (.ofValue "cannot combine block and unblock".toList)
  else if several [.lower, .upper] then
    some (.ofValue "cannot combine lcase and ucase".toList)
  else if several [.mustBeNew, .mustExist] then
    some (.ofValue "cannot combine excl and nocreat".toList)
  else if withoutCache w.inputFlags || withoutCache w.outputFlags then
    some (.ofValue "cannot combine direct and nocache".toList)
  else none

/-- What operands ask for. -/
def Wish.ofOperands : Wish → List Text → Task (Except Misuse Wish)
  | w, [] => return .ok w
  | w, operand :: operands => do
    match ← w.add operand with
    | .ok w => w.ofOperands operands
    | .error misuse => return .error misuse

/-- What is asked for, with all sizes. -/
def Wish.completed (w : Wish) : Wish :=
  let ofSize (size : Nat) : Nat :=
    if w.size ≠ 0 then w.size else if size = 0 then usualSize else size
  { w with
    inputSize := ofSize w.inputSize
    outputSize := ofSize w.outputSize
    skippedIsBytes := w.skippedIsBytes || w.inputFlags.contains "skip_bytes"
    soughtIsBytes := w.soughtIsBytes || w.outputFlags.contains "seek_bytes"
    countIsBytes := w.countIsBytes || w.inputFlags.contains "count_bytes" }

namespace Wish

/-- The blocks of the input are collected to blocks of the output. -/
def regroups (w : Wish) : Bool :=
  w.size = 0 || w.conversions.any Conversion.regroups

/-- Something is done on the way. -/
def does (w : Wish) (c : Conversion) : Bool :=
  w.conversions.contains c

/-- Lines are filled up to records. -/
def fillsRecords (w : Wish) : Bool :=
  w.recordSize ≠ 0 && (w.does .block || w.does .ebcdic || w.does .ibm)

/-- Records become lines. -/
def cutsRecords (w : Wish) : Bool :=
  w.recordSize ≠ 0 && (w.does .unblock || w.does .ascii)

/-- A number as blocks of a size and as bytes besides. -/
def divided (n size : Nat) (isBytes : Bool) : Nat × Nat :=
  if isBytes then (n / size, n % size) else (n, 0)

/-- How many blocks and bytes of the input are left out. -/
def skip (w : Wish) : Nat × Nat :=
  divided w.skipped w.inputSize w.skippedIsBytes

/-- How many blocks and bytes of the output are left as they are. -/
def seek (w : Wish) : Nat × Nat :=
  divided w.sought w.outputSize w.soughtIsBytes

/-- How many blocks and bytes are copied, if not all. -/
def limit? (w : Wish) : Option (Nat × Nat) :=
  w.count.map fun n => divided n w.inputSize w.countIsBytes

/-- It is told that a block was not read as a whole. -/
def warnsOfPartial (w : Wish) : Bool :=
  !w.regroups && !w.inputFlags.contains "fullblock" &&
    (w.skip.1 ≠ 0 || w.limit?.any (·.1 ≠ 0) || (w.inputFlags ++ w.outputFlags).contains "direct")

/-- The byte that ends a line of the input. -/
def lineEnd (w : Wish) : UInt8 :=
  if w.does .ebcdic || w.does .ibm then 0x25 else 0x0A

/-- The byte for a blank. -/
def blank (w : Wish) : UInt8 :=
  if w.does .ebcdic || w.does .ibm then 0x40 else 0x20

end Wish

end LineShell.Sh.Tool.Blocks
