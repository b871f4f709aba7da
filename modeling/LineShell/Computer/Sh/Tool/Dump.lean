import LineShell.Computer.Digest.Basic
import LineShell.Computer.Number.Written
import LineShell.Computer.Sh.Arithmetic
import LineShell.Computer.Sh.Format
import LineShell.Computer.Sh.Tool.Basic
import LineShell.Computer.Sh.Tool.Options
import LineShell.Computer.Sh.Tool.Size

/-!
# The tool that shows bytes as numbers

The input in lines of some bytes, each of them shown once for every form that is asked for, in columns
that fit together.  A line that is the same as the one before is left out.
-/

namespace LineShell.Sh.Tool

namespace Dump

/-- What some bytes are shown as. -/
inductive Shape where
  | named
  | char
  | signed
  | unsigned
  | octal
  | hex
  | fraction
deriving DecidableEq, Repr

/-- A form in which bytes are shown. -/
structure Form where
  shape : Shape
  /-- How many bytes are shown together. -/
  size : Nat
  /-- The bytes follow as characters. -/
  isTrailed : Bool
deriving Repr

/-- How many digits a number of some bytes takes at most. -/
def digitCount (one two four eight size : Nat) : Nat :=
  if size = 1 then one else if size = 2 then two else if size = 4 then four else eight

/-- How many columns an item takes up. -/
def Form.width (f : Form) : Nat :=
  match f.shape with
  | .named => 3
  | .char => 3
  | .signed => digitCount 4 6 11 20 f.size
  | .unsigned => digitCount 3 5 10 20 f.size
  | .octal => digitCount 3 6 11 22 f.size
  | .hex => 2 * f.size
  | .fraction => if f.size = 4 then 15 else if f.size = 8 then 24 else 29

/-- The names of the first characters. -/
def names : List String :=
  ["nul", "soh", "stx", "etx", "eot", "enq", "ack", "bel", "bs", "ht", "nl", "vt", "ff", "cr", "so",
    "si", "dle", "dc1", "dc2", "dc3", "dc4", "nak", "syn", "etb", "can", "em", "sub", "esc", "fs",
    "gs", "rs", "us", "sp"]

/-- The name of a byte, of which seven bits count. -/
def nameOf (b : UInt8) : Text :=
  let n := b.toNat % 128
  if n = 127 then "del".toList else ((names[n]?).map String.toList).getD [Char.ofNat n]

/-- A byte as a character, if it shows, or else as an escape or a number. -/
def charOf (b : UInt8) : Text :=
  let c := Char.ofNat b.toNat
  if b = 0 then "\\0".toList
  else
    match ("\x07\x08\x0c\n\x0d\t\x0b".toList.zip "abfnrtv".toList).lookup c with
    | some letter => ['\\', letter]
    | none => if ' ' ≤ c ∧ c ≤ '~' then [c] else
      [b.toNat / 64, b.toNat / 8 % 8, b.toNat % 8].map Nat.digitChar

/-- Single width numbers. -/
def single : Binary.Width := ⟨24, -149, 128, 6⟩

/-- The number that the bits of a word stand for. -/
def fractionOf (w : Binary.Width) (exponentBits : Nat) (n : Nat) : Binary :=
  let fractionBits := w.precision - 1
  let isNegative := n / Nat.pow 2 (fractionBits + exponentBits) % 2 = 1
  let exponent := n / Nat.pow 2 fractionBits % Nat.pow 2 exponentBits
  let fraction := n % Nat.pow 2 fractionBits
  if exponent = Nat.pow 2 exponentBits - 1 then
    if fraction = 0 then .infinite isNegative else .undefined isNegative
  else if exponent = 0 then .finite isNegative fraction w.leastExponent
  else .finite isNegative (fraction + Nat.pow 2 fractionBits) (w.leastExponent + exponent - 1)

/-- The number that eighty bits stand for, of which each one of the significand is written. -/
def greatFractionOf (n : Nat) : Binary :=
  let significand := n % Nat.pow 2 64
  let exponent := n / Nat.pow 2 64 % Nat.pow 2 15
  let isNegative := n / Nat.pow 2 79 % 2 = 1
  if exponent = Nat.pow 2 15 - 1 then
    if significand % Nat.pow 2 63 = 0 then .infinite isNegative else .undefined isNegative
  else if exponent ≠ 0 ∧ significand < Nat.pow 2 63 then .undefined isNegative
  else .finite isNegative significand (Binary.Width.great.leastExponent + max exponent 1 - 1)

/-- A number with as few digits as tell it from all others. -/
def shortest (w : Binary.Width) (x : Binary) (least most : Nat) : Text :=
  let sign : Text := if x.isNegative then ['-'] else []
  let written (digits : Nat) : Text := sign ++ Written.unsigned w .general false (some digits) x
  let isExact (digits : Nat) : Bool :=
    match Binary.ofText? w (written digits), x with
    | some (y, _), .finite _ s e =>
      match y.value with
      | .finite _ s' e' => scaled 2 s 1 (e - w.leastExponent) = scaled 2 s' 1 (e' - w.leastExponent)
      | _ => false
    | _, _ => true
  let isTiny : Bool := match x with
    | .finite _ s e => (Nat.log2 s : Int) + e < w.leastExponent + w.precision - 1
    | _ => false
  let least := if isTiny then 1 else least
  written (((List.range (most - least)).map (· + least)).find? isExact |>.getD most)

/-- Some bytes in a form. -/
def Form.shown (f : Form) (isBig : Bool) (bytes : List UInt8) : Text :=
  let n := if isBig then Digest.bigNumber bytes else Digest.littleNumber bytes
  let digits (base count : Nat) : Text :=
    let t := Nat.toDigits base n
    List.replicate (count - t.length) '0' ++ t
  match f.shape with
  | .named => nameOf (bytes.headD 0)
  | .char => charOf (bytes.headD 0)
  | .signed => signedNumeral (Int.bmod n (Nat.pow 256 f.size))
  | .unsigned => numeral n
  | .octal => digits 8 f.width
  | .hex => digits 16 f.width
  | .fraction =>
    if f.size = 4 then shortest single (fractionOf single 8 n) 6 9
    else if f.size = 8 then shortest .usual (fractionOf .usual 11 n) 15 17
    else shortest .great (greatFractionOf n) 18 21

/-- The size that follows the letter of a shape, and what is left of the text.  Letters name the sizes
of the integers that a machine has. -/
def sizeOf (isFraction : Bool) (t : Text) : Option Nat × Text :=
  let digits := t.takeWhile Char.isDigit
  if !digits.isEmpty then (some (digitsValue digits), t.drop digits.length)
  else
    let sizes : List (Char × Nat) := if isFraction then [('F', 4), ('D', 8), ('L', 16)]
      else [('C', 1), ('S', 2), ('I', 4), ('L', 8)]
    match t with
    | c :: rest =>
      match sizes.lookup c with
      | some n => (some n, rest)
      | none => (none, t)
    | [] => (none, [])

/-- The forms that a text names, read in at most `fuel` steps. -/
def formsWithin (whole : Text) : (fuel : Nat) → Text → Except Text (List Form)
  | 0, _ => .ok []
  | _, [] => .ok []
  | fuel + 1, c :: t => do
    let trailed (t : Text) : Bool × Text :=
      match t with
      | 'z' :: rest => (true, rest)
      | rest => (false, rest)
    let simple (shape : Shape) : Except Text (List Form) := do
      let (isTrailed, rest) := trailed t
      return ⟨shape, 1, isTrailed⟩ :: (← formsWithin whole fuel rest)
    let sized (shape : Shape) (usual : Nat) (sizes : List Nat) (kind : String) :
        Except Text (List Form) := do
      let (size, rest) := sizeOf (shape = .fraction) t
      let size := size.getD usual
      if ¬ sizes.contains size then
        throw ("invalid type string ".toList ++ Quoting.word whole ++
          ";\nthis system doesn't provide a ".toList ++ numeral size ++ "-byte ".toList ++
          kind.toList ++ " type".toList)
      let (isTrailed, rest) := trailed rest
      return ⟨shape, size, isTrailed⟩ :: (← formsWithin whole fuel rest)
    let integers := [1, 2, 4, 8]
    match c with
    | 'a' => simple .named
    | 'c' => simple .char
    | 'd' => sized .signed 4 integers "integral"
    | 'u' => sized .unsigned 4 integers "integral"
    | 'o' => sized .octal 4 integers "integral"
    | 'x' => sized .hex 4 integers "integral"
    | 'f' => sized .fraction 8 [4, 8, 16] "floating point"
    | c =>
      throw ("invalid character '".toList ++ c :: "' in type string ".toList ++ Quoting.word whole)

/-- The forms that a text names. -/
def formsOf (t : Text) : Except Text (List Form) :=
  formsWithin t t.length t

/-- The forms that letters name by themselves. -/
def letterForms : List (String × String) :=
  [("a", "a"), ("b", "o1"), ("c", "c"), ("d", "u2"), ("D", "u4"), ("e", "fD"), ("f", "fF"),
    ("F", "fD"), ("h", "x2"), ("x", "x2"), ("H", "x4"), ("X", "x4"), ("i", "dI"), ("I", "dL"),
    ("l", "dL"), ("L", "dL"), ("o", "o2"), ("B", "o2"), ("O", "o4"), ("s", "d2")]

/-- An address in a radix, which is shown with as many digits as given. -/
structure Address where
  radix : Nat
  digits : Nat

/-- An address. -/
def Address.shown (a : Address) (n : Nat) : Text :=
  if a.radix = 0 then []
  else
    let t := Nat.toDigits a.radix n
    List.replicate (a.digits - t.length) '0' ++ t

/-- How bytes are shown. -/
structure Style where
  forms : List Form
  address : Address
  /-- How many bytes a line has. -/
  lineSize : Nat
  showsAll : Bool
  isBig : Bool

namespace Style

/-- How many columns a line takes up, in the form that takes the most. -/
def width (s : Style) : Nat :=
  (s.forms.map fun f => (f.width + 1) * (s.lineSize / f.size)).foldl max 0

/-- The line of some bytes in one form, without the address in front. -/
def formLine (s : Style) (f : Form) (bytes : List UInt8) : Text :=
  let fields := s.lineSize / f.size
  let blank := (s.lineSize - bytes.length) / f.size
  let spare := s.width - f.width * fields
  let items := Digest.grouped f.size
    (bytes ++ List.replicate (s.lineSize - bytes.length) 0)
  let shown := ((items.take (fields - blank)).zip (List.range fields)).flatMap fun (item, i) =>
    let before := spare * (fields - i) / fields
    let after := spare * (fields - i - 1) / fields
    let t := f.shown s.isBig item
    List.replicate (before - after + f.width - t.length) ' ' ++ t
  let trailer : Text :=
    if f.isTrailed then
      List.replicate (blank * f.width + spare * blank / fields) ' ' ++ "  >".toList ++
        bytes.map (fun b => if 0x20 ≤ b ∧ b < 0x7F then Char.ofNat b.toNat else '.') ++ ['<']
    else []
  shown ++ trailer ++ ['\n']

/-- The lines of some bytes at an address. -/
def lines (s : Style) (address : Nat) (bytes : List UInt8) : Text :=
  let mark := s.address.shown address
  (s.forms.zip (List.range s.forms.length)).flatMap fun (f, i) =>
    (if i = 0 then mark else List.replicate mark.length ' ') ++ s.formLine f bytes

end Style

/-- Shows bytes from an address on, of which the line before is given, and whether a line was left
out since.  A line is left out if it is the same as the one before. -/
def showAll (s : Style) : (fuel : Nat) → (address : Nat) → (before : Option (List UInt8)) →
    (leftOut : Bool) → List UInt8 → Task Unit
  | 0, _, _, _, _ => pure ()
  | fuel + 1, address, before, leftOut, bytes => do
    let line := bytes.take s.lineSize
    if line.isEmpty then
      if s.address.radix ≠ 0 then printLine (s.address.shown address)
    else
      let next := address + line.length
      let isSame := !s.showsAll && before = some line && line.length = s.lineSize
      if isSame then
        if ¬ leftOut then printLine ['*']
      else print (s.lines address line)
      showAll s fuel next (some line) isSame (bytes.drop s.lineSize)

/-- The texts of at least a length among bytes, each of which a zero ends, with their places; `run` is
the text so far, last byte first. -/
def textsFrom (least : Nat) : (place : Nat) → (run : List UInt8) → List UInt8 →
    List (Nat × List UInt8)
  | _, _, [] => []
  | place, run, b :: bs =>
    if b = 0 then
      (if least ≤ run.length then [(place - run.length, run.reverse)] else []) ++
        textsFrom least (place + 1) [] bs
    else if 0x20 ≤ b ∧ b < 0x7F then
      textsFrom least (place + 1) (b :: run) bs
    else textsFrom least (place + 1) [] bs

/-- Shows the texts among bytes. -/
def showTexts (address : Address) (least skipped : Nat) (bytes : List UInt8) : Task Unit := do
  for (place, t) in textsFrom least skipped [] bytes do
    let mark := address.shown place
    printLine (mark ++ (if mark.isEmpty then [] else [' ']) ++ Raw.ofBytes t)

/-- How the tool takes options. -/
def usage : Usage :=
  .free (OptionForm.letters "abcdDefFhHiIlLoOBsxX" ++
    OptionForm.valuedFlags [('A', "address-radix"), ('j', "skip-bytes"), ('N', "read-bytes"),
      ('t', "format")] ++
    [⟨some 'S', none, .always⟩, ⟨none, some "strings", .perhaps⟩,
      ⟨some 'w', some "width", .perhaps⟩, ⟨none, some "endian", .always⟩] ++
    OptionForm.flags [('v', "output-duplicates")] ++ OptionForm.names ["traditional"])

/-- The address that an old operand names, where digits are octal unless they are marked. -/
def oldOffset? (t : Text) : Option Nat :=
  let t := match t with
    | '+' :: r => r
    | r => r
  let (t, unit) : Text × Nat := match t.reverse with
    | 'b' :: r => (r.reverse, 512)
    | _ => (t, 1)
  let numberIn (base : Nat) (ds : Text) : Option Nat :=
    if ds.isEmpty || !ds.all fun c => (digitIn? base c).isSome then none
    else some (digitsIn base ds * unit)
  match t with
  | '0' :: 'x' :: ds => numberIn 16 ds
  | _ => numberIn 8 t

/-- The bytes of files one after the other, if any of them can be opened, and whether all of them can
be read; no more are taken than are needed. -/
def bytesOfAll (needed : Option Nat) (paths : List Text) : Task (Option (List UInt8) × Bool) := do
  let mut found : List (List UInt8) := []
  let mut size := 0
  let mut succeeds := true
  let mut isAny := false
  for path in if paths.isEmpty then [['-']] else paths do
    let limit := needed.map (· - size)
    let takeSome (descriptor : Nat) : Task (Except FileFault (List UInt8)) :=
      match limit with
      | none => Task.takeAll descriptor
      | some n => go descriptor n (n + 1) []
    match ← withInput path takeSome with
    | .ok (.ok bytes) =>
      found := bytes :: found
      size := size + bytes.length
      isAny := true
    | .ok (.error fault) =>
      complainAbout path fault
      succeeds := false
      isAny := true
    | .error fault =>
      complainAbout path fault
      succeeds := false
  return (if isAny then some found.reverse.flatten else none, succeeds)
where
  /-- Takes a number of bytes, in pieces, of which the last ones come first. -/
  go (descriptor : Nat) : (n fuel : Nat) → List (List UInt8) → Task (Except FileFault (List UInt8))
    | _, 0, pieces => return .ok pieces.reverse.flatten
    | 0, _, pieces => return .ok pieces.reverse.flatten
    | n + 1, fuel + 1, pieces => do
      match ← Task.take descriptor (n + 1) with
      | .error fault => return .error fault
      | .ok [] => return .ok pieces.reverse.flatten
      | .ok bytes => go descriptor (n + 1 - bytes.length) fuel (bytes :: pieces)

/-- The offset that the last operand names in the old way, and the operands that are files. -/
def oldOperands (given : Given) (operands : List Text) : Nat × List Text :=
  let isModern := given.any fun (key, _) =>
    ["A", "j", "N", "S", "strings", "t", "v", "w", "endian"].contains key
  let looksLike (t : Text) (digitsToo : Bool) : Bool :=
    t.head?.any fun c => c = '+' || (digitsToo && c.isDigit)
  if isModern then (0, operands)
  else
    match operands with
    | [t] =>
      if looksLike t (given.has "traditional") then
        match oldOffset? t with
        | some n => (n, [])
        | none => (0, operands)
      else (0, operands)
    | [path, t] =>
      if looksLike t true then
        match oldOffset? t with
        | some n => (n, [path])
        | none => (0, operands)
      else (0, operands)
    | _ => (0, operands)

/-- The amount that a text names in decimal digits, or in others that are marked. -/
def amountOf (t : Text) : Except AmountFault Nat :=
  let plain : Text := match LeadingInteger.ofText? true t with
    | some i => if 0 ≤ i.value then signedNumeral i.value ++ i.left else t
    | none => t
  Amount.ofText "bkKmMGTPEZY" plain

/-- The amount of an option, if it is given with one. -/
def optionAmount (given : Given) (key : String) : Except Text (Option Nat) :=
  match given.value? key with
  | none => .ok none
  | some t =>
    if t.isEmpty && (key = "strings" || key = "w") then .ok none
    else
      match amountOf t with
      | .ok n => .ok (some n)
      | .error .malformed =>
        .error ("invalid -".toList ++ key.toList ++ " argument '".toList ++ t ++ ['\''])
      | .error .tooGreat =>
        .error ('-' :: key.toList ++ " argument '".toList ++ t ++ "' too large".toList)

/-- The forms that options ask for. -/
def formsAsked (given : Given) : Except Text (List Form) := do
  let mut forms : List Form := []
  for (key, value) in given do
    if key = "t" then forms := forms ++ (← formsOf value)
    else if let some t := letterForms.lookup key then forms := forms ++ (← formsOf t.toList)
  return if forms.isEmpty then [⟨.octal, 2, false⟩] else forms

/-- How many bytes a line has, and a warning if not as many as are asked for are possible. -/
def lineSizeFor (given : Given) (forms : List Form) (asked : Option Nat) : Nat × Option Text :=
  let unit := forms.foldl (fun n f => Nat.lcm n f.size) 1
  let usual := if unit < 16 then unit * (16 / unit) else unit
  match asked with
  | none => (if given.has "w" ∧ 32 % unit = 0 then 32 else usual, none)
  | some n =>
    if n ≠ 0 ∧ n % unit = 0 then (n, none)
    else
      (unit, some ("warning: invalid width ".toList ++ numeral n ++ "; using ".toList ++
        numeral unit ++ " instead".toList))

/-- The addresses that an option asks for. -/
def addressAsked (given : Given) : Except Text Address :=
  let radixes : List (Char × Address) :=
    [('o', ⟨8, 7⟩), ('d', ⟨10, 7⟩), ('x', ⟨16, 6⟩), ('n', ⟨0, 0⟩)]
  let radix := ((given.value? "A").getD ['o']).headD '\x00'
  match radixes.lookup radix with
  | some address => .ok address
  | none =>
    .error ("invalid output address radix '".toList ++ radix ::
      "'; it must be one character from [doxn]".toList)

/-- What options ask for. -/
structure Wish where
  style : Style
  warning : Option Text
  /-- How many bytes are passed over, and how many are read then. -/
  skipped : Option Nat
  read : Option Nat
  /-- The least length of texts, if they are asked for. -/
  textSize : Option Nat

/-- The first byte of a number counts most, as an option says. -/
def bigOf (given : Given) : Except Text (Option Bool) :=
  Choice.ofGiven given "endian" "endian" [(["little"], false), (["big"], true)]

/-- What options ask for. -/
def Wish.ofGiven (given : Given) : Except Text Wish := do
  let address ← addressAsked given
  let skipped ← optionAmount given "j"
  let read ← optionAmount given "N"
  let textSize := (← optionAmount given "S").or (← optionAmount given "strings")
  let width ← optionAmount given "w"
  let forms ← formsAsked given
  let (lineSize, warning) := lineSizeFor given forms width
  let style : Style := {
    forms, address, lineSize
    showsAll := given.has "v"
    isBig := (bigOf given).toOption.join.getD false }
  return { style, warning, skipped, read
           textSize := if given.has "S" || given.has "strings" then some (textSize.getD 3) else none }

end Dump

/-- Shows bytes as numbers and characters. -/
def od : List Text → Task Int :=
  Dump.usage.call fun given operands => do
    if let .error message := Dump.bigOf given then return ← refuse message 1
    match Dump.Wish.ofGiven given with
    | .error message =>
      complain message
      return 1
    | .ok wish =>
      let (offset, paths) := Dump.oldOperands given operands
      if given.has "traditional" then
        if let some extra := paths[1]? then
          complain ("extra operand ".toList ++ Quoting.word extra)
          misused "compatibility mode supports at most one file".toList
          return 1
      let skipped := wish.skipped.getD offset
      let (found, succeeds) ← Dump.bytesOfAll (wish.read.map (· + skipped)) paths
      let some bytes := found | return 1
      if bytes.length < skipped then
        complain "cannot skip past end of combined input".toList
        return 1
      let shown := bytes.drop skipped
      match wish.textSize with
      | some least => Dump.showTexts wish.style.address least skipped shown
      | none =>
        if let some warning := wish.warning then complain warning
        Dump.showAll wish.style (shown.length + 1) skipped none false shown
      return if succeeds then 0 else 1

end LineShell.Sh.Tool
