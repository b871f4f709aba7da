import LineShell.Computer.Number.Binary
import LineShell.Computer.Number.Written
import LineShell.Computer.Sh.Format
import LineShell.Computer.Text.Raw

/-!
# Values of programs for records

A value is a number or a text, and each can be taken for the other.  A text that comes from outside
counts as a number in comparisons if it looks like one.
-/

namespace LineShell.Sh.Tool.Records

/-- What an expression of a program comes to. -/
inductive Value where
  /-- Nothing has been assigned: it is the empty text and zero at the same time. -/
  | unset
  | number (x : Float)
  | text (t : Text)
  /-- A text from outside. -/
  | input (t : Text)
deriving Inhabited

/-- The character is a blank between words. -/
def isGap (c : Char) : Bool := c = ' ' || c = '\t' || c = '\n'

/-- The number of at most fifteen digits at the beginning of a text, without a sign, if nothing
behind it belongs to the number, and what follows it. -/
def shortNumber? (t : Text) : Option (Nat × Text) :=
  go 15 0 false t
where
  /-- Reads on, with the number so far and whether there is a digit. -/
  go : (most : Nat) → (n : Nat) → (isBegun : Bool) → Text → Option (Nat × Text)
    | _, n, isBegun, [] => if isBegun then some (n, []) else none
    | 0, _, _, _ => none
    | most + 1, n, isBegun, c :: t =>
      if c.isDigit then go most (10 * n + (c.toNat - 48)) true t
      else if isBegun && !(['.', 'e', 'E', 'x', 'X'] : List Char).contains c then some (n, c :: t)
      else none

/-- The number at the beginning of a text, and what follows it. -/
def leadingNumber? (t : Text) : Option (Float × Text) :=
  let t := t.dropWhile isSpace
  let (negative, unsigned) := splitSign t
  match shortNumber? unsigned with
  | some (n, rest) =>
    let x := Float.ofNat n
    some (if negative then -x else x, rest)
  | none => (Binary.ofText? .usual t).map fun (r, rest) => (r.value.toFloat, rest)

/-- The number for which a text is taken: the one at its beginning, or zero. -/
def numberOf (t : Text) : Float :=
  match leadingNumber? t with
  | some (x, _) => x
  | none => 0.0

/-- The number that a text looks like: it begins and ends like a number, and there is nothing else
in it but blanks around it. -/
def apparentNumber? (t : Text) : Option Float :=
  let t := t.dropWhile isGap
  match t with
  | [] => none
  | c :: _ =>
    if !(c.isDigit || ['+', '-', '.'].contains c) then none
    else
      let bare := (t.reverse.dropWhile isGap).reverse
      if !(bare.getLast?.any fun c => c.isDigit || c = '.') then none
      else
        match leadingNumber? bare with
        | some (x, []) => some x
        | _ => none

/-- The limits of the integers of sixty-four bits. -/
def leastInteger : Int := -9223372036854775808

/-- The greatest integer that has a sign bit. -/
def greatestInteger : Int := 9223372036854775807

/-- The greatest integer that has none. -/
def greatestNatural : Int := 18446744073709551615

/-- The number as an integer of sixty-four bits. -/
def integerOf (x : Float) : Int :=
  if Floating.isWhole x then x.toInt64.toInt
  else if x ≥ 9223372036854775808.0 then Floating.integerPart leastInteger greatestNatural x
  else if x ≤ -9223372036854775808.0 then -greatestInteger
  else Floating.integerPart leastInteger greatestInteger x

/-- How numbers that are no integers are written if nothing else is said. -/
def usualFormat : Text := "%.6g".toList

/-- An integer as it is written, unless there are too many bits in it. -/
def wholeText? (x : Float) : Option Text :=
  if Floating.isWhole x then some (signedNumeral x.toInt64.toInt)
  else if 9223372036854775808.0 ≤ x && x ≤ 18446744073709551616.0 then
    some (numeral (Floating.integerPart 0 greatestNatural x).toNat)
  else none

/-- Bytes in order. -/
def compareTexts : Text → Text → Ordering
  | [], [] => .eq
  | [], _ :: _ => .lt
  | _ :: _, [] => .gt
  | a :: s, b :: t => if a = b then compareTexts s t else if a < b then .lt else .gt

/-- Numbers in order, where what is no number equals all. -/
def compareNumbers (x y : Float) : Ordering :=
  if x < y then .lt else if y < x then .gt else .eq

namespace Value

/-- A value as a number. -/
def toNumber : Value → Float
  | unset => 0.0
  | number x => x
  | text t => numberOf t
  | input t => numberOf t

/-- The number that a value is or looks like. -/
def apparent? : Value → Option Float
  | unset => some 0.0
  | number x => some x
  | text _ => none
  | input t => apparentNumber? t

/-- A value as a condition. -/
def holds : Value → Bool
  | unset => false
  | number x => x != 0.0
  | text t => !t.isEmpty
  | input t =>
    match apparentNumber? t with
    | some x => x != 0.0
    | none => !t.isEmpty

/-- A condition as a value. -/
def ofBool (b : Bool) : Value := number (if b then 1.0 else 0.0)

/-- A natural number as a value. -/
def ofNat (n : Nat) : Value := number (Float.ofNat n)

/-- An integer as a value. -/
def ofInt (n : Int) : Value := number (Float.ofInt n)

end Value

/-- How often or how wide, as a format tells it. -/
abbrev Count := Format.Count

/-- A part of a format. -/
inductive FormatPart where
  | plain (t : Text)
  /-- An argument is written. -/
  | argument (flags : Text) (width : Count) (precision : Option Count) (letter : Option Char)

/-- The letters of a format that stand for integers. -/
def integerLetters : Text := "dioxXu".toList

/-- The letters of a format that stand for numbers with fractions. -/
def fractionLetters : Text := "feEgG".toList

/-- The parts of a format. -/
def formatParts : (fuel : Nat) → Text → List FormatPart
  | 0, _ => []
  | _, [] => []
  | fuel + 1, '%' :: '%' :: t => .plain ['%'] :: formatParts fuel t
  | fuel + 1, '%' :: t =>
    let flags := t.takeWhile (['-', '+', ' ', '#', '0'].contains ·)
    let (width, rest) := Format.count (t.drop flags.length)
    let (precision, rest) : Option Count × Text :=
      match rest with
      | '.' :: rest => ((Format.count rest).1, (Format.count rest).2)
      | _ => (none, rest)
    let rest :=
      match rest with
      | 'h' :: rest => rest
      | 'l' :: 'l' :: rest => rest
      | 'l' :: rest => rest
      | rest => rest
    match rest with
    | [] => [.argument flags width precision none]
    | letter :: rest => .argument flags width precision (some letter) :: formatParts fuel rest
  | fuel + 1, t =>
    let plain := t.takeWhile (· ≠ '%')
    .plain plain :: formatParts fuel (t.drop plain.length)

/-- Why a format cannot be followed. -/
inductive FormatFault where
  | tooFewArguments
  /-- The argument with this number is to be written in a way that there is not. -/
  | improper (n : Nat)

/-- Where writing has come to. -/
structure Writing where
  /-- What has been written, last piece first. -/
  pieces : List Text
  arguments : List Value
  /-- How many arguments have been written. -/
  written : Nat

namespace Writing

/-- The next argument. -/
def next (w : Writing) : Except FormatFault (Value × Writing) :=
  match w.arguments with
  | [] => .error .tooFewArguments
  | v :: arguments => .ok (v, { w with arguments })

/-- The number that a format tells. -/
def count (w : Writing) : Count → Except FormatFault (Int × Writing)
  | .given n => .ok (n, w)
  | .next => do
    let (v, w) ← w.next
    return (integerOf v.toNumber, w)

end Writing

/-- A value as a letter of a format asks for, if there is such a letter. -/
def formatted? (asText : Value → Text) (flags : Text) (width : Nat) (precision : Option Nat)
    (letter : Char) (v : Value) : Option Text :=
  let cut (t : Text) : Text :=
    match precision with
    | some n => t.take n
    | none => t
  if letter = 's' then some (Format.padded flags width (cut (asText v)))
  else if letter = 'c' then
    let ofNumber (x : Float) : Text := [Char.ofNat (integerOf x % 256).toNat]
    let t := match v with
      | .number x => ofNumber x
      | .unset => ofNumber 0.0
      | .text t => t.take 1
      | .input t =>
        match apparentNumber? t with
        | some x => ofNumber x
        | none => t.take 1
    some (Format.padded flags width (if t.isEmpty then ['\x00'] else t))
  else if integerLetters.contains letter then
    let n := integerOf v.toNumber
    let letter := if greatestInteger < n ∧ (letter = 'd' ∨ letter = 'i') then 'u' else letter
    some (Format.integer flags width precision letter n)
  else if fractionLetters.contains letter then
    some (Format.fraction .usual flags width precision letter (Binary.ofFloat v.toNumber))
  else none

/-- Writes the parts of a format.  What has been written before a fault is given with it. -/
def writeParts (asText : Value → Text) : List FormatPart → Writing →
    Text × Option FormatFault
  | [], w => (w.pieces.reverse.flatten, none)
  | .plain t :: parts, w => writeParts asText parts { w with pieces := t :: w.pieces }
  | .argument flags width precision letter :: parts, w =>
    let attempt : Except FormatFault (Text × Writing) := do
      let (width, w) ← w.count width
      let (precision, w) ← match precision with
        | none => pure (none, w)
        | some c => do
          let (n, w) ← w.count c
          pure (if n < 0 then none else some n.toNat, w)
      let (v, w) ← w.next
      let flags := if width < 0 then '-' :: flags else flags
      match letter.bind fun c => formatted? asText flags width.natAbs precision c v with
      | some t => return (t, w)
      | none => throw (.improper (w.written + 1))
    match attempt with
    | .error fault => (w.pieces.reverse.flatten, some fault)
    | .ok (t, w) =>
      writeParts asText parts { w with pieces := t :: w.pieces, written := w.written + 1 }

/-- What becomes of a format with some arguments, and what is wrong with it. -/
def formatted (asText : Value → Text) (pattern : Text) (arguments : List Value) :
    Text × Option FormatFault :=
  writeParts asText (formatParts (pattern.length + 1) pattern) ⟨[], arguments, 0⟩

namespace Value

/-- A number as a text, in a format unless it is an integer. -/
def numberText (pattern : Text) (x : Float) : Text :=
  match wholeText? x with
  | some t => t
  | none => (formatted (fun _ => []) pattern [number x]).1

/-- A value as a text, where a format tells how numbers are written that are no integers. -/
def toText (pattern : Text) : Value → Text
  | unset => []
  | number x => numberText pattern x
  | text t => t
  | input t => t

/-- Values in order: as numbers if both are or look like numbers, and else as texts. -/
def compare (pattern : Text) (a b : Value) : Ordering :=
  match a, b with
  | text s, text t => compareTexts s t
  | a, b =>
    match a.apparent?, b.apparent? with
    | some x, some y => compareNumbers x y
    | _, _ => compareTexts (a.toText pattern) (b.toText pattern)

end Value

end LineShell.Sh.Tool.Records
