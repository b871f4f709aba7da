import LineShell.Computer.Number.Written
import LineShell.Computer.Sh.Arithmetic
import LineShell.Computer.Text.Raw

/-!
# Escapes and formats

The texts of the commands that print: escapes that a backslash begins, and formats whose directives
take arguments.  All texts are raw, since an escape may name any byte.
-/

namespace LineShell.Sh

namespace Escape

/-- The character is an octal digit. -/
def isOctal (c : Char) : Bool :=
  '0' ≤ c ∧ c ≤ '7'

/-- The character that up to three octal digits denote. -/
def octal (digits : Text) : Char :=
  Char.ofNat (digitsIn 8 digits % 256)

/-- The character that a letter after a backslash stands for. -/
def letter? : Char → Option Char
  | 'a' => some '\x07'
  | 'b' => some '\x08'
  | 'e' => some '\x1b'
  | 'f' => some '\x0c'
  | 'n' => some '\n'
  | 'r' => some '\x0d'
  | 't' => some '\t'
  | 'v' => some '\x0b'
  | '\\' => some '\\'
  | _ => none

/-- What the text after a backslash stands for, and the text after it.  With `zeroFirst` a zero
before three octal digits does not count as one of them. -/
def read (zeroFirst : Bool) (t : Text) : Char × Text :=
  match t with
  | [] => ('\\', [])
  | c :: rest =>
    if isOctal c then
      let t := if zeroFirst ∧ c = '0' ∧ (rest.headD ' ' |> isOctal) then rest else t
      let digits := (t.take 3).takeWhile isOctal
      (octal digits, t.drop digits.length)
    else
      match letter? c with
      | some d => (d, rest)
      | none => ('\\', t)

/-- A text with its escapes carried out, and whether all of it was written: an escape may ask for
the output to end. -/
def expand (fuel : Nat) (t : Text) : Text × Bool :=
  match fuel, t with
  | 0, _ => ([], true)
  | _, [] => ([], true)
  | _ + 1, '\\' :: 'c' :: _ => ([], false)
  | fuel + 1, '\\' :: t =>
    let (c, rest) := read true t
    let (more, whole) := expand fuel rest
    (c :: more, whole)
  | fuel + 1, c :: t =>
    let (more, whole) := expand fuel t
    (c :: more, whole)

end Escape

/-- What is written for a list of arguments: with blanks between them, with their escapes, and with
a newline at the end unless the first argument is `-n`. -/
def echoed (arguments : List Text) : Text :=
  let (arguments, ending) :=
    match arguments with
    | ['-', 'n'] :: rest => (rest, [])
    | _ => (arguments, ['\n'])
  let t := [' '].intercalate arguments
  let (t, whole) := Escape.expand (t.length + 1) t
  t ++ if whole then ending else []

namespace Format

/-- A number in a directive. -/
inductive Count where
  | given (n : Nat)
  /-- The number is the next argument. -/
  | next
deriving DecidableEq, Repr

/-- What a directive asks for. -/
structure Directive where
  flags : Text
  width : Count
  precision : Option Count
  letter : Char
deriving DecidableEq, Repr

/-- One element of a format. -/
inductive Element where
  | char (c : Char)
  | directive (d : Directive)
  /-- What begins like a directive and is none, and why. -/
  | faulty (width : Count) (precision : Option Count) (message : Text)
deriving Repr

/-- The number at the beginning of a text, and what follows it. -/
def count : Text → Count × Text
  | '*' :: t => (.next, t)
  | t =>
    let digits := t.takeWhile Char.isDigit
    (.given (digitsValue digits), t.drop digits.length)

/-- The letters of directives. -/
def letters : Text := "diuoxXcsbeEfFgGaA".toList

/-- The directive after a percent sign, and what follows it. -/
def directive (t : Text) : Element × Text :=
  let flags := t.takeWhile (['-', '+', ' ', '#', '0'].contains ·)
  let (width, rest) := count (t.drop flags.length)
  let (precision, rest) : Option Count × Text :=
    match rest with
    | '.' :: rest => ((count rest).1, (count rest).2)
    | _ => (none, rest)
  match rest with
  | [] => (.faulty width precision "missing format character".toList, [])
  | letter :: rest =>
    if letters.contains letter then (.directive ⟨flags, width, precision, letter⟩, rest)
    else
      (.faulty width precision ('%' :: t.take (t.length - rest.length) ++
        ": invalid directive".toList), rest)

/-- The elements of a format. -/
def elements (fuel : Nat) (t : Text) : List Element :=
  match fuel, t with
  | 0, _ => []
  | _, [] => []
  | fuel + 1, '\\' :: t =>
    let (c, rest) := Escape.read false t
    .char c :: elements fuel rest
  | fuel + 1, '%' :: '%' :: t => .char '%' :: elements fuel t
  | fuel + 1, '%' :: t =>
    let (element, rest) := directive t
    element :: elements fuel rest
  | fuel + 1, c :: t => .char c :: elements fuel t

/-- A text brought to a width. -/
def padded (flags : Text) (width : Nat) (t : Text) : Text :=
  let blanks := List.replicate (width - t.length) ' '
  if flags.contains '-' then t ++ blanks else blanks ++ t

/-- A text after a sign or mark, brought to a width, by zeros between the two if a flag asks for
them and they are allowed. -/
def numbered (flags : Text) (width : Nat) (zeros : Bool) (mark t : Text) : Text :=
  let missing := width - mark.length - t.length
  let fills := zeros && flags.contains '0' && !flags.contains '-'
  padded flags width (mark ++ (if fills then List.replicate missing '0' else []) ++ t)

/-- Digits of an integer, at least as many as a precision asks for.  Zero has none if none are asked
for. -/
def precise (precision : Option Nat) (digits : Text) : Text :=
  match precision with
  | none => digits
  | some n => if n = 0 ∧ digits = ['0'] then [] else List.replicate (n - digits.length) '0' ++ digits

/-- The sign of a number. -/
def sign (flags : Text) (negative : Bool) : Text :=
  if negative then ['-'] else if flags.contains '+' then ['+'] else if flags.contains ' ' then [' ']
  else []

/-- An integer as a directive writes it. -/
def integer (flags : Text) (width : Nat) (precision : Option Nat) (letter : Char) (n : Int) :
    Text :=
  let natural := Arithmetic.unsigned n
  let marked := flags.contains '#' && natural ≠ 0
  let write (mark digits : Text) : Text :=
    numbered flags width precision.isNone mark (precise precision digits)
  match letter with
  | 'u' => write [] (numeral natural)
  | 'x' => write (if marked then ['0', 'x'] else []) (Nat.toDigits 16 natural)
  | 'X' =>
    write (if marked then ['0', 'X'] else []) ((Nat.toDigits 16 natural).map Char.toUpper)
  | 'o' =>
    let digits := precise precision (Nat.toDigits 8 natural)
    numbered flags width precision.isNone []
      (if flags.contains '#' ∧ digits.head? ≠ some '0' then '0' :: digits else digits)
  | _ => write (sign flags (n < 0)) (numeral n.natAbs)

/-- The way in which a directive writes numbers with fractions. -/
def way (letter : Char) : Written.Way :=
  match letter.toLower with
  | 'f' => .fixed
  | 'e' => .scientific
  | 'g' => .general
  | _ => .hexadecimal

/-- A number with a fraction as a directive writes it. -/
def fraction (w : Binary.Width) (flags : Text) (width : Nat) (precision : Option Nat)
    (letter : Char) (x : Binary) : Text :=
  let t := Written.unsigned w (way letter) (flags.contains '#') precision x
  let isFinite := match x with
    | .finite .. => true
    | _ => false
  let mark := sign flags x.isNegative ++ if "0x".toList.isPrefixOf t then "0x".toList else []
  let digits := if "0x".toList.isPrefixOf t then t.drop 2 else t
  let t := numbered flags width isFinite mark digits
  if letter.isUpper then t.map Char.toUpper else t

/-- What is wrong with an argument of which something is left unread. -/
def leftover (t left : Text) (isHeld : Bool) : Option Text :=
  if left.length = t.length ∧ left ≠ [] then some (t ++ ": expected numeric value".toList)
  else if left ≠ [] then some (t ++ ": not completely converted".toList)
  else if isHeld then none
  else some (t ++ ": Numerical result out of range".toList)

/-- The number of the character after a quotation mark. -/
def quotedChar? : Text → Option Nat
  | '\'' :: t => some (t.headD '\x00').toNat
  | '"' :: t => some (t.headD '\x00').toNat
  | _ => none

/-- The integer that an argument denotes, and what is wrong with it. -/
def integerOf (isSigned : Bool) (t : Text) : Int × Option Text :=
  match quotedChar? t, LeadingInteger.ofText? true t with
  | some n, _ => (n, none)
  | none, none => (0, leftover t t true)
  | none, some i =>
    let greatest : Int := if isSigned then int64Max else Arithmetic.wordValues - 1
    let least : Int := if isSigned then int64Min else -greatest
    let isHeld := least ≤ i.value ∧ i.value ≤ greatest
    let n := if isHeld ∨ isSigned then saturate i.value else greatest
    (if isHeld then i.value else n, leftover t i.left isHeld)

/-- The number that an argument denotes, and what is wrong with it. -/
def fractionOf (t : Text) : Binary × Option Text :=
  match quotedChar? t, Binary.ofText? .usual t with
  | some n, _ => (.ofNat .usual n, none)
  | none, none => (.ofNat .usual 0, leftover t t true)
  | none, some (x, left) => (x.value, leftover t left x.isHeld)

/-- What has been written so far, last character first. -/
structure Output where
  reversed : Text
  /-- The arguments that are left. -/
  arguments : List Text
  /-- What is wrong with arguments, last one first. -/
  faults : List Text
  /-- The output goes on. -/
  goesOn : Bool
  /-- What is wrong with the format. -/
  fault : Option Text

/-- A number as the thirty-two bits that directives keep of it. -/
def held (n : Int) : Int :=
  Int.bmod n 4294967296

/-- A number of a directive, and the output without the argument that it is. -/
def Output.count (o : Output) : Count → Int × Output
  | .given n => (held n, o)
  | .next =>
    match o.arguments with
    | [] => (0, o)
    | t :: rest =>
      let (n, fault) := integerOf true t
      (held n, { o with arguments := rest, faults := fault.toList ++ o.faults })

/-- The width and the precision of a directive, and the output without the arguments that they are.
-/
def Output.counts (o : Output) (width : Count) (precision : Option Count) :
    (Int × Option Int) × Output :=
  let (width, o) := o.count width
  match precision with
  | none => ((width, none), o)
  | some c =>
    let (precision, o) := o.count c
    ((width, some precision), o)

/-- What a directive writes for an argument, whether output goes on, and what is wrong. -/
def apply (flags : Text) (width : Nat) (precision : Option Nat) (letter : Char)
    (argument : Option Text) : Text × Bool × Option Text :=
  let cut (t : Text) : Text :=
    match precision with
    | some n => t.take n
    | none => t
  let t := argument.getD []
  if letter = 's' then (padded flags width (cut t), true, none)
  else if letter = 'c' then (padded flags width [t.headD '\x00'], true, none)
  else if letter = 'b' then
    let (t, whole) := Escape.expand (t.length + 1) t
    (padded flags width (cut t), whole, none)
  else if "diuoxX".toList.contains letter then
    let (n, fault) := if argument.isNone then (0, none)
      else integerOf (letter = 'd' ∨ letter = 'i') t
    (integer flags width precision letter n, true, fault)
  else
    let (x, fault) := if argument.isNone then (.ofNat .usual 0, none) else fractionOf t
    (fraction .usual flags width precision letter x, true, fault)

/-- Writes one element. -/
def Output.add (o : Output) : Element → Output
  | .char c => if o.goesOn then { o with reversed := c :: o.reversed } else o
  | .faulty width precision message =>
    if o.goesOn then
      { (o.counts width precision).2 with goesOn := false, fault := some message }
    else o
  | .directive d =>
    if o.goesOn then
      let ((width, precision), o) := o.counts d.width d.precision
      let flags := if width < 0 then '-' :: d.flags else d.flags
      let precision := (precision.filter (0 ≤ ·)).map Int.toNat
      let (t, goesOn, fault) :=
        apply flags width.natAbs precision d.letter o.arguments.head?
      { o with
        reversed := t.reverse ++ o.reversed
        arguments := o.arguments.tail
        faults := fault.toList ++ o.faults
        goesOn }
    else o

/-- Writes a format, again and again until its arguments are used up. -/
def write (es : List Element) : Nat → Output → Output
  | 0, o => o
  | fuel + 1, o =>
    let o' := es.foldl Output.add o
    if o'.arguments.isEmpty ∨ o'.arguments.length = o.arguments.length ∨ ¬ o'.goesOn then o'
    else write es fuel o'

end Format

/-- What a format writes for its arguments, what is wrong with them, and what is wrong with the
format. -/
def formatted (format : Text) (arguments : List Text) : Text × List Text × Option Text :=
  let es := Format.elements (format.length + 1) format
  let o := Format.write es (arguments.length + 1) ⟨[], arguments, [], true, none⟩
  (o.reversed.reverse, o.faults.reverse, o.fault)

end LineShell.Sh
