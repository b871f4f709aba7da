import LineShell.Computer.Sh.Format
import LineShell.Computer.Sh.Tool.Basic

/-!
# Tools that print their arguments

One tool prints its arguments with blanks between them, and one prints a format whose directives take
them.  The format is printed as far as it goes: what is wrong with it is told where it is found.
-/

namespace LineShell.Sh.Tool

/-- The options in front of the arguments of `echo`: words of known letters.  Tells whether escapes
are carried out, whether a newline ends the output, and what is to be printed. -/
def echoOptions : (escapes newline : Bool) → List Text → Bool × Bool × List Text
  | escapes, newline, ('-' :: c :: cs) :: rest =>
    let letters := c :: cs
    if letters.all "neE".toList.contains then
      let escapes : Bool := letters.foldl (fun e l => if l = 'n' then e else l == 'e') escapes
      echoOptions escapes (newline && !letters.contains 'n') rest
    else (escapes, newline, ('-' :: c :: cs) :: rest)
  | escapes, newline, arguments => (escapes, newline, arguments)

/-- A text with its escapes carried out, and whether all of it was read: one of them ends the
output. -/
def echoEscaped : (fuel : Nat) → Text → Text × Bool
  | 0, _ => ([], true)
  | _, [] => ([], true)
  | _, ['\\'] => (['\\'], true)
  | fuel + 1, '\\' :: c :: t =>
    let go (written : Text) (rest : Text) : Text × Bool :=
      let (more, whole) := echoEscaped fuel rest
      (written ++ more, whole)
    let hex := (t.take 2).takeWhile fun d => (digitIn? 16 d).isSome
    let octal := ((if c = '0' then t else c :: t).take 3).takeWhile Escape.isOctal
    if c = 'c' then ([], false)
    else if c = 'x' ∧ !hex.isEmpty then
      go [Char.ofNat (digitsIn 16 hex)] (t.drop hex.length)
    else if c = '0' then go [Escape.octal octal] (t.drop octal.length)
    else if Escape.isOctal c then go [Escape.octal octal] ((c :: t).drop octal.length)
    else
      match Escape.letter? c with
      | some d => go [d] t
      | none => go ['\\', c] t
  | fuel + 1, c :: t =>
    let (more, whole) := echoEscaped fuel t
    (c :: more, whole)

/-- Prints its arguments. -/
def echo (arguments : List Text) : Task Int := do
  let (escapes, newline, words) := echoOptions false true arguments
  let t := [' '].intercalate words
  let (t, whole) := if escapes then echoEscaped (t.length + 1) t else (t, true)
  print (t ++ if newline && whole then ['\n'] else [])
  return 0

namespace Printing

/-- What an escape stands for. -/
inductive Meaning where
  /-- A text; what follows the escape is given as well. -/
  | text (t rest : Text)
  /-- The output ends. -/
  | ends
  /-- It is none. -/
  | fault (message : Text)

/-- The text of a character that has a number, in raw form. -/
def numberedChar (n : Nat) : Text :=
  if n ≤ 0x10FFFF then Raw.ofText [Char.ofNat n]
  else "\\U".toList ++ (List.replicate (8 - (Nat.toDigits 16 n).length) '0' ++
    Nat.toDigits 16 n).map Char.toUpper

/-- A character of the text that follows a letter for it and that has a number of digits.  Those that
are to be written as they are have no number. -/
def numberedEscape (letter : Char) (size : Nat) (t : Text) : Meaning :=
  let digits := (t.take size).takeWhile fun d => (digitIn? 16 d).isSome
  let n := digitsIn 16 digits
  if digits.length < size then .fault "missing hexadecimal number in escape".toList
  else if (n ≤ 0x9F ∧ n ≠ 0x24 ∧ n ≠ 0x40 ∧ n ≠ 0x60) ∨ (0xD800 ≤ n ∧ n ≤ 0xDFFF) then
    .fault ("invalid universal character name \\".toList ++ letter :: digits.map Char.toLower)
  else .text (numberedChar n) (t.drop size)

/-- What the text after a backslash stands for.  With `zeroFirst` a zero before octal digits does not
count as one of them. -/
def meaning (zeroFirst : Bool) : Text → Meaning
  | [] => .text ['\\'] []
  | 'x' :: t =>
    let digits := (t.take 2).takeWhile fun d => (digitIn? 16 d).isSome
    if digits.isEmpty then .fault "missing hexadecimal number in escape".toList
    else .text [Char.ofNat (digitsIn 16 digits)] (t.drop digits.length)
  | 'u' :: t => numberedEscape 'u' 4 t
  | 'U' :: t => numberedEscape 'U' 8 t
  | 'c' :: _ => .ends
  | '"' :: t => .text ['"'] t
  | c :: t =>
    if Escape.isOctal c then
      let t := if zeroFirst ∧ c = '0' then t else c :: t
      let digits := (t.take 3).takeWhile Escape.isOctal
      .text [Escape.octal digits] (t.drop digits.length)
    else
      match Escape.letter? c with
      | some d => .text [d] t
      | none => .text ['\\', c] t

/-- How the output goes on. -/
inductive Course where
  | goesOn
  | ends
  /-- It ends because of a fault. -/
  | fails
deriving DecidableEq

/-- Prints a text with its escapes carried out. -/
def printEscaped : (fuel : Nat) → Text → Task Course
  | 0, _ => return .goesOn
  | _, [] => return .goesOn
  | fuel + 1, '\\' :: t => do
    match meaning true t with
    | .text shown rest =>
      print shown
      printEscaped fuel rest
    | .ends => return .ends
    | .fault message =>
      complain message
      return .fails
  | fuel + 1, c :: t => do
    print [c]
    printEscaped fuel t

/-- The letters that a directive may have after some flags and perhaps a point. -/
def allowed (flags : Text) (hasPoint : Bool) : Text :=
  let without (drops : Bool) (letters : String) (t : Text) : Text :=
    if drops then t.filter (!letters.toList.contains ·) else t
  let all := "aAcdeEfFgGiosuxX".toList
  without (flags.contains '\'' || flags.contains 'I') "aAceEosxX"
    (without (flags.contains '#') "cdisu" (without (flags.contains '0') "cs"
      (without hasPoint "c" all)))

/-- Complains of an argument that is no number or not only one. -/
def checkNumber (t left : Text) (isHeld : Bool) : Task Bool := do
  let about (message : String) : Task Bool := do
    complain (Quoting.word t ++ ": ".toList ++ message.toList)
    return false
  if ¬ isHeld then about "Numerical result out of range"
  else if left.isEmpty then return true
  else if left.length = t.length then about "expected a numeric value"
  else about "value not completely converted"

/-- The number of the character after a quotation mark, which complains of others after it. -/
def quoted? (t : Text) : Task (Option Nat) := do
  match t with
  | mark :: c :: cs =>
    if mark ≠ '\'' ∧ mark ≠ '"' then return none
    let (n, size) := match Raw.leading? (c :: cs) with
      | some (d, size) => (d.toNat, size)
      | none => (c.toNat, 1)
    let rest := (c :: cs).drop size
    if !rest.isEmpty then
      complain ("warning: ".toList ++ rest ++
        ": character(s) following character constant have been ignored".toList)
    return some n
  | _ => return none

/-- The integer that an argument denotes, and whether it is one. -/
def integerOf (isSigned : Bool) (t : Text) : Task (Int × Bool) := do
  if let some n ← quoted? t then return (n, true)
  match LeadingInteger.ofText? true t with
  | none => return (0, ← checkNumber t t true)
  | some i =>
    let greatest : Int := if isSigned then int64Max else Arithmetic.wordValues - 1
    let least : Int := if isSigned then int64Min else -greatest
    let isHeld := least ≤ i.value && i.value ≤ greatest
    let n := if isHeld then i.value else if isSigned then saturate i.value else greatest
    return (n, ← checkNumber t i.left isHeld)

/-- The number with a fraction that an argument denotes, and whether it is one. -/
def fractionOf (t : Text) : Task (Binary × Bool) := do
  if let some n ← quoted? t then return (.ofNat .great n, true)
  match Binary.ofText? .great t with
  | none => return (.ofNat .great 0, ← checkNumber t t true)
  | some (x, left) => return (x.value, ← checkNumber t left x.isHeld)

/-- Prints what a directive makes of an argument, and tells whether nothing is wrong with that. -/
def printDirective (flags : Text) (width : Int) (precision : Option Nat) (letter : Char)
    (t : Text) : Task Bool := do
  let flags := if width < 0 then '-' :: flags else flags
  let width := width.natAbs
  match letter with
  | 's' =>
    print (Format.padded flags width ((precision.map (t.take ·)).getD t))
    return true
  | 'c' =>
    print (Format.padded flags width [t.headD '\x00'])
    return true
  | _ =>
    if "diouxX".toList.contains letter then
      let (n, succeeds) ← integerOf (letter = 'd' || letter = 'i') t
      print (Format.integer flags width precision letter n)
      return succeeds
    else
      let (x, succeeds) ← fractionOf t
      print (Format.fraction .great flags width precision letter x)
      return succeeds

/-- The arguments that are left, whether nothing was wrong so far, and how the output goes on. -/
structure State where
  arguments : List Text
  succeeds : Bool
  course : Course

/-- The value of a width or of a precision, which may be the next argument. -/
def countOf (s : State) : Format.Count → Task (Int × Option Text × State)
  | .given n => return (n, none, s)
  | .next => do
    match s.arguments with
    | [] => return (0, none, s)
    | t :: rest =>
      let (n, isNumber) ← integerOf true t
      return (n, some t, { s with arguments := rest, succeeds := s.succeeds && isNumber })

/-- The greatest width. -/
def widthLimit : Int := 2147483647

/-- Fails because of a fault in the format. -/
def fail (s : State) (message : Text) : Task State := do
  complain message
  return { s with course := .fails }

/-- Prints the directive that a percent sign begins, and gives what follows it. -/
def directive (s : State) (t : Text) : Task (State × Text) := do
  let flags := t.takeWhile fun c => "I'-+ #0".toList.contains c
  let (width, afterWidth) := Format.count (t.drop flags.length)
  let (width, given, s) ← countOf s width
  if width < -widthLimit - 1 ∨ widthLimit < width then
    return (← fail s ("invalid field width: ".toList ++ Quoting.word (given.getD [])), [])
  let (hasPoint, precision, rest) : Bool × Format.Count × Text := match afterWidth with
    | '.' :: r => (true, Format.count r)
    | r => (false, .given 0, r)
  let (precision, given, s) ← countOf s precision
  if widthLimit < precision then
    return (← fail s ("invalid precision: ".toList ++ Quoting.word (given.getD [])), [])
  let precision := if hasPoint ∧ 0 ≤ precision then some precision.toNat else none
  let rest := rest.dropWhile fun c => "lLhjtz".toList.contains c
  let letter := rest.headD '\x00'
  if ¬ (allowed flags hasPoint).contains letter then
    let spec := t.take (t.length - rest.length + 1)
    return (← fail s ('%' :: spec ++ ": invalid conversion specification".toList), [])
  let fits ← printDirective flags width precision letter (s.arguments.headD [])
  return ({ s with arguments := s.arguments.tail, succeeds := s.succeeds && fits }, rest.tail)

/-- Prints a format once. -/
def format : (fuel : Nat) → State → Text → Task State
  | 0, s, _ => return s
  | _, s, [] => return s
  | fuel + 1, s, '%' :: '%' :: t => do
    print ['%']
    format fuel s t
  | fuel + 1, s, '%' :: 'b' :: t => do
    match s.arguments with
    | [] => format fuel s t
    | word :: rest =>
      let s := { s with arguments := rest }
      match ← printEscaped (word.length + 1) word with
      | .goesOn => format fuel s t
      | course => return { s with course }
  | fuel + 1, s, '%' :: 'q' :: t => do
    match s.arguments with
    | [] => format fuel s t
    | word :: rest =>
      print (Quoting.ifNeeded word)
      format fuel { s with arguments := rest } t
  | fuel + 1, s, '%' :: t => do
    let (s, rest) ← directive s t
    if s.course = .goesOn then format fuel s rest else return s
  | fuel + 1, s, '\\' :: t => do
    match meaning false t with
    | .text shown rest =>
      print shown
      format fuel s rest
    | .ends => return { s with course := .ends }
    | .fault message => fail s message
  | fuel + 1, s, c :: t => do
    print [c]
    format fuel s t

/-- Prints a format again and again, until its arguments are used up or it takes none. -/
def repeatedly (t : Text) : (fuel : Nat) → State → Task State
  | 0, s => return s
  | fuel + 1, s => do
    let next ← format (t.length + 1) s t
    if next.course ≠ .goesOn ∨ next.arguments.isEmpty ∨
        next.arguments.length = s.arguments.length then return next
    repeatedly t fuel next

end Printing

/-- Prints a format. -/
def printf (arguments : List Text) : Task Int := do
  let arguments := if arguments.head? = some "--".toList then arguments.tail else arguments
  match arguments with
  | [] => refuse "missing operand".toList 1
  | format :: words =>
    let s ← Printing.repeatedly format (words.length + 1) ⟨words, true, .goesOn⟩
    if s.course = .goesOn then
      if let some extra := s.arguments.head? then
        complain ("warning: ignoring excess arguments, starting with ".toList ++ Quoting.word extra)
    return match s.course with
      | .goesOn => if s.succeeds then 0 else 1
      | .ends => 0
      | .fails => 1

end LineShell.Sh.Tool
