import LineShell.Computer.Number.Written
import LineShell.Computer.Sh.Format
import LineShell.Computer.Sh.Tool.Basic

/-!
# Numbers in order and in parts

Tools that write the numbers of a sequence, and the prime factors of numbers.  A sequence is counted
in exact decimals.
-/

namespace LineShell.Sh.Tool

/-- A decimal as it is written: its value is `units` times a power of ten, and `places` is how many
digits it has behind the point. -/
structure Decimal where
  units : Int
  places : Nat
  /-- How many characters it takes to write it. -/
  width : Nat
deriving Repr

namespace Decimal

/-- The units that a decimal has if it is written with more places. -/
def scaledTo (d : Decimal) (places : Nat) : Int :=
  d.units * (Nat.pow 10 (places - d.places) : Nat)

/-- The decimal that a text denotes. -/
def ofText? (t : Text) : Option Decimal := do
  let t := t.dropWhile fun c => isSpace c || c = '+'
  let (negative, rest) := match t with
    | '-' :: r => (true, r)
    | r => (false, r)
  let whole := rest.takeWhile Char.isDigit
  let afterWhole := rest.drop whole.length
  let (part, afterPart) : Text × Text := match afterWhole with
    | '.' :: r => (r.takeWhile Char.isDigit, r.dropWhile Char.isDigit)
    | r => ([], r)
  guard (!(whole ++ part).isEmpty)
  let exponent : Int ← match afterPart with
    | [] => some 0
    | e :: r =>
      if e = 'e' ∨ e = 'E' then
        let (minus, ds) := splitSign r
        if ds.isEmpty || !ds.all Char.isDigit || 4 < ds.length then none
        else some (if minus then -(digitsValue ds : Int) else digitsValue ds)
      else none
  let mantissa : Int := digitsValue (whole ++ part)
  let units := if negative then -mantissa else mantissa
  let sign := if negative then 1 else 0
  let wholeWidth := max 1 whole.length
  let width := sign + wholeWidth + if part.isEmpty then 0 else part.length + 1
  if exponent = 0 then return ⟨units, part.length, width⟩
  else
    let shifted : Int := (part.length : Int) - exponent
    if shifted ≤ 0 then
      let units := units * (Nat.pow 10 (-shifted).toNat : Nat)
      return ⟨units, 0, (signedNumeral units).length⟩
    else
      let places := shifted.toNat
      let size := max (numeral units.natAbs).length (places + 1)
      return ⟨units, places, sign + size + 1⟩

/-- A number of units written with places behind the point. -/
def written (units : Int) (places : Nat) : Text :=
  let digits := paddedNumeral (places + 1) units.natAbs
  let whole := digits.take (digits.length - places)
  let part := digits.drop (digits.length - places)
  (if units < 0 then ['-'] else []) ++ whole ++ if places = 0 then [] else '.' :: part

/-- A text filled up with zeros behind its sign. -/
def zeroFilled (width : Nat) (t : Text) : Text :=
  let (sign, digits) : Text × Text := match t with
    | '-' :: ds => (['-'], ds)
    | ds => ([], ds)
  sign ++ List.replicate (width - t.length) '0' ++ digits

end Decimal

/-- How `seq` takes options. -/
def seqUsage : Usage :=
  .strict (OptionForm.flags [('w', "equal-width")] ++
    OptionForm.valuedFlags [('f', "format"), ('s', "separator")])

/-- Words with a mark in front of the first one that is a negative number, where options end. -/
def beforeNegative : List Text → List Text
  | [] => []
  | t :: ts =>
    let isNegative := match t with
      | '-' :: c :: _ => c.isDigit || c = '.'
      | _ => false
    if isNegative then "--".toList :: t :: ts
    else if t.head? ≠ some '-' ∨ t = "--".toList then t :: ts
    else if t = "-f".toList ∨ t = "-s".toList then
      match ts with
      | value :: rest => t :: value :: beforeNegative rest
      | [] => [t]
    else t :: beforeNegative ts

/-- What is wrong with the format of numbers, if something is: it has to hold one directive for
them. -/
def formatFault (format : Text) : Option Text :=
  go format.length 0 format
where
  /-- Looks at what is left, with the number of directives so far. -/
  go : (fuel : Nat) → (count : Nat) → Text → Option Text
    | 0, count, _ => missing count
    | _, count, [] => missing count
    | fuel + 1, count, '%' :: '%' :: t => go fuel count t
    | fuel + 1, count, '%' :: t =>
      let rest := t.dropWhile fun c => "-+#0 '".toList.contains c
      let rest := rest.dropWhile Char.isDigit
      let rest := match rest with
        | '.' :: r => r.dropWhile Char.isDigit
        | r => r
      let rest := match rest with
        | 'L' :: r => r
        | r => r
      match rest with
      | [] => some ("format ".toList ++ Quoting.word format ++ " ends in %".toList)
      | c :: r =>
        if ¬ "efgaEFGA".toList.contains c then
          some ("format ".toList ++ Quoting.word format ++ " has unknown %".toList ++ [c] ++
            " directive".toList)
        else if 1 ≤ count then
          some ("format ".toList ++ Quoting.word format ++ " has too many % directives".toList)
        else go fuel (count + 1) r
    | fuel + 1, count, _ :: t => go fuel count t
  /-- What is wrong at the end. -/
  missing (count : Nat) : Option Text :=
    if count = 0 then some ("format ".toList ++ Quoting.word format ++ " has no % directive".toList)
    else none

/-- How many numbers are written at once. -/
def seqBlock : Nat := 256

/-- How many blocks of numbers are written at most. -/
def seqLimit : Nat := 1000000

/-- Writes the numbers of a sequence, from a number of units on.  A sequence without a last number
goes on as long as somebody reads it. -/
def writeSequence (shown : Int → Text) (separator : Text) (step : Int) (last : Option Int) :
    (fuel : Nat) → (isFirst : Bool) → (next : Int) → Task Unit
  | 0, _, _ => pure ()
  | fuel + 1, isFirst, next => do
    let isWithin (n : Int) : Bool := match last with
      | none => true
      | some l => if step < 0 then l ≤ n else n ≤ l
    let block := ((List.range seqBlock).map fun (i : Nat) => next + step * (i : Int)).takeWhile
      isWithin
    for (n, i) in block.zip (List.range block.length) do
      print ((if isFirst && i == 0 then [] else separator) ++ shown n)
    if block.length < seqBlock then
      unless isFirst && block.isEmpty do print ['\n']
    else writeSequence shown separator step last fuel false (next + step * (seqBlock : Int))

/-- Writes the numbers of a sequence. -/
def seq (arguments : List Text) : Task Int := do
  let run (given : Given) (operands : List Text) : Task Int := do
    if operands.isEmpty then return ← refuse "missing operand".toList 1
    if let some extra := operands[3]? then return ← refuseExtra extra
    let format := given.value? "f"
    if let some message := format.bind formatFault then
      complain message
      return 1
    if format.isSome ∧ given.has "w" then
      return ← refuse ("format string may not be specified ".toList ++
        "when printing equal width strings".toList) 1
    let isEndless (t : Text) : Bool := ["inf", "infinity"].contains (String.ofList (t.map Char.toLower))
    for t in operands do
      if (Decimal.ofText? t).isNone && !isEndless t then
        let isNan := (t.map Char.toLower) = "nan".toList
        return ← refuse ((if isNan then "invalid 'not-a-number' argument: "
          else "invalid floating point argument: ").toList ++ Quoting.word t) 1
    let number (t : Text) : Decimal := (Decimal.ofText? t).getD ⟨0, 0, 0⟩
    let one : Decimal := ⟨1, 0, 1⟩
    let (first, step, last) : Decimal × Decimal × Text := match operands with
      | [l] => (one, one, l)
      | [f, l] => (number f, one, l)
      | f :: s :: l :: _ => (number f, number s, l)
      | [] => (one, one, [])
    if step.units = 0 then
      return ← refuse ("invalid Zero increment value: ".toList ++
        Quoting.word (operands.getD 1 [])) 1
    let endless := isEndless last
    let last := number last
    let places := max first.places step.places
    let common := max places last.places
    let widthOf (d : Decimal) : Nat :=
      let point (n : Nat) : Nat := if n = 0 then 0 else 1
      d.width - (d.places + point d.places) + places + point places
    let width := if given.has "w" then max (widthOf first) (widthOf last) else 0
    let scale : Int := (Nat.pow 10 (common - places) : Nat)
    let shown (n : Int) : Text :=
      let t := Decimal.written (n.tdiv scale) places
      match format with
      | some f => (formatted (f.filter (· ≠ 'L')) [t]).1
      | none => Decimal.zeroFilled width t
    writeSequence shown ((given.value? "s").getD ['\n']) (step.scaledTo common)
      (if endless then none else some (last.scaledTo common)) seqLimit true
      (first.scaledTo common)
    return 0
  seqUsage.call run (beforeNegative arguments)

/-- A power of a number, of which only the remainder is kept. -/
def powerMod (m : Nat) : (fuel base n : Nat) → Nat
  | 0, _, _ => 1 % m
  | fuel + 1, base, n =>
    if n = 0 then 1 % m
    else
      let half := powerMod m fuel (base * base % m) (n / 2)
      if n % 2 = 1 then half * base % m else half

/-- How often two divides a number. -/
def twosIn : (fuel n : Nat) → Nat
  | 0, _ => 0
  | fuel + 1, n => if n % 2 = 0 then twosIn fuel (n / 2) + 1 else 0

/-- A number is prime, as far as the powers of some bases tell. -/
def isProbablyPrime (n : Nat) : Bool :=
  let bases := [2, 3, 5, 7, 11, 13, 17, 19, 23, 29, 31, 37, 41]
  if n < 2 then false
  else if bases.contains n then true
  else if bases.any fun b => n % b = 0 then false
  else
    let s := twosIn 200 (n - 1)
    let d := (n - 1) / Nat.pow 2 s
    bases.all fun b =>
      let x := powerMod n 300 b d
      x = 1 || x = n - 1 || (List.range (s - 1)).any fun i =>
        powerMod n 300 x (Nat.pow 2 (i + 1)) = n - 1

/-- A divisor of a number, looked for among differences of two walks through remainders. -/
def walkForDivisor (n c : Nat) : (fuel x y : Nat) → Option Nat
  | 0, _, _ => none
  | fuel + 1, x, y =>
    let next (x : Nat) : Nat := (x * x + c) % n
    let x := next x
    let y := next (next y)
    let d := Nat.gcd (if x < y then y - x else x - y) n
    if d = n then none
    else if d = 1 then walkForDivisor n c fuel x y
    else some d

/-- The prime factors of a number without small ones, found in at most `fuel` divisions. -/
def largeFactors : (fuel n : Nat) → List Nat
  | 0, n => [n]
  | fuel + 1, n =>
    if n < 2 then []
    else if isProbablyPrime n then [n]
    else
      match (List.range 20).findSome? fun c => walkForDivisor n (c + 1) 200000 2 2 with
      | some d => largeFactors fuel d ++ largeFactors fuel (n / d)
      | none => [n]

/-- The prime factors of a number that are small, from a divisor on, and what is left. -/
def smallFactors : (fuel d n : Nat) → List Nat × Nat
  | 0, _, n => ([], n)
  | fuel + 1, d, n =>
    if n < d * d then ([], n)
    else if n % d = 0 then
      let (factors, left) := smallFactors fuel d (n / d)
      (d :: factors, left)
    else smallFactors fuel (if d = 2 then 3 else d + 2) n

/-- The prime factors of a number, in order. -/
def factorsOf (n : Nat) : List Nat :=
  if n < 2 then []
  else
    let (small, left) := smallFactors 4000 2 n
    small ++ (largeFactors 64 left).mergeSort fun a b => a ≤ b

/-- Writes the prime factors of numbers. -/
def factor (_ : Given) (operands : List Text) : Task Int := do
  let mut status : Int := 0
  let isApart (c : Char) : Bool := c = '\n' || c = ' ' || c = '\t'
  let words ←
    if operands.isEmpty then
      let bytes ← Task.takeAll 0
      let t := Raw.ofBytes (bytes.toOption.getD [])
      pure ((pieces ' ' (t.map fun c => if isApart c then ' ' else c)).filter (!·.isEmpty))
    else pure operands
  for t in words do
    let digits := match t.dropWhile isSpace with
      | '+' :: ds => ds
      | ds => ds
    if digits.isEmpty || !digits.all Char.isDigit then
      complain (Quoting.word t ++ " is not a valid positive integer".toList)
      status := 1
    else
      let n := digitsValue digits
      printLine (numeral n ++ ':' :: (factorsOf n).flatMap fun f => ' ' :: numeral f)
  return status

end LineShell.Sh.Tool
