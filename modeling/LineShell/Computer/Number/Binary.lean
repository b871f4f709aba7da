import LineShell.Computer.Text.Integer

/-!
# Numbers with binary fractions

Numbers with a fraction are kept with as many binary digits as a width has.  A number that is
written down is rounded to the nearest one that can be kept, of two equally near ones to the one
whose last digit is zero; what is too great becomes infinite.
-/

namespace LineShell

/-- A number as a computer keeps it. -/
inductive Binary where
  /-- The number `significand * 2 ^ exponent`, or its opposite. -/
  | finite (negative : Bool) (significand : Nat) (exponent : Int)
  | infinite (negative : Bool)
  /-- No number at all. -/
  | undefined (negative : Bool)
deriving DecidableEq, Repr

/-- The integer that is nearest to a quotient, of two equally near ones the even one. -/
def nearestQuotient (n d : Nat) : Nat :=
  let q := n / d
  let r := n % d
  if 2 * r < d ∨ (2 * r = d ∧ q % 2 = 0) then q else q + 1

/-- A fraction times a power of a base, as a numerator and a denominator. -/
def scaled (base n d : Nat) (power : Int) : Nat × Nat :=
  if 0 ≤ power then (n * Nat.pow base power.toNat, d) else (n, d * Nat.pow base (-power).toNat)

/-- The rounded quotient of a fraction times a power of a base. -/
def nearestScaled (base n d : Nat) (power : Int) : Nat :=
  let (n, d) := scaled base n d power
  nearestQuotient n d

namespace Binary

/-- Which numbers can be kept. -/
structure Width where
  /-- The number of binary digits of a significand. -/
  precision : Nat
  /-- The exponent of the least number. -/
  leastExponent : Int
  /-- The power of two that is too great. -/
  overflowPower : Int
  /-- How many of the hexadecimal digits of a significand stand behind the point. -/
  hexPlaces : Nat
deriving DecidableEq, Repr

namespace Width

/-- Sixty-four bits. -/
def usual : Width := ⟨53, -1074, 1024, 13⟩

/-- Eighty bits. -/
def great : Width := ⟨64, -16445, 16384, 15⟩

end Width

/-- A number together with whether it can be kept without a loss of range. -/
structure Rounded where
  value : Binary
  isHeld : Bool
deriving DecidableEq, Repr

/-- The greatest power of two that is not above a fraction. -/
def leadingPower (n d : Nat) : Int :=
  let guess : Int := (Nat.log2 n : Int) - (Nat.log2 d : Int)
  let (n, d) := scaled 2 n d (-guess)
  if d ≤ n then guess else guess - 1

/-- The number that is nearest to a fraction. -/
def nearest (w : Width) (negative : Bool) (n d : Nat) : Rounded :=
  if n = 0 then ⟨.finite negative 0 0, true⟩
  else
    let power := leadingPower n d
    let exponent := max (power - w.precision + 1) w.leastExponent
    let (n', d') := scaled 2 n d (-exponent)
    let significand := nearestQuotient n' d'
    if w.overflowPower ≤ (Nat.log2 significand : Int) + exponent then ⟨.infinite negative, false⟩
    else
      let isTiny := power < w.leastExponent + w.precision - 1
      ⟨.finite negative significand exponent, !(isTiny && n' % d' ≠ 0)⟩

/-- The number `n * base ^ power`, of which `digits` tells how many powers of ten or of two it may
be away from `base ^ power`. -/
def ofScaled (w : Width) (negative : Bool) (base n : Nat) (digits : Nat) (power : Int) :
    Rounded :=
  let farthest := 2 * w.overflowPower
  if n = 0 then ⟨.finite negative 0 0, true⟩
  else if farthest < power + digits then ⟨.infinite negative, false⟩
  else if power + digits < -farthest then ⟨.finite negative 0 0, false⟩
  else
    let (n, d) := scaled base n 1 power
    nearest w negative n d

/-- The exponent after a mark at the beginning of a text, and what follows it. -/
def exponent? (mark : Char) (t : Text) : Option (Int × Text) :=
  match t with
  | c :: t =>
    if c.toLower = mark then
      let (negative, t) := splitSign t
      let digits := t.takeWhile Char.isDigit
      if digits.isEmpty then none
      else
        let n := digitsValue digits
        some (if negative then -(n : Int) else n, t.drop digits.length)
    else none
  | [] => none

/-- The digits before and after a point at the beginning of a text, and what follows them. -/
def digitsAround (isDigit : Char → Bool) (t : Text) : Text × Text × Text :=
  let whole := t.takeWhile isDigit
  match t.drop whole.length with
  | '.' :: t =>
    let part := t.takeWhile isDigit
    if whole.isEmpty && part.isEmpty then ([], [], '.' :: t)
    else (whole, part, t.drop part.length)
  | t => (whole, [], t)

/-- A hexadecimal number after its mark, and what follows it. -/
def hexadecimal? (w : Width) (negative : Bool) (t : Text) : Option (Rounded × Text) :=
  let (whole, part, t) := digitsAround (fun c => (digitIn? 16 c).isSome) t
  if whole.isEmpty && part.isEmpty then none
  else
    let (power, t) := (exponent? 'p' t).getD (0, t)
    let digits := whole ++ part
    let power := power - 4 * part.length
    some (ofScaled w negative 2 (digitsIn 16 digits) (4 * digits.length) power, t)

/-- A decimal number, and what follows it. -/
def decimal? (w : Width) (negative : Bool) (t : Text) : Option (Rounded × Text) :=
  let (whole, part, t) := digitsAround Char.isDigit t
  if whole.isEmpty && part.isEmpty then none
  else
    let (power, t) := (exponent? 'e' t).getD (0, t)
    let digits := whole ++ part
    some (ofScaled w negative 10 (digitsValue digits) digits.length (power - part.length), t)

/-- What follows a word at the beginning of a text, whatever its case. -/
def afterWord? (word : String) (t : Text) : Option Text :=
  if word.toList.isPrefixOf (t.map Char.toLower) then some (t.drop word.length) else none

/-- What follows a name in brackets at the beginning of a text, if there is one. -/
def afterName (t : Text) : Text :=
  match t with
  | '(' :: rest =>
    match rest.dropWhile fun c => c.isAlphanum || c = '_' with
    | ')' :: rest => rest
    | _ => t
  | _ => t

/-- The number at the beginning of a text, and what follows it; nothing when none stands there. -/
def ofText? (w : Width) (t : Text) : Option (Rounded × Text) :=
  let (negative, t) := splitSign (t.dropWhile isSpace)
  match afterWord? "infinity" t, afterWord? "inf" t, afterWord? "nan" t, afterWord? "0x" t with
  | some t, _, _, _ => some (⟨.infinite negative, true⟩, t)
  | _, some t, _, _ => some (⟨.infinite negative, true⟩, t)
  | _, _, some t, _ => some (⟨.undefined negative, true⟩, afterName t)
  | _, _, _, some digits => (hexadecimal? w negative digits).or (decimal? w negative t)
  | _, _, _, _ => decimal? w negative t

/-- A natural number. -/
def ofNat (w : Width) (n : Nat) : Binary :=
  (nearest w false n 1).value

/-- The number has a minus sign. -/
def isNegative : Binary → Bool
  | .finite negative _ _ => negative
  | .infinite negative => negative
  | .undefined negative => negative

end Binary

/-! ## Numbers of the processor

The processor calculates with numbers of sixty-four bits.  Here they are taken apart into what they
are made of, and put together from it.
-/

namespace Binary

/-- The number of the processor that has this value. -/
def toFloat : Binary → Float
  | .finite negative significand exponent =>
    let x := (Float.ofNat significand).scaleB exponent
    if negative then -x else x
  | .infinite negative => if negative then -1.0 / 0.0 else 1.0 / 0.0
  | .undefined _ => 0.0 / 0.0

/-- The value of a number of the processor: one bit tells the sign, eleven bits the power of two, and
fifty-two bits are the last ones of the significand. -/
def ofFloat (x : Float) : Binary :=
  let bits := x.toBits.toNat
  let negative := bits / 0x8000000000000000 = 1
  let power := bits / 0x10000000000000 % 0x800
  let fraction := bits % 0x10000000000000
  if power = 0x7FF then
    if fraction = 0 then .infinite negative else .undefined true
  else if power = 0 then .finite negative fraction (-1074)
  else .finite negative (fraction + 0x10000000000000) ((power : Int) - 1075)

end Binary

namespace Floating

/-- The integer that is left of a number of the processor without its fraction, between two limits.
What is no number is below the lower one. -/
def integerPart (least greatest : Int) (x : Float) : Int :=
  match Binary.ofFloat x with
  | .finite negative significand exponent =>
    let n : Int := (scaled 2 significand 1 exponent).1 / (scaled 2 significand 1 exponent).2
    max least (min greatest (if negative then -n else n))
  | .infinite false => greatest
  | .infinite true => least
  | .undefined _ => least

/-- The number is an integer of sixty-four bits, one of which is for the sign. -/
def isWhole (x : Float) : Bool :=
  -9223372036854775808.0 ≤ x && x < 9223372036854775808.0 && x.toInt64.toFloat == x

end Floating

end LineShell
