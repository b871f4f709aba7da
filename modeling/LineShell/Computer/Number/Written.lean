import LineShell.Computer.Number.Binary

/-!
# How numbers with fractions are written

Four ways to write a number without its sign: with a fixed number of places, as digits and a power
of ten, in the shorter one of these two ways, and in hexadecimal digits.  All of them round to the
nearest text, and of two equally near ones to the one whose last digit is even.
-/

namespace LineShell.Written

/-- Which ways there are to write a number. -/
inductive Way where
  | fixed
  | scientific
  /-- The one of the two that suits the number. -/
  | general
  | hexadecimal
deriving DecidableEq, Repr

/-- Digits with a point before the last ones, of which `places` tells the number.  Without any
places the point is only there if it is kept. -/
def pointed (keepsPoint : Bool) (places : Nat) (digits : Text) : Text :=
  let digits := List.replicate (places + 1 - digits.length) '0' ++ digits
  let whole := digits.take (digits.length - places)
  let part := digits.drop (digits.length - places)
  whole ++ if part.isEmpty && !keepsPoint then [] else '.' :: part

/-- A fraction with a number of places. -/
def fixed (keepsPoint : Bool) (places n d : Nat) : Text :=
  pointed keepsPoint places (numeral (nearestScaled 10 n d places))

/-- The greatest power of ten that is not above a fraction.  Below one, it is the opposite of the
number of digits of the greatest integer that is smaller than the reciprocal. -/
def leadingPower (n d : Nat) : Int :=
  if d ≤ n then ((numeral (n / d)).length : Int) - 1
  else -((numeral ((d + n - 1) / n - 1)).length : Int)

/-- The digits of a fraction, one and then as many as given, and the power of ten of the first one.
-/
def leadingDigits (places n d : Nat) : Nat × Int :=
  if n = 0 then (0, 0)
  else
    let power := leadingPower n d
    let digits := nearestScaled 10 n d (places - power)
    if digits < Nat.pow 10 (places + 1) then (digits, power)
    else (Nat.pow 10 places, power + 1)

/-- An exponent with its sign and at least as many digits as given. -/
def exponent (width : Nat) (power : Int) : Text :=
  (if power < 0 then '-' else '+') :: paddedNumeral width power.natAbs

/-- A fraction as digits and a power of ten. -/
def scientific (keepsPoint : Bool) (places n d : Nat) : Text :=
  let (digits, power) := leadingDigits places n d
  pointed keepsPoint places (numeral digits) ++ 'e' :: exponent 2 power

/-- A text without the zeros at its end and a point before them. -/
def withoutZeros (t : Text) : Text :=
  if t.contains '.' then
    match (t.reverse.dropWhile (· = '0')) with
    | '.' :: rest => rest.reverse
    | rest => rest.reverse
  else t

/-- A fraction with a number of digits, in the way that suits its power of ten. -/
def general (keepsPoint : Bool) (digits n d : Nat) : Text :=
  let digits := max digits 1
  let power := (leadingDigits (digits - 1) n d).2
  let trim (t : Text) : Text := if keepsPoint then t else withoutZeros t
  if -4 ≤ power ∧ power < digits then
    trim (fixed keepsPoint ((digits : Int) - 1 - power).toNat n d)
  else
    let t := scientific keepsPoint (digits - 1) n d
    trim (t.takeWhile (· ≠ 'e')) ++ t.dropWhile (· ≠ 'e')

/-- A number in hexadecimal digits, with as many places as given or as needed.  The first digit of a
significand holds the bits that are left in front of the others. -/
def hexadecimal (w : Binary.Width) (keepsPoint : Bool) (places : Option Nat) (significand : Nat)
    (exp : Int) : Text :=
  let most := w.hexPlaces
  let behind : Int := 4 * most
  let front : Int := w.precision - behind - 1
  let highest : Int := (Nat.log2 significand : Int) + exp
  let least : Int := w.leastExponent + w.precision - 1
  let power := if significand = 0 then 0 else max highest least - front
  let bits := (scaled 2 significand 1 (exp - power + behind)).1
  let isEnough (n : Nat) : Bool := bits % Nat.pow 16 (most - n) = 0
  let needed := ((List.range (most + 1)).find? isEnough).getD most
  let count := places.getD needed
  let digits :=
    if count < most then nearestQuotient bits (Nat.pow 16 (most - count))
    else bits * Nat.pow 16 (count - most)
  "0x".toList ++ pointed keepsPoint count (Nat.toDigits 16 digits) ++ 'p' :: exponent 1 power

/-- A number without its sign. -/
def unsigned (w : Binary.Width) (way : Way) (keepsPoint : Bool) (places : Option Nat) :
    Binary → Text
  | .infinite _ => "inf".toList
  | .undefined _ => "nan".toList
  | .finite _ significand exp =>
    let (n, d) := scaled 2 significand 1 exp
    match way with
    | .fixed => fixed keepsPoint (places.getD 6) n d
    | .scientific => scientific keepsPoint (places.getD 6) n d
    | .general => general keepsPoint (places.getD 6) n d
    | .hexadecimal => hexadecimal w keepsPoint places significand exp

end LineShell.Written
