import LineShell.Text.Blank

/-!
# Decimal numerals

Numbers are written in decimal without leading zeros, except where a fixed width is asked for.  They
are read off the beginning of a text, whatever follows them, as exact integers that are then brought
into the range of a 64-bit signed integer.
-/

namespace LineShell

/-- The decimal numeral of a natural number. -/
def numeral (n : Nat) : Text :=
  Nat.toDigits 10 n

/-- The decimal numeral of an integer, with a minus sign before the negative ones. -/
def signedNumeral : Int → Text
  | .ofNat n => numeral n
  | .negSucc n => '-' :: numeral (n + 1)

/-- The decimal numeral of a natural number, filled up with zeros to the given width. -/
def paddedNumeral (width n : Nat) : Text :=
  List.replicate (width - (numeral n).length) '0' ++ numeral n

/-- The number that a list of decimal digits denotes. -/
def digitsValue (digits : Text) : Nat :=
  digits.foldl (fun n d => n * 10 + (d.toNat - '0'.toNat)) 0

/-- The least 64-bit signed integer. -/
def int64Min : Int := -9223372036854775808

/-- The greatest 64-bit signed integer. -/
def int64Max : Int := 9223372036854775807

/-- The nearest integer in the 64-bit signed range. -/
def saturate (n : Int) : Int :=
  max int64Min (min int64Max n)

/-- One sign at most: whether it is a minus, and what follows it. -/
def splitSign : Text → Bool × Text
  | '-' :: t => (true, t)
  | '+' :: t => (false, t)
  | t => (false, t)

/-- The integer at the beginning of a text, after blank characters and at most one sign, brought
into the 64-bit range; nothing when no digit stands there. -/
def leadingInt? (t : Text) : Option Int :=
  let (negative, rest) := splitSign (t.dropWhile isBlank)
  match rest.takeWhile Char.isDigit with
  | [] => none
  | digits =>
    some (saturate (if negative then -(digitsValue digits : Int) else digitsValue digits))

end LineShell
