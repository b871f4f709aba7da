import LineShell.Text.Numeral

/-!
# Integers at the beginning of texts

Computers read integers off the beginning of a text, in base ten or, where marks count, in the base
that the first digits announce: hexadecimal after `0x`, octal after `0`.  An integer that sixty-four
bits cannot hold is read as the nearest one that they can.
-/

namespace LineShell

/-- The character is a space or moves to another place in a line or page. -/
def isSpace (c : Char) : Bool :=
  c = ' ' || ('\t' ≤ c && c ≤ '\x0d')

/-- The value of a digit in a base, if it is one. -/
def digitIn? (base : Nat) (c : Char) : Option Nat :=
  let value :=
    if c.isDigit then c.toNat - '0'.toNat
    else if 'a' ≤ c ∧ c ≤ 'z' then c.toNat - 'a'.toNat + 10
    else if 'A' ≤ c ∧ c ≤ 'Z' then c.toNat - 'A'.toNat + 10
    else base
  if value < base then some value else none

/-- The number that digits in a base denote, other characters being left out. -/
def digitsIn (base : Nat) (digits : Text) : Nat :=
  (digits.filterMap (digitIn? base)).foldl (fun n d => n * base + d) 0

/-- An integer at the beginning of a text. -/
structure LeadingInteger where
  value : Int
  /-- What follows the integer. -/
  left : Text
deriving DecidableEq, Repr

namespace LeadingInteger

/-- The base that the first digits of a text announce, and the digits. -/
def announced (marks : Bool) (t : Text) : Nat × Text :=
  match marks, t with
  | true, '0' :: x :: d :: rest =>
    if x.toLower = 'x' ∧ (digitIn? 16 d).isSome then (16, d :: rest)
    else (8, t)
  | true, '0' :: _ => (8, t)
  | _, _ => (10, t)

/-- The integer at the beginning of a text, after spaces and at most one sign; nothing when no digit
stands there. -/
def ofText? (marks : Bool) (t : Text) : Option LeadingInteger :=
  let (negative, rest) := splitSign (t.dropWhile isSpace)
  let (base, rest) := announced marks rest
  let digits := rest.takeWhile fun c => (digitIn? base c).isSome
  if digits.isEmpty then none
  else
    let n := digitsIn base digits
    some ⟨if negative then -(n : Int) else n, rest.drop digits.length⟩

/-- Sixty-four bits hold the integer. -/
def isHeld (i : LeadingInteger) : Bool :=
  saturate i.value = i.value

end LeadingInteger

/-- The integer that a whole text denotes, with spaces around it or not, if sixty-four bits hold it.
-/
def wholeInteger? (marks : Bool) (t : Text) : Option Int :=
  match LeadingInteger.ofText? marks t with
  | some i => if i.isHeld && i.left.all isSpace then some i.value else none
  | none => none

end LineShell
