import LineShell.Computer.Number.Written

/-!
# Numbers with units

A unit is a letter that stands for a power of 1000 or of 1024.  Numbers with units are kept with
sixty-four binary digits, and each step of a calculation rounds to the nearest number of that kind.
-/

namespace LineShell

/-- The units that numbers have. -/
inductive Scale where
  /-- There are no units. -/
  | plain
  /-- Powers of 1024 if an `i` follows the letter, and else powers of 1000. -/
  | auto
  /-- Powers of 1000. -/
  | decimal
  /-- Powers of 1024. -/
  | binary
  /-- Powers of 1024, with an `i` behind the letter. -/
  | marked
deriving DecidableEq, Repr

/-- How a number becomes whole. -/
inductive WholeRounding where
  | up
  | down
  | fromZero
  | towardsZero
  | nearest
deriving DecidableEq, Repr

namespace Scale

/-- The letters of the units. -/
def letters : Text := "KMGTPEZY".toList

/-- The factor between two units. -/
def base : Scale → Nat
  | binary => 1024
  | marked => 1024
  | _ => 1000

/-- A number as a fraction, without its sign. -/
def fraction : Binary → Nat × Nat
  | .finite _ significand exponent => scaled 2 significand 1 exponent
  | _ => (0, 1)

/-- The number that is nearest to a fraction. -/
def ofFraction (negative : Bool) (n d : Nat) : Binary :=
  (Binary.nearest .great negative n d).value

/-- A number times a whole one. -/
def times (k : Nat) (x : Binary) : Binary :=
  let (n, d) := fraction x
  ofFraction x.isNegative (n * k) d

/-- A number divided by a whole one. -/
def dividedBy (k : Nat) (x : Binary) : Binary :=
  let (n, d) := fraction x
  ofFraction x.isNegative n (d * k)

/-- The sum of two numbers of one sign. -/
def plus (x y : Binary) : Binary :=
  let (n, d) := fraction x
  let (m, e) := fraction y
  ofFraction x.isNegative (n * e + m * d) (d * e)

/-- The number is less than a whole one, whatever its sign. -/
def isBelow (x : Binary) (k : Nat) : Bool :=
  let (n, d) := fraction x
  n < k * d

/-- The whole number that a number becomes. -/
def whole (r : WholeRounding) (x : Binary) : Binary :=
  let (n, d) := fraction x
  let down := n / d
  let isWhole := n % d = 0
  let isUp : Bool := match r with
    | .up => !isWhole && !x.isNegative
    | .down => !isWhole && x.isNegative
    | .fromZero => !isWhole
    | .towardsZero => false
    | .nearest => d ≤ 2 * (n % d)
  let m := if isUp then down + 1 else down
  ofFraction (x.isNegative && m ≠ 0) m 1

/-- A number divided by a factor as long as it is not less than that, and how often that is. -/
def reduced (factor : Nat) : (fuel : Nat) → (power : Nat) → Binary → Binary × Nat
  | 0, power, x => (x, power)
  | fuel + 1, power, x =>
    if isBelow x factor then (x, power) else reduced factor fuel (power + 1) (dividedBy factor x)

/-- How often a number is divided at most. -/
def mostDivisions : Nat := 5000

/-- How many digits a number has in front of the point, less one. -/
def magnitude (x : Binary) : Nat :=
  (reduced 10 mostDivisions 0 x).2

/-- A number with places behind the point. -/
def placed (places : Nat) (x : Binary) : Text :=
  let (n, d) := fraction x
  (if x.isNegative then ['-'] else []) ++ Written.fixed false places n d

/-- A text that is filled with zeros behind its sign. -/
def zeroFilled (width : Nat) (t : Text) : Text :=
  let zeros := List.replicate (width - t.length) '0'
  match t with
  | '-' :: rest => '-' :: (zeros ++ rest)
  | _ => zeros ++ t

/-- A number with a unit, with as many places as asked for, or with one if it has a unit and is less
than ten; `zeros` is how wide it is at least. -/
def written (s : Scale) (r : WholeRounding) (places : Option Nat) (zeros : Nat) (x : Binary) : Text :=
  let (x, power) := reduced s.base mostDivisions 0 x
  let shift := match places with
    | some p => min (power * 3) p
    | none => if isBelow x 10 then 1 else 0
  let x := dividedBy (Nat.pow 10 shift) (whole r (times (Nat.pow 10 shift) x))
  let (x, power) := if isBelow x s.base then (x, power) else (dividedBy s.base x, power + 1)
  let showsPoint := (fraction x).1 ≠ 0 && isBelow x 10 && 0 < power
  let places := places.getD (if showsPoint then 1 else 0)
  zeroFilled zeros (placed places x) ++
    (if power = 0 then [] else
      letters.getD (power - 1) '?' :: if s = marked then ['i'] else [])

/-- A number without a unit. -/
def writtenPlain (r : WholeRounding) (places zeros : Nat) (x : Binary) : Text :=
  let factor := Nat.pow 10 places
  zeroFilled zeros (placed places (dividedBy factor (whole r (times factor x))))

/-- Why a text is no number with a unit. -/
inductive Fault where
  | tooGreat
  | malformed
  | badSuffix
  /-- Units are not read. -/
  | unwanted
  | missingMark
  /-- Something follows the unit. -/
  | leftover (rest : Text)
deriving DecidableEq, Repr

/-- How many digits are kept without a loss. -/
def exactDigits : Nat := 18

/-- How many digits a number may have. -/
def mostDigits : Nat := 27

/-- A number that has been read. -/
structure Reading where
  value : Binary
  /-- How many digits there are behind the point. -/
  places : Nat
  /-- There are more digits than are kept. -/
  isInexact : Bool

/-- The number that digits denote, digit by digit. -/
def ofDigits (negative : Bool) (digits : Text) : Binary :=
  digits.foldl (fun x c =>
    plus (times 10 x) (ofFraction negative (c.toNat - '0'.toNat) 1)) (.finite negative 0 0)

/-- A number without a unit at the beginning of a text, and what follows it. -/
def readPlain (t : Text) : Except Fault (Reading × Text) := do
  let negative := t.head? = some '-'
  let t := if negative then t.drop 1 else t
  let digits := t.takeWhile Char.isDigit
  let rest := t.drop digits.length
  let count (digits : Text) : Nat := (digits.dropWhile (· = '0')).length
  if mostDigits < count digits then throw .tooGreat
  if digits.isEmpty ∧ rest.head? ≠ some '.' then throw .malformed
  let value := ofDigits negative digits
  match rest with
  | '.' :: more =>
    let places := more.takeWhile Char.isDigit
    if mostDigits < count places then throw .tooGreat
    if places.isEmpty ∧ more.head? ≠ some '.' then throw .malformed
    let part := dividedBy (Nat.pow 10 places.length) (ofDigits negative places)
    return (⟨plus value part, places.length,
      exactDigits < count digits || exactDigits < count places⟩, more.drop places.length)
  | _ => return (⟨value, 0, exactDigits < count digits⟩, rest)

/-- The number with a unit that a text denotes, and whether all its digits are kept. -/
def read (s : Scale) (t : Text) : Except Fault Reading := do
  let (r, rest) ← readPlain t
  if rest.isEmpty then
    if s = marked then throw .missingMark
    return r
  match rest.dropWhile fun c => c = ' ' || c = '\t' with
  | [] => throw .badSuffix
  | c :: rest =>
    match letters.findIdx? (· = c) with
    | none => throw .badSuffix
    | some i =>
      if s = plain then throw .unwanted
      let isMarked := rest.head? = some 'i'
      if s = marked ∧ ¬ isMarked then throw .missingMark
      let takesMark : Bool := isMarked && (s == auto || s == marked)
      let base := if s = auto ∧ isMarked then 1024 else s.base
      let rest := if takesMark then rest.drop 1 else rest
      if ¬ rest.isEmpty then throw (.leftover rest)
      return { r with value := times (Nat.pow base (i + 1)) r.value, places := 0 }

end Scale

end LineShell
