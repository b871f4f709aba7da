import LineShell.Computer.Text.Integer

/-!
# Amounts and sizes

Tools read amounts of bytes or lines as digits, and after them a letter for a unit, which is a power
of 1024, or of 1000 if a `B` follows.  They show a size as a number of blocks, or in the greatest unit
in which it is at least one, with one digit after the point if it is less than ten.
-/

namespace LineShell.Sh

/-! ## Amounts as they are read -/

/-- Why a text is no amount. -/
inductive AmountFault where
  | malformed
  | tooGreat
deriving DecidableEq, Repr

namespace Amount

/-- The greatest amount. -/
def greatest : Nat := 18446744073709551615

/-- The powers that letters stand for. -/
def powers : List (Char × Nat) :=
  [('k', 1), ('K', 1), ('m', 2), ('M', 2), ('g', 3), ('G', 3), ('t', 4), ('T', 4), ('P', 5),
    ('E', 6), ('Z', 7), ('Y', 8)]

/-- The number that a unit at the end of an amount stands for, where some letters are allowed. -/
def unit? (letters : String) : Text → Option Nat
  | [] => some 1
  | ['b'] => if letters.toList.contains 'b' then some 512 else none
  | ['c'] => if letters.toList.contains 'c' then some 1 else none
  | ['w'] => if letters.toList.contains 'w' then some 2 else none
  | c :: rest =>
    if ¬ letters.toList.contains c then none
    else
      match powers.lookup c, String.ofList rest with
      | some n, "" => some (Nat.pow 1024 n)
      | some n, "iB" => some (Nat.pow 1024 n)
      | some n, "B" => some (Nat.pow 1000 n)
      | some n, "D" => some (Nat.pow 1000 n)
      | _, _ => none

/-- The letters that most tools allow. -/
def usualLetters : String := "bkKmMGTPEZY"

/-- The amount that a text names. -/
def ofText (letters : String) (t : Text) : Except AmountFault Nat :=
  let t := match t.dropWhile isSpace with
    | '+' :: t => t
    | t => t
  let digits := t.takeWhile Char.isDigit
  let rest := t.drop digits.length
  if digits.isEmpty ∧ rest.isEmpty then .error .malformed
  else
    match unit? letters rest with
    | none => .error .malformed
    | some unit =>
      let n := (if digits.isEmpty then 1 else digitsValue digits) * unit
      if greatest < n then .error .tooGreat else .ok n

/-- What follows the complaint about a text that is no amount. -/
def reason : AmountFault → Text
  | .malformed => []
  | .tooGreat => ": Value too large for defined data type".toList

end Amount

/-! ## Sizes as they are shown -/

/-- How a number that is not whole is rounded. -/
inductive SizeRounding where
  | up
  | nearest
deriving DecidableEq, Repr

/-- How sizes are shown. -/
structure SizeStyle where
  /-- The size of the blocks that are counted. -/
  block : Nat
  /-- The factor between two units. -/
  base : Nat
  /-- The unit is the greatest one in which there is at least one. -/
  scales : Bool
  /-- The letter of the unit is shown. -/
  showsUnit : Bool
  /-- The unit is shown to be one of bytes. -/
  showsByte : Bool
  /-- A blank is between the number and the unit. -/
  isSpaced : Bool
  rounding : SizeRounding
deriving DecidableEq, Repr

namespace SizeStyle

/-- The number of blocks. -/
def ofBlock (block : Nat) : SizeStyle := ⟨block, 1000, false, false, false, false, .up⟩

/-- The greatest unit that is a power of 1024. -/
def human : SizeStyle := ⟨1, 1024, true, true, false, false, .up⟩

/-- The greatest unit that is a power of 1000. -/
def decimal : SizeStyle := ⟨1, 1000, true, true, false, false, .up⟩

/-- The letters of the units. -/
def letters : Text := "KMGTPEZY".toList

/-- Whether a number is one greater than its whole part, where `rest` is left of a `whole`. -/
def roundsUp (rounding : SizeRounding) (isOdd : Bool) (rest whole : Nat) : Bool :=
  match rounding with
  | .up => rest ≠ 0
  | .nearest => whole < 2 * rest || (whole == 2 * rest && isOdd)

/-- The power of the base by which a number is divided. -/
def exponentOf (s : SizeStyle) : (fuel : Nat) → (n unit : Nat) → Nat
  | 0, _, _ => 0
  | fuel + 1, n, unit => if n < s.base * unit then 0 else s.exponentOf fuel n (unit * s.base) + 1

/-- The power of the base that a block is, or the next one above. -/
def exponentOfBlock (s : SizeStyle) : (fuel : Nat) → (power : Nat) → Nat
  | 0, _ => 0
  | fuel + 1, power => if power < s.block then s.exponentOfBlock fuel (power * s.base) + 1 else 0

/-- The name of a unit. -/
def unit (s : SizeStyle) (exponent : Nat) : Text :=
  if !s.showsUnit then []
  else
    let letter := if s.base = 1000 ∧ exponent = 1 then 'k' else letters.getD (exponent - 1) '?'
    (if s.isSpaced && (exponent ≠ 0 || s.showsByte) then [' '] else []) ++
      (if exponent = 0 then [] else [letter]) ++
      (if s.showsByte then
        (if s.base = 1024 ∧ exponent ≠ 0 then ['i', 'B'] else ['B']) else [])

/-- A number of things that have `size` bytes each. -/
def written (s : SizeStyle) (n size : Nat) : Text :=
  let whole := n * size
  if !s.scales then
    let amount := whole / s.block
    let up := roundsUp s.rounding (amount % 2 == 1) (whole % s.block) s.block
    numeral (if up then amount + 1 else amount) ++ s.unit (s.exponentOfBlock letters.length 1)
  else
    let exponent := s.exponentOf letters.length whole s.block
    let unitSize := s.block * Nat.pow s.base exponent
    let amount := whole / unitSize
    let tenths := whole % unitSize * 10 / unitSize
    let rest := whole % unitSize * 10 % unitSize
    let tenths := if roundsUp s.rounding (tenths % 2 == 1) rest unitSize then tenths + 1 else tenths
    let upper := amount * 10 + tenths
    if exponent ≠ 0 ∧ amount < 10 ∧ upper < 100 then
      numeral (upper / 10) ++ '.' :: numeral (upper % 10) ++ s.unit exponent
    else
      let amount := if exponent ≠ 0 ∧ amount < 10 then 10
        else if roundsUp s.rounding (amount % 2 == 1) (whole % unitSize) unitSize then amount + 1
        else amount
      if amount = s.base ∧ exponent < letters.length then '1' :: '.' :: '0' :: s.unit (exponent + 1)
      else numeral amount ++ s.unit exponent

end SizeStyle

/-- Why a text is no size of a block. -/
inductive BlockFault where
  | malformed
  | badSuffix
  | tooGreat
deriving DecidableEq, Repr

namespace SizeStyle

/-- The letters that stand for powers. -/
def powers : List (Char × Nat) :=
  [('e', 6), ('E', 6), ('g', 3), ('G', 3), ('k', 1), ('K', 1), ('m', 2), ('M', 2), ('p', 5), ('P', 5),
    ('t', 4), ('T', 4), ('y', 8), ('Y', 8), ('z', 7), ('Z', 7)]

/-- The greatest size of a block. -/
def greatestBlock : Nat := 18446744073709551615

/-- The size that a text names: `human-readable`, `si`, or a number with a unit.  The unit is shown if
no digits are in front of it. -/
def ofText (t : Text) : Except BlockFault SizeStyle := do
  let t := if t.head? = some '\'' then t.drop 1 else t
  if t ≠ [] ∧ t.isPrefixOf "human-readable".toList then return human
  if t ≠ [] ∧ t.isPrefixOf "si".toList then return decimal
  let (n, rest) ← match LeadingInteger.ofText? true t, t with
    | some i, _ =>
      if (t.dropWhile isSpace).head? = some '-' then throw .malformed
      else pure (i.value.toNat, i.left)
    | none, c :: _ => if (powers.lookup c).isSome then pure (1, t) else throw .malformed
    | none, [] => throw .malformed
  let (size, base, isByte) ← match rest with
    | [] => pure (n, 1000, false)
    | c :: suffix =>
      match powers.lookup c, String.ofList suffix with
      | some p, "" => pure (n * Nat.pow 1024 p, 1024, false)
      | some p, "iB" => pure (n * Nat.pow 1024 p, 1024, true)
      | some p, "B" => pure (n * Nat.pow 1000 p, 1000, true)
      | some p, "D" => pure (n * Nat.pow 1000 p, 1024, false)
      | _, _ => throw .badSuffix
  if greatestBlock < size then throw .tooGreat
  if size = 0 then throw .malformed
  if t.any Char.isDigit then return ofBlock size
  return { ofBlock size with base, showsUnit := true, showsByte := isByte }

end SizeStyle

/-- What is wrong with the size of a block, which an option gave. -/
def BlockFault.message (option value : Text) : BlockFault → Text
  | .malformed => "invalid ".toList ++ option ++ " argument '".toList ++ value ++ ['\'']
  | .badSuffix =>
    "invalid suffix in ".toList ++ option ++ " argument '".toList ++ value ++ ['\'']
  | .tooGreat => option ++ " argument '".toList ++ value ++ "' too large".toList

end LineShell.Sh
