import LineShell.Text.Utf8

/-!
# Bytes in letters

Bytes are written in the letters of an alphabet, each of which stands for a few bits.  As many bits
as fill whole bytes make a group, and where the last group is not full, signs fill it up.
-/

namespace LineShell

/-- A way to write bytes in letters. -/
structure Encoding where
  alphabet : Text
  /-- How many bits a letter stands for. -/
  bits : Nat
  /-- How many letters make a group. -/
  size : Nat
  /-- The least bit comes first. -/
  isBackward : Bool
  /-- A group that is cut short is read as far as it goes. -/
  readsShort : Bool

namespace Encoding

/-- What fills up the last group. -/
def filler : Char := '='

/-- The bits of a number, greatest one first. -/
def bitsOf : (count n : Nat) → List Bool
  | 0, _ => []
  | count + 1, n => bitsOf count (n / 2) ++ [n % 2 == 1]

/-- The number that bits are the digits of, greatest one first. -/
def numberOf (bs : List Bool) : Nat :=
  bs.foldl (fun n b => n * 2 + if b then 1 else 0) 0

/-- Bits in the order in which they are written. -/
def ordered (e : Encoding) (bs : List Bool) : List Bool :=
  if e.isBackward then bs.reverse else bs

/-- Bits in groups of a size, of which the last one is filled up with zeros; read in at most `fuel`
groups. -/
def bitGroups (size : Nat) : (fuel : Nat) → List Bool → List (List Bool)
  | 0, _ => []
  | _, [] => []
  | fuel + 1, bs =>
    let first := bs.take size
    (first ++ List.replicate (size - first.length) false) :: bitGroups size fuel (bs.drop size)

/-- The bits of bytes. -/
def bitsOfBytes (e : Encoding) (bytes : List UInt8) : List Bool :=
  bytes.flatMap fun b => e.ordered (bitsOf 8 b.toNat)

/-- Bytes in letters. -/
def encode (e : Encoding) (bytes : List UInt8) : Text :=
  let bs := e.bitsOfBytes bytes
  let letters := (bitGroups e.bits bs.length bs).map fun g => e.alphabet.getD (numberOf g) ' '
  let missing := (e.size - letters.length % e.size) % e.size
  letters ++ List.replicate missing filler

/-- The number of a letter. -/
def letter? (e : Encoding) (c : Char) : Option Nat :=
  e.alphabet.findIdx? (· = c)

/-- How many letters of a group are needed for one more byte each. -/
def stops (e : Encoding) : List Nat :=
  (List.range (e.size + 1)).filter fun n => e.bits * (n - 1) / 8 < e.bits * n / 8

/-- The bytes of one group, and whether it is one. -/
def decodeGroup (e : Encoding) (group : Text) : List UInt8 × Bool :=
  let known := group.takeWhile fun c => (e.letter? c).isSome
  let read := ((e.stops.filter (· ≤ known.length)).getLast?).getD 0
  let bs := (known.take read).flatMap fun c => bitsOf e.bits ((e.letter? c).getD 0)
  let bytes := (bitGroups 8 (bs.length / 8) bs).map fun g => UInt8.ofNat (numberOf (e.ordered g))
  let isWhole := group.length = e.size && read ≠ 0 && (group.drop read).all (· = filler)
  (if group.length = e.size || e.readsShort then bytes else [], isWhole)

/-- The bytes that letters stand for, as far as they are read, and whether all of them are, in at
most `fuel` groups. -/
def decodeWithin (e : Encoding) : (fuel : Nat) → Text → List UInt8 × Bool
  | 0, _ => ([], true)
  | _, [] => ([], true)
  | fuel + 1, t =>
    match e.decodeGroup (t.take e.size) with
    | (bytes, false) => (bytes, false)
    | (bytes, true) =>
      let (more, succeeds) := decodeWithin e fuel (t.drop e.size)
      (bytes ++ more, succeeds)

/-- The bytes that letters stand for, as far as they are read, and whether all of them are. -/
def decode (e : Encoding) (t : Text) : List UInt8 × Bool :=
  e.decodeWithin t.length t

/-- The letters of one alphabet and its digits. -/
def capitals : Text := "ABCDEFGHIJKLMNOPQRSTUVWXYZ".toList

/-- The small letters. -/
def smalls : Text := capitals.map Char.toLower

/-- The digits. -/
def digits : Text := "0123456789".toList

/-- Sixty-four letters. -/
def base64 : Encoding := ⟨capitals ++ smalls ++ digits ++ ['+', '/'], 6, 4, false, true⟩

/-- Sixty-four letters that may stand in names. -/
def base64url : Encoding := { base64 with alphabet := capitals ++ smalls ++ digits ++ ['-', '_'] }

/-- Thirty-two letters. -/
def base32 : Encoding := ⟨capitals ++ "234567".toList, 5, 8, false, false⟩

/-- Thirty-two letters in the order of their numbers. -/
def base32hex : Encoding := { base32 with alphabet := digits ++ capitals.take 22 }

/-- Sixteen digits. -/
def base16 : Encoding := ⟨digits ++ capitals.take 6, 4, 2, false, false⟩

/-- Bits, greatest one first. -/
def base2msbf : Encoding := ⟨['0', '1'], 1, 8, false, false⟩

/-- Bits, least one first. -/
def base2lsbf : Encoding := { base2msbf with isBackward := true }

/-- The ways to write bytes, by their names. -/
def named : List (String × Encoding) :=
  [("base64", base64), ("base64url", base64url), ("base32", base32), ("base32hex", base32hex),
    ("base16", base16), ("base2msbf", base2msbf), ("base2lsbf", base2lsbf)]

end Encoding

end LineShell
