/-!
# Messages in blocks

A digest of bytes is made block by block: the message gets a mark and its length in bits at its end,
so that it fills whole blocks, and each block changes a state that is a few words.
-/

namespace LineShell.Digest

/-- The digits of a number to the base 256, as many as given, least one first. -/
def littleBytes : (count n : Nat) → List UInt8
  | 0, _ => []
  | count + 1, n => UInt8.ofNat (n % 256) :: littleBytes count (n / 256)

/-- The digits of a number to the base 256, as many as given, greatest one first. -/
def bigBytes (count n : Nat) : List UInt8 :=
  (littleBytes count n).reverse

/-- The number that bytes are the digits of, least one first. -/
def littleNumber (bytes : List UInt8) : Nat :=
  bytes.foldr (fun b n => n * 256 + b.toNat) 0

/-- The number that bytes are the digits of, greatest one first. -/
def bigNumber (bytes : List UInt8) : Nat :=
  bytes.foldl (fun n b => n * 256 + b.toNat) 0

/-- Items in groups of a size; the last one may be smaller. -/
def grouped {α : Type} (size : Nat) (items : List α) : List (List α) :=
  go (items.length / size + 1) items
where
  /-- Groups what is left, in at most `fuel` groups. -/
  go : (fuel : Nat) → List α → List (List α)
    | 0, _ => []
    | _, [] => []
    | fuel + 1, items => items.take size :: go fuel (items.drop size)

/-- A message that fills whole blocks: a mark, zeros and its length in bits follow it, of which the
length takes up `lengthBytes` bytes. -/
def padded (block lengthBytes : Nat) (lengthOf : Nat → List UInt8) (message : List UInt8) :
    List UInt8 :=
  let size := message.length
  let zeros := (2 * block - 1 - lengthBytes - size % block) % block
  message ++ 0x80 :: List.replicate zeros 0 ++ lengthOf (8 * size)

/-- Bytes in hexadecimal digits. -/
def hexadecimal (bytes : List UInt8) : List Char :=
  bytes.flatMap fun b => [Nat.digitChar (b.toNat / 16), Nat.digitChar (b.toNat % 16)]

/-- A word of 32 bits turned to the left. -/
def turned32 (n : UInt32) (x : UInt32) : UInt32 :=
  (x <<< n) ||| (x >>> (32 - n))

/-- A word of 64 bits turned to the right. -/
def turned64 (n : UInt64) (x : UInt64) : UInt64 :=
  (x >>> n) ||| (x <<< (64 - n))

/-! ## Sums of bytes

Small numbers that tell apart most files: the remainder of the bytes as a polynomial, and two sums.
-/

/-- A remainder after one more bit has been taken in. -/
def shifted (n : UInt32) : UInt32 :=
  if n &&& 0x80000000 = 0 then n <<< 1 else (n <<< 1) ^^^ 0x04C11DB7

/-- A remainder after one more byte has been taken in. -/
def remainderAfter (n : UInt32) (b : UInt8) : UInt32 :=
  Nat.repeat shifted 8 (n ^^^ (b.toUInt32 <<< 24))

/-- The remainder of bytes and of their number. -/
def remainder (bytes : List UInt8) : Nat :=
  let size := bytes.length
  let digits := (littleBytes 8 size).reverse.dropWhile (· = 0)
  (~~~ ((bytes ++ digits.reverse).foldl remainderAfter 0)).toNat

/-- The sum of bytes that is turned to the right before each of them. -/
def turnedSum (bytes : List UInt8) : Nat :=
  bytes.foldl (fun n b => (n / 2 + n % 2 * 0x8000 + b.toNat) % 0x10000) 0

/-- The sum of bytes, folded into sixteen bits. -/
def foldedSum (bytes : List UInt8) : Nat :=
  let sum := bytes.foldl (fun n b => n + b.toNat) 0 % 0x100000000
  let once := sum % 0x10000 + sum / 0x10000
  once % 0x10000 + once / 0x10000

end LineShell.Digest
