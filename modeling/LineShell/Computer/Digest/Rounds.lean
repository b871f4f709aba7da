import LineShell.Computer.Digest.Basic

/-!
# Digests

The digest of 128 bits, the secure digest of 160 bits, the secure digests of a later family, of which
some have words of 32 bits and some words of 64 bits, and a digest of any length up to 512 bits.
-/

namespace LineShell.Digest

/-! ## The digest of 128 bits

Four words, which each block changes in 64 steps. -/

namespace Md5

/-- The words that the state begins with. -/
def start : Array UInt32 := #[0x67452301, 0xefcdab89, 0x98badcfe, 0x10325476]

/-- The constants of the steps. -/
def constants : Array UInt32 :=
  #[0xd76aa478, 0xe8c7b756, 0x242070db, 0xc1bdceee, 0xf57c0faf, 0x4787c62a, 0xa8304613, 0xfd469501,
    0x698098d8, 0x8b44f7af, 0xffff5bb1, 0x895cd7be, 0x6b901122, 0xfd987193, 0xa679438e, 0x49b40821,
    0xf61e2562, 0xc040b340, 0x265e5a51, 0xe9b6c7aa, 0xd62f105d, 0x02441453, 0xd8a1e681, 0xe7d3fbc8,
    0x21e1cde6, 0xc33707d6, 0xf4d50d87, 0x455a14ed, 0xa9e3e905, 0xfcefa3f8, 0x676f02d9, 0x8d2a4c8a,
    0xfffa3942, 0x8771f681, 0x6d9d6122, 0xfde5380c, 0xa4beea44, 0x4bdecfa9, 0xf6bb4b60, 0xbebfbc70,
    0x289b7ec6, 0xeaa127fa, 0xd4ef3085, 0x04881d05, 0xd9d4d039, 0xe6db99e5, 0x1fa27cf8, 0xc4ac5665,
    0xf4292244, 0x432aff97, 0xab9423a7, 0xfc93a039, 0x655b59c3, 0x8f0ccc92, 0xffeff47d, 0x85845dd1,
    0x6fa87e4f, 0xfe2ce6e0, 0xa3014314, 0x4e0811a1, 0xf7537e82, 0xbd3af235, 0x2ad7d2bb, 0xeb86d391]

/-- By how much a word is turned in the steps of each round. -/
def turns : List (List UInt32) :=
  [[7, 12, 17, 22], [5, 9, 14, 20], [4, 11, 16, 23], [6, 10, 15, 21]]

/-- One step with the words of a block. -/
def step (words : Array UInt32) (state : UInt32 × UInt32 × UInt32 × UInt32) (i : Nat) :
    UInt32 × UInt32 × UInt32 × UInt32 :=
  let (a, b, c, d) := state
  let (mixed, k) : UInt32 × Nat :=
    if i < 16 then ((b &&& c) ||| (~~~b &&& d), i)
    else if i < 32 then ((d &&& b) ||| (~~~d &&& c), (5 * i + 1) % 16)
    else if i < 48 then (b ^^^ c ^^^ d, (3 * i + 5) % 16)
    else (c ^^^ (b ||| ~~~d), 7 * i % 16)
  let turn := ((turns.getD (i / 16) []).getD (i % 4) 0)
  let sum := a + mixed + constants.getD i 0 + words.getD k 0
  (d, b + turned32 turn sum, b, c)

/-- The state after one more block. -/
def absorb (state : Array UInt32) (block : List UInt8) : Array UInt32 :=
  let words := ((grouped 4 block).map fun bs => UInt32.ofNat (littleNumber bs)).toArray
  let old (i : Nat) : UInt32 := state.getD i 0
  let (a, b, c, d) := (List.range 64).foldl (step words) (old 0, old 1, old 2, old 3)
  #[old 0 + a, old 1 + b, old 2 + c, old 3 + d]

/-- The digest of a message. -/
def digest (message : List UInt8) : List UInt8 :=
  let blocks := grouped 64 (padded 64 8 (littleBytes 8) message)
  (blocks.foldl absorb start).toList.flatMap fun w => littleBytes 4 w.toNat

end Md5

/-! ## The secure digests -/

namespace Sha1

/-- The words that the state begins with. -/
def start : Array UInt32 := #[0x67452301, 0xefcdab89, 0x98badcfe, 0x10325476, 0xc3d2e1f0]

/-- The words of a block, continued to as many as there are steps. -/
def schedule (words : Array UInt32) : Array UInt32 :=
  (List.range 64).foldl (fun w i =>
    let i := i + 16
    w.push (turned32 1 (w.getD (i - 3) 0 ^^^ w.getD (i - 8) 0 ^^^ w.getD (i - 14) 0 ^^^
      w.getD (i - 16) 0))) words

/-- One step. -/
def step (w : Array UInt32) (s : UInt32 × UInt32 × UInt32 × UInt32 × UInt32) (i : Nat) :
    UInt32 × UInt32 × UInt32 × UInt32 × UInt32 :=
  let (a, b, c, d, e) := s
  let (mixed, constant) : UInt32 × UInt32 :=
    if i < 20 then ((b &&& c) ||| (~~~b &&& d), 0x5a827999)
    else if i < 40 then (b ^^^ c ^^^ d, 0x6ed9eba1)
    else if i < 60 then ((b &&& c) ||| (b &&& d) ||| (c &&& d), 0x8f1bbcdc)
    else (b ^^^ c ^^^ d, 0xca62c1d6)
  (turned32 5 a + mixed + e + constant + w.getD i 0, a, turned32 30 b, c, d)

/-- The state after one more block. -/
def absorb (state : Array UInt32) (block : List UInt8) : Array UInt32 :=
  let words := ((grouped 4 block).map fun bs => UInt32.ofNat (bigNumber bs)).toArray
  let old (i : Nat) : UInt32 := state.getD i 0
  let (a, b, c, d, e) :=
    (List.range 80).foldl (step (schedule words)) (old 0, old 1, old 2, old 3, old 4)
  #[old 0 + a, old 1 + b, old 2 + c, old 3 + d, old 4 + e]

/-- The digest of a message. -/
def digest (message : List UInt8) : List UInt8 :=
  let blocks := grouped 64 (padded 64 8 (bigBytes 8) message)
  (blocks.foldl absorb start).toList.flatMap fun w => bigBytes 4 w.toNat

end Sha1

/-- The operations on words that the digests of the later family are made of. -/
structure Words (α : Type) where
  zero : α
  add : α → α → α
  /-- One of two words, bit by bit as a third one says. -/
  choice : α → α → α → α
  /-- What most of three words have, bit by bit. -/
  majority : α → α → α → α
  /-- The mixtures of a word with itself, two for the state and two for the words of a block. -/
  great₀ : α → α
  great₁ : α → α
  small₀ : α → α
  small₁ : α → α

namespace Words

/-- The operations on words of 32 bits. -/
def of32 : Words UInt32 :=
  let right (n x : UInt32) : UInt32 := turned32 (32 - n) x
  { zero := 0
    add := (· + ·)
    choice := fun x y z => (x &&& y) ^^^ (~~~x &&& z)
    majority := fun x y z => (x &&& y) ^^^ (x &&& z) ^^^ (y &&& z)
    great₀ := fun x => right 2 x ^^^ right 13 x ^^^ right 22 x
    great₁ := fun x => right 6 x ^^^ right 11 x ^^^ right 25 x
    small₀ := fun x => right 7 x ^^^ right 18 x ^^^ (x >>> 3)
    small₁ := fun x => right 17 x ^^^ right 19 x ^^^ (x >>> 10) }

/-- The operations on words of 64 bits. -/
def of64 : Words UInt64 :=
  { zero := 0
    add := (· + ·)
    choice := fun x y z => (x &&& y) ^^^ (~~~x &&& z)
    majority := fun x y z => (x &&& y) ^^^ (x &&& z) ^^^ (y &&& z)
    great₀ := fun x => turned64 28 x ^^^ turned64 34 x ^^^ turned64 39 x
    great₁ := fun x => turned64 14 x ^^^ turned64 18 x ^^^ turned64 41 x
    small₀ := fun x => turned64 1 x ^^^ turned64 8 x ^^^ (x >>> 7)
    small₁ := fun x => turned64 19 x ^^^ turned64 61 x ^^^ (x >>> 6) }

variable {α : Type} (o : Words α)

/-- The words of a block, continued to as many as there are constants. -/
def schedule (count : Nat) (words : Array α) : Array α :=
  (List.range (count - 16)).foldl (fun w i =>
    let before (n : Nat) : α := w.getD (i + 16 - n) o.zero
    w.push (o.add (o.add (o.small₁ (before 2)) (before 7))
      (o.add (o.small₀ (before 15)) (before 16)))) words

/-- One step with a constant and a word. -/
def step (s : Array α) (constant word : α) : Array α :=
  let old (i : Nat) : α := s.getD i o.zero
  let t₁ := o.add (o.add (o.add (old 7) (o.great₁ (old 4)))
    (o.add (o.choice (old 4) (old 5) (old 6)) constant)) word
  let t₂ := o.add (o.great₀ (old 0)) (o.majority (old 0) (old 1) (old 2))
  #[o.add t₁ t₂, old 0, old 1, old 2, o.add (old 3) t₁, old 4, old 5, old 6]

/-- The state after one more block. -/
def absorb (constants : Array α) (state words : Array α) : Array α :=
  let w := o.schedule constants.size words
  let new := (List.range constants.size).foldl (fun s i =>
    o.step s (constants.getD i o.zero) (w.getD i o.zero)) state
  (state.zip new).map fun (x, y) => o.add x y

end Words

namespace Sha2

/-- The fractions of the roots of the first primes: the constants of words of 64 bits, of which those
of 32 bits are the first halves. -/
def constants : Array UInt64 :=
  #[0x428a2f98d728ae22, 0x7137449123ef65cd, 0xb5c0fbcfec4d3b2f, 0xe9b5dba58189dbbc,
    0x3956c25bf348b538, 0x59f111f1b605d019, 0x923f82a4af194f9b, 0xab1c5ed5da6d8118,
    0xd807aa98a3030242, 0x12835b0145706fbe, 0x243185be4ee4b28c, 0x550c7dc3d5ffb4e2,
    0x72be5d74f27b896f, 0x80deb1fe3b1696b1, 0x9bdc06a725c71235, 0xc19bf174cf692694,
    0xe49b69c19ef14ad2, 0xefbe4786384f25e3, 0x0fc19dc68b8cd5b5, 0x240ca1cc77ac9c65,
    0x2de92c6f592b0275, 0x4a7484aa6ea6e483, 0x5cb0a9dcbd41fbd4, 0x76f988da831153b5,
    0x983e5152ee66dfab, 0xa831c66d2db43210, 0xb00327c898fb213f, 0xbf597fc7beef0ee4,
    0xc6e00bf33da88fc2, 0xd5a79147930aa725, 0x06ca6351e003826f, 0x142929670a0e6e70,
    0x27b70a8546d22ffc, 0x2e1b21385c26c926, 0x4d2c6dfc5ac42aed, 0x53380d139d95b3df,
    0x650a73548baf63de, 0x766a0abb3c77b2a8, 0x81c2c92e47edaee6, 0x92722c851482353b,
    0xa2bfe8a14cf10364, 0xa81a664bbc423001, 0xc24b8b70d0f89791, 0xc76c51a30654be30,
    0xd192e819d6ef5218, 0xd69906245565a910, 0xf40e35855771202a, 0x106aa07032bbd1b8,
    0x19a4c116b8d2d0c8, 0x1e376c085141ab53, 0x2748774cdf8eeb99, 0x34b0bcb5e19b48a8,
    0x391c0cb3c5c95a63, 0x4ed8aa4ae3418acb, 0x5b9cca4f7763e373, 0x682e6ff3d6b2b8a3,
    0x748f82ee5defb2fc, 0x78a5636f43172f60, 0x84c87814a1f0ab72, 0x8cc702081a6439ec,
    0x90befffa23631e28, 0xa4506cebde82bde9, 0xbef9a3f7b2c67915, 0xc67178f2e372532b,
    0xca273eceea26619c, 0xd186b8c721c0c207, 0xeada7dd6cde0eb1e, 0xf57d4f7fee6ed178,
    0x06f067aa72176fba, 0x0a637dc5a2c898a6, 0x113f9804bef90dae, 0x1b710b35131c471b,
    0x28db77f523047d84, 0x32caab7b40c72493, 0x3c9ebe0a15c9bebc, 0x431d67c49c100d4c,
    0x4cc5d4becb3e42b6, 0x597f299cfc657e2a, 0x5fcb6fab3ad6faec, 0x6c44198c4a475817]

/-- The digest of a message in words of 32 bits, from a state on. -/
def digest32 (start : Array UInt32) (size : Nat) (message : List UInt8) : List UInt8 :=
  let halves := (constants.extract 0 64).map fun (k : UInt64) => (k >>> 32).toUInt32
  let wordsOf (block : List UInt8) : Array UInt32 :=
    ((grouped 4 block).map fun bs => UInt32.ofNat (bigNumber bs)).toArray
  let blocks := grouped 64 (padded 64 8 (bigBytes 8) message)
  let state := blocks.foldl (fun s block => Words.of32.absorb halves s (wordsOf block)) start
  (state.toList.flatMap fun w => bigBytes 4 w.toNat).take size

/-- The digest of a message in words of 64 bits, from a state on. -/
def digest64 (start : Array UInt64) (size : Nat) (message : List UInt8) : List UInt8 :=
  let wordsOf (block : List UInt8) : Array UInt64 :=
    ((grouped 8 block).map fun bs => UInt64.ofNat (bigNumber bs)).toArray
  let blocks := grouped 128 (padded 128 16 (bigBytes 16) message)
  let state := blocks.foldl (fun s block => Words.of64.absorb constants s (wordsOf block)) start
  (state.toList.flatMap fun w => bigBytes 8 w.toNat).take size

/-- The digest of 224 bits. -/
def digest224 : List UInt8 → List UInt8 :=
  digest32 #[0xc1059ed8, 0x367cd507, 0x3070dd17, 0xf70e5939, 0xffc00b31, 0x68581511, 0x64f98fa7,
    0xbefa4fa4] 28

/-- The digest of 256 bits. -/
def digest256 : List UInt8 → List UInt8 :=
  digest32 #[0x6a09e667, 0xbb67ae85, 0x3c6ef372, 0xa54ff53a, 0x510e527f, 0x9b05688c, 0x1f83d9ab,
    0x5be0cd19] 32

/-- The words that the digest of 512 bits begins with. -/
def start512 : Array UInt64 :=
  #[0x6a09e667f3bcc908, 0xbb67ae8584caa73b, 0x3c6ef372fe94f82b, 0xa54ff53a5f1d36f1,
    0x510e527fade682d1, 0x9b05688c2b3e6c1f, 0x1f83d9abfb41bd6b, 0x5be0cd19137e2179]

/-- The digest of 384 bits. -/
def digest384 : List UInt8 → List UInt8 :=
  digest64 #[0xcbbb9d5dc1059ed8, 0x629a292a367cd507, 0x9159015a3070dd17, 0x152fecd8f70e5939,
    0x67332667ffc00b31, 0x8eb44a8768581511, 0xdb0c2e0d64f98fa7, 0x47b5481dbefa4fa4] 48

/-- The digest of 512 bits. -/
def digest512 : List UInt8 → List UInt8 :=
  digest64 start512 64

end Sha2

/-! ## The digest of any length

A digest of up to 512 bits, in words of 64 bits.  The length of the digest is part of what the state
begins with. -/

namespace Blake

/-- In which order the words of a block are used in the rounds. -/
def orders : List (List Nat) :=
  [[0, 1, 2, 3, 4, 5, 6, 7, 8, 9, 10, 11, 12, 13, 14, 15],
    [14, 10, 4, 8, 9, 15, 13, 6, 1, 12, 0, 2, 11, 7, 5, 3],
    [11, 8, 12, 0, 5, 2, 15, 13, 10, 14, 3, 6, 7, 1, 9, 4],
    [7, 9, 3, 1, 13, 12, 11, 14, 2, 6, 5, 10, 4, 0, 15, 8],
    [9, 0, 5, 7, 2, 4, 10, 15, 14, 1, 11, 12, 6, 8, 3, 13],
    [2, 12, 6, 10, 0, 11, 8, 3, 4, 13, 7, 5, 15, 14, 1, 9],
    [12, 5, 1, 15, 14, 13, 4, 10, 0, 7, 6, 3, 9, 2, 8, 11],
    [13, 11, 7, 14, 12, 1, 3, 9, 5, 0, 15, 4, 8, 6, 2, 10],
    [6, 15, 14, 9, 11, 3, 0, 8, 12, 2, 13, 7, 1, 4, 10, 5],
    [10, 2, 8, 4, 7, 6, 1, 5, 15, 11, 9, 14, 3, 12, 13, 0]]

/-- The places of the words that are mixed with each other in one round. -/
def quarters : List (Nat × Nat × Nat × Nat) :=
  [(0, 4, 8, 12), (1, 5, 9, 13), (2, 6, 10, 14), (3, 7, 11, 15), (0, 5, 10, 15), (1, 6, 11, 12),
    (2, 7, 8, 13), (3, 4, 9, 14)]

/-- Mixes four words with two words of the block. -/
def mix (v : Array UInt64) (place : Nat × Nat × Nat × Nat) (x y : UInt64) : Array UInt64 :=
  let (i, j, k, l) := place
  let half (v : Array UInt64) (x : UInt64) (first second : UInt64) : Array UInt64 :=
    let old (v : Array UInt64) (n : Nat) : UInt64 := v.getD n 0
    let v := v.setIfInBounds i (old v i + old v j + x)
    let v := v.setIfInBounds l (turned64 first (old v l ^^^ old v i))
    let v := v.setIfInBounds k (old v k + old v l)
    v.setIfInBounds j (turned64 second (old v j ^^^ old v k))
  half (half v x 32 24) y 16 63

/-- One round. -/
def round (words : Array UInt64) (v : Array UInt64) (n : Nat) : Array UInt64 :=
  let order := orders.getD (n % 10) []
  let word (i : Nat) : UInt64 := words.getD (order.getD i 0) 0
  (quarters.zip (List.range 8)).foldl (fun v (place, i) =>
    mix v place (word (2 * i)) (word (2 * i + 1))) v

/-- The state after one more block, up to which there are `count` bytes. -/
def absorb (state : Array UInt64) (block : List UInt8) (count : Nat) (isLast : Bool) :
    Array UInt64 :=
  let filled := block ++ List.replicate (128 - block.length) 0
  let words := ((grouped 8 filled).map fun bs => UInt64.ofNat (littleNumber bs)).toArray
  let v := state ++ Sha2.start512
  let v := v.modify 12 (· ^^^ UInt64.ofNat count)
  let v := if isLast then v.modify 14 (~~~·) else v
  let v := (List.range 12).foldl (round words) v
  (state.zip ((v.extract 0 8).zip (v.extract 8 16))).map fun (x, y, z) => x ^^^ y ^^^ z

/-- The state after blocks. -/
def absorbAll : (state : Array UInt64) → (count : Nat) → List (List UInt8) → Array UInt64
  | state, _, [] => state
  | state, count, block :: rest =>
    let count := count + block.length
    absorbAll (absorb state block count rest.isEmpty) count rest

/-- The digest of a message, of a number of bytes. -/
def digest (size : Nat) (message : List UInt8) : List UInt8 :=
  let start := Sha2.start512.modify 0 (· ^^^ UInt64.ofNat (0x01010000 + size))
  let blocks := if message.isEmpty then [[]] else grouped 128 message
  ((absorbAll start 0 blocks).toList.flatMap fun w => littleBytes 8 w.toNat).take size

end Blake

end LineShell.Digest
