/-!
# Numbers drawn from bytes

Numbers below a bound are drawn so that each of them is as likely as the others.  What a draw does not
need of the bytes is kept for the next one.
-/

namespace LineShell

/-- Where bytes come from. -/
inductive Noise where
  /-- These are all the bytes there are. -/
  | listed (bytes : List UInt8)
  /-- There are always more, each of which follows from a number. -/
  | endless (state : UInt64)

/-- The next byte. -/
def Noise.next? : Noise → Option (UInt8 × Noise)
  | listed [] => none
  | listed (b :: bs) => some (b, listed bs)
  | endless state =>
    let state := state * 6364136223846793005 + 1442695040888963407
    some ((state >>> 56).toUInt8, endless state)

/-- Bytes, and what is left of earlier ones: a number that is as likely as any other up to the greatest
one. -/
structure Draw where
  noise : Noise
  number : Nat
  greatest : Nat

namespace Draw

/-- Nothing has been drawn yet. -/
def ofNoise (noise : Noise) : Draw := ⟨noise, 0, 0⟩

/-- Takes bytes until the number can be as great as wanted. -/
def widened (wanted : Nat) : (fuel : Nat) → Draw → Option Draw
  | 0, _ => none
  | fuel + 1, d =>
    if wanted ≤ d.greatest then some d
    else
      match d.noise.next? with
      | none => none
      | some (b, noise) => widened wanted fuel ⟨noise, d.number * 256 + b.toNat, d.greatest * 256 + 255⟩

/-- How many bytes are taken at most for one number. -/
def widest : Nat := 16

/-- A number less than `choices`, of which there is at least one, and what is left.  A number that is
not as likely as others is drawn again, at most as often as given. -/
def below? (choices : Nat) : (fuel : Nat) → Draw → Option (Nat × Draw)
  | 0, _ => none
  | fuel + 1, d => do
    let d ← d.widened (choices - 1) widest
    if d.greatest + 1 = choices then return (d.number, ⟨d.noise, 0, 0⟩)
    let excess := d.greatest - (choices - 1)
    let unusable := excess % choices
    if d.number ≤ d.greatest - unusable then
      return (d.number % choices, ⟨d.noise, d.number / choices, excess / choices⟩)
    below? choices fuel ⟨d.noise, d.number % choices, unusable - 1⟩

/-- How often a number is drawn again at most. -/
def patience : Nat := 10000

/-- The first numbers of a shuffle of those below `n`, as many as wanted. -/
def shuffle? (wanted n : Nat) (d : Draw) : Option (List Nat × Draw) :=
  if wanted = 1 then do
    let (i, d) ← d.below? n patience
    return ([i], d)
  else do
    let (items, d) ← (List.range wanted).foldlM (fun (items, d) i => do
      let (j, d) ← below? (n - i) patience d
      let j := i + j
      let a := items.getD i 0
      let b := items.getD j 0
      return ((items.setIfInBounds i b).setIfInBounds j a, d)) (Array.range n, d)
    return ((items.toList.take wanted), d)

end Draw

end LineShell
