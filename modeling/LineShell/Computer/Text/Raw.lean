import LineShell.Text.Utf8

/-!
# Raw texts

Computers keep the names and the contents of files as bytes, and their command language knows
nothing else.  A raw text is a text each of whose characters stands for one byte.  Every text has a
raw form, which spells out the bytes of its characters.
-/

namespace LineShell.Raw

/-- The raw text of some bytes. -/
def ofBytes (bytes : List UInt8) : Text :=
  bytes.map fun b => Char.ofNat b.toNat

/-- The bytes that a raw text stands for. -/
def bytes (t : Text) : List UInt8 :=
  t.map fun c => UInt8.ofNat c.toNat

/-- The raw form of a text. -/
def ofText (t : Text) : Text :=
  ofBytes (Utf8.encode t)

/-- The text that a raw text spells. -/
def toText (t : Text) : Text :=
  Utf8.decodeLossy (bytes t)

/-- The character that the bytes at the beginning of a raw text spell, and how many they are. -/
def leading? (t : Text) : Option (Char × Nat) :=
  go .between 0 t
where
  /-- Reads on in a state of the decoder, after some bytes. -/
  go (s : Utf8.State) (n : Nat) : Text → Option (Char × Nat)
    | [] => none
    | b :: t =>
      match s.take (UInt8.ofNat b.toNat) with
      | .complete c => some (c, n + 1)
      | .partway s => go s (n + 1) t
      | .refuse => none

/-- A raw text in pieces, each of which spells one character or is a byte that is part of none; read
in at most `fuel` steps. -/
def unitsWithin : (fuel : Nat) → Text → List (Text × Option Char)
  | 0, _ => []
  | _, [] => []
  | fuel + 1, b :: t =>
    match leading? (b :: t) with
    | some (c, n) => ((b :: t).take n, some c) :: unitsWithin fuel ((b :: t).drop n)
    | none => ([b], none) :: unitsWithin fuel t

/-- A raw text in pieces, each of which spells one character or is a byte that is part of none. -/
def units (t : Text) : List (Text × Option Char) :=
  unitsWithin t.length t

/-- The first of the characters that stand for bytes that spell nothing. -/
def strayBase : Nat := 0x10FF00

/-- The characters that a raw text spells.  A byte that is part of none is a character of its own. -/
def characters (t : Text) : Text :=
  (units t).map fun (bytes, c) => c.getD (Char.ofNat (strayBase + (bytes.headD ' ').toNat))

/-- The raw text that spells some characters. -/
def ofCharacters (t : Text) : Text :=
  t.flatMap fun c =>
    if strayBase ≤ c.toNat then [Char.ofNat (c.toNat - strayBase)] else ofText [c]

@[simp]
theorem length_ofBytes (bs : List UInt8) : (ofBytes bs).length = bs.length := by
  simp [ofBytes]

@[simp]
theorem length_bytes (t : Text) : (bytes t).length = t.length := by
  simp [bytes]

@[simp]
theorem ofBytes_append (bs cs : List UInt8) : ofBytes (bs ++ cs) = ofBytes bs ++ ofBytes cs := by
  simp [ofBytes]

@[simp]
theorem bytes_append (s t : Text) : bytes (s ++ t) = bytes s ++ bytes t := by
  simp [bytes]

/-- A byte is found again in the character that stands for it. -/
theorem ofNat_toNat_char (b : UInt8) : UInt8.ofNat (Char.ofNat b.toNat).toNat = b := by
  have valid : b.toNat.isValidChar := Or.inl (by have := b.toNat_lt; omega)
  have same : (Char.ofNat b.toNat).toNat = b.toNat := by
    rw [Char.ofNat, dif_pos valid]
    rfl
  rw [same, UInt8.ofNat_toNat]

@[simp]
theorem bytes_ofBytes (bs : List UInt8) : bytes (ofBytes bs) = bs := by
  induction bs with
  | nil => rfl
  | cons b bs ih =>
    simp only [ofBytes, bytes, List.map_cons] at ih ⊢
    rw [ofNat_toNat_char, ih]

end LineShell.Raw
