/-!
# Characters and bytes

Everything the shell reads arrives as bytes and everything it writes leaves as bytes, while all of
its rules speak of characters.  This file fixes the encoding between the two, UTF-8, in three
operations: `encode`, which never fails; `decode?`, which accepts exactly well-formed bytes; and
`decodeLossy`, which accepts all bytes and puts one replacement character in the place of each
maximal piece that cannot be part of a character.

Both decoders walk the bytes with the same small automaton.  Its state says which bytes may come
next, so an ill-formed piece ends at the first byte that cannot continue it.
-/

namespace LineShell

/-- A text is a list of characters; strings appear only at the edges of the program. -/
abbrev Text := List Char

namespace Utf8

/-- The bytes of a text. -/
def encode (t : Text) : List UInt8 :=
  t.flatMap String.utf8EncodeChar

/-- The number of bytes that a text takes. -/
def size : Text → Nat
  | [] => 0
  | c :: t => c.utf8Size + size t

/-- The text up to a number of bytes and the text after it, unless that would cut a character. -/
def splitAt? : Nat → Text → Option (Text × Text)
  | 0, t => some ([], t)
  | _ + 1, [] => none
  | n + 1, c :: t =>
    if c.utf8Size ≤ n + 1 then
      (splitAt? (n + 1 - c.utf8Size) t).map fun r => (c :: r.1, r.2)
    else none

/-- What stands for bytes that are no character, U+FFFD. -/
def replacement : Char := '\uFFFD'

/-- Where a decoder stands: between two characters, or within one whose bits so far are `code`,
which still lacks `more` bytes after the next one, and whose next byte lies from `low` to `high`. -/
inductive State where
  | between
  | within (code more : Nat) (low high : UInt8)
deriving DecidableEq, Repr

/-- What one more byte does: it completes a character, leaves it partway, or it cannot stand here.
-/
inductive Verdict where
  | complete (c : Char)
  | partway (s : State)
  | refuse
deriving DecidableEq, Repr

/-- The byte that begins a character.  The narrowed ranges for the second byte leave out overlong
forms, surrogates and everything beyond U+10FFFF. -/
def lead (b : UInt8) : Verdict :=
  if b < 0x80 then .complete (Char.ofNat b.toNat)
  else if b < 0xC2 then .refuse
  else if b < 0xE0 then .partway (.within (b.toNat - 0xC0) 0 0x80 0xBF)
  else if b = 0xE0 then .partway (.within 0 1 0xA0 0xBF)
  else if b = 0xED then .partway (.within 13 1 0x80 0x9F)
  else if b < 0xF0 then .partway (.within (b.toNat - 0xE0) 1 0x80 0xBF)
  else if b = 0xF0 then .partway (.within 0 2 0x90 0xBF)
  else if b < 0xF4 then .partway (.within (b.toNat - 0xF0) 2 0x80 0xBF)
  else if b = 0xF4 then .partway (.within 4 2 0x80 0x8F)
  else .refuse

/-- One step of the automaton. -/
def State.take : State → UInt8 → Verdict
  | .between, b => lead b
  | .within code more low high, b =>
    if low ≤ b ∧ b ≤ high then
      let code := code * 64 + (b.toNat - 0x80)
      match more with
      | 0 => .complete (Char.ofNat code)
      | more + 1 => .partway (.within code more 0x80 0xBF)
    else .refuse

/-- Decoding from a given state, where the bytes must be well-formed to their end. -/
def decodeFrom? : State → List UInt8 → Option Text
  | .between, [] => some []
  | .within .., [] => none
  | s, b :: bs =>
    match s.take b with
    | .complete c => (decodeFrom? .between bs).map (c :: ·)
    | .partway s' => decodeFrom? s' bs
    | .refuse => none

/-- The text of well-formed bytes, and nothing for other bytes. -/
def decode? (bs : List UInt8) : Option Text :=
  decodeFrom? .between bs

/-- The characters and the next state that a byte gives where a character may begin. -/
def begin (b : UInt8) : Text × State :=
  match lead b with
  | .complete c => ([c], .between)
  | .partway s => ([], s)
  | .refuse => ([replacement], .between)

/-- The characters and the next state that a byte gives.  A byte that cannot continue a character
ends the ill-formed piece before it and is then looked at afresh. -/
def State.feed (s : State) (b : UInt8) : Text × State :=
  match s with
  | .between => begin b
  | .within .. =>
    match s.take b with
    | .complete c => ([c], .between)
    | .partway s' => ([], s')
    | .refuse => (replacement :: (begin b).1, (begin b).2)

/-- Decoding from a given state, where ill-formed pieces become replacement characters. -/
def decodeLossyFrom : State → List UInt8 → Text
  | .between, [] => []
  | .within .., [] => [replacement]
  | s, b :: bs => (s.feed b).1 ++ decodeLossyFrom (s.feed b).2 bs

/-- The text of any bytes, with one replacement character for each maximal ill-formed piece. -/
def decodeLossy (bs : List UInt8) : Text :=
  decodeLossyFrom .between bs

@[simp]
theorem encode_nil : encode [] = [] := rfl

@[simp]
theorem encode_append (s t : Text) : encode (s ++ t) = encode s ++ encode t :=
  List.flatMap_append

@[simp]
theorem length_encode (t : Text) : (encode t).length = size t := by
  induction t with
  | nil => rfl
  | cons c t ih =>
    simp only [encode, List.flatMap_cons, List.length_append, size, String.length_utf8EncodeChar]
    exact congrArg _ ih

@[simp]
theorem size_nil : size [] = 0 := rfl

@[simp]
theorem size_cons (c : Char) (t : Text) : size (c :: t) = c.utf8Size + size t := rfl

@[simp]
theorem size_append (s t : Text) : size (s ++ t) = size s + size t := by
  induction s with
  | nil => simp
  | cons c s ih => simp [ih, Nat.add_assoc]

end Utf8

end LineShell
