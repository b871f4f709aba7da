import Mathlib
import LineShell.Line

/-!
# Cutting a line

A line that is too large for the buffer is cut before the first character that there is no room
for.  A `Line.Cut` is a text taken apart at that character, and everything about the cut follows
from it: what stands before the character is the longest part that there is room for
(`Line.Cut.longest`), and what stands after it makes no difference (`Line.fit_append`).

The cut can be found in the bytes of the line as well.  The first byte of a character shows that it
is one, so the places where characters begin can be told, and they are the sizes of the parts at the
beginning of the line (`Utf8.isBoundary_encode_iff`).  The first of these places on the way back
from where the room ends is the cut (`Line.Cut.boundaryBefore?_text`).  It is three bytes away at
most, since a character takes four.

The main statement is `Line.fit_longest`.
-/

namespace LineShell

namespace Utf8

/-! ## Boundaries -/

/-- A place in some bytes where a character begins or where the bytes end. -/
def IsBoundary (bytes : List UInt8) (i : ℕ) : Prop :=
  i = bytes.length ∨ ∃ b ∈ bytes[i]?, b.IsUTF8FirstByte

instance (bytes : List UInt8) (i : ℕ) : Decidable (IsBoundary bytes i) :=
  inferInstanceAs (Decidable (_ ∨ _))

/-- The boundary that is met first from a place backwards; nothing if the search would have to go on
from the first place of all. -/
def boundaryBefore? (bytes : List UInt8) : ℕ → Option ℕ
  | 0 => if IsBoundary bytes 0 then some 0 else none
  | i + 1 => if IsBoundary bytes (i + 1) then some (i + 1) else boundaryBefore? bytes i

/-- The search ends at a boundary if there is none between it and the place where it began. -/
lemma boundaryBefore?_eq_some {bytes : List UInt8} {i k : ℕ} (hk : k ≤ i)
    (hboundary : IsBoundary bytes k) (hnone : ∀ j, k < j → j ≤ i → ¬ IsBoundary bytes j) :
    boundaryBefore? bytes i = some k := by
  induction i with
  | zero =>
    obtain rfl := Nat.le_zero.mp hk
    rw [boundaryBefore?, if_pos hboundary]
  | succ i ih =>
    rcases hk.lt_or_eq with hlt | rfl
    · rw [boundaryBefore?, if_neg (hnone _ hlt le_rfl)]
      exact ih (Nat.le_of_lt_succ hlt) fun j hkj hj => hnone j hkj (hj.trans (Nat.le_succ i))
    · rw [boundaryBefore?, if_pos hboundary]

/-- Only the first of the bytes of a character is a boundary, and the others are as they are without
the character. -/
lemma isBoundary_encode_cons {c : Char} {t : Text} {i : ℕ} :
    IsBoundary (encode (c :: t)) i ↔
      i = 0 ∨ c.utf8Size ≤ i ∧ IsBoundary (encode t) (i - c.utf8Size) := by
  have hbytes : encode (c :: t) = String.utf8EncodeChar c ++ encode t := rfl
  have hsize := c.utf8Size_pos
  rw [IsBoundary, IsBoundary, hbytes, List.length_append, String.length_utf8EncodeChar]
  rcases Nat.lt_or_ge i c.utf8Size with hi | hi
  · have hlength : i < (String.utf8EncodeChar c).length := by rwa [String.length_utf8EncodeChar]
    rw [List.getElem?_append_left hlength, List.getElem?_eq_getElem hlength]
    simp only [Option.mem_def, Option.some.injEq, exists_eq_left',
      UInt8.isUTF8FirstByte_getElem_utf8EncodeChar]
    omega
  · rw [List.getElem?_append_right (by rwa [String.length_utf8EncodeChar]),
      String.length_utf8EncodeChar]
    constructor
    · rintro (h | h)
      · exact Or.inr ⟨hi, Or.inl (by omega)⟩
      · exact Or.inr ⟨hi, Or.inr h⟩
    · rintro (h | ⟨-, h | h⟩)
      · omega
      · exact Or.inl (by omega)
      · exact Or.inr h

/-- **Boundaries are sizes**: where there is a boundary, a part of the text ends. -/
lemma isBoundary_encode_iff {t : Text} {i : ℕ} :
    IsBoundary (encode t) i ↔ ∃ part, part <+: t ∧ size part = i := by
  induction t generalizing i with
  | nil => simp [IsBoundary, eq_comm]
  | cons c t ih =>
    rw [isBoundary_encode_cons, ih]
    constructor
    · rintro (rfl | ⟨hi, part, hpart, hsize⟩)
      · exact ⟨[], List.nil_prefix, rfl⟩
      · refine ⟨c :: part, List.cons_prefix_cons.mpr ⟨rfl, hpart⟩, ?_⟩
        rw [size_cons]
        omega
    · rintro ⟨part, hpart, hsize⟩
      cases part with
      | nil => exact Or.inl hsize.symm
      | cons d part =>
        obtain ⟨rfl, htail⟩ := List.cons_prefix_cons.mp hpart
        rw [size_cons] at hsize
        exact Or.inr ⟨by omega, part, htail, by omega⟩

/-- A text with some characters left out takes no more bytes. -/
lemma size_le_of_sublist {s t : Text} (h : s.Sublist t) : size s ≤ size t := by
  induction h with
  | slnil => exact le_rfl
  | cons c _ ih => exact ih.trans (Nat.le_add_left _ _)
  | cons_cons c _ ih => exact Nat.add_le_add_left ih _

end Utf8

namespace Line

/-! ## The first character without room -/

/-- What is taken of a text ends before the first character without room. -/
lemma takeBytes_append_cons {room : ℕ} {part : Text} {next : Char} (rest : Text)
    (hpart : Utf8.size part ≤ room) (hnext : room < Utf8.size part + next.utf8Size) :
    takeBytes room (part ++ next :: rest) = part := by
  induction part generalizing room with
  | nil =>
    rw [Utf8.size_nil, Nat.zero_add] at hnext
    rw [List.nil_append, takeBytes, if_neg (Nat.not_le_of_gt hnext)]
  | cons c part ih =>
    rw [Utf8.size_cons] at hpart hnext
    rw [List.cons_append, takeBytes, if_pos (by omega), ih (by omega) (by omega)]

/-- A text that is too large for a room of so many bytes, taken apart at the first character that
there is no room for. -/
structure Cut (room : ℕ) where
  part : Text
  next : Char
  rest : Text
  size_part : Utf8.size part ≤ room
  size_next : room < Utf8.size part + next.utf8Size

namespace Cut

variable {room : ℕ}

/-- The whole text. -/
def text (k : Cut room) : Text :=
  k.part ++ k.next :: k.rest

/-- Every text that is too large can be taken apart. -/
lemma exists_text_eq {t : Text} (h : room < Utf8.size t) : ∃ k : Cut room, k.text = t := by
  induction t generalizing room with
  | nil => exact absurd h (Nat.not_lt_zero room)
  | cons c t ih =>
    rw [Utf8.size_cons] at h
    by_cases hc : c.utf8Size ≤ room
    · have hlarge : room - c.utf8Size < Utf8.size t := by omega
      obtain ⟨⟨part, next, rest, hpart, hnext⟩, rfl⟩ := ih hlarge
      refine ⟨⟨c :: part, next, rest, ?_, ?_⟩, rfl⟩ <;> rw [Utf8.size_cons] <;> omega
    · exact ⟨⟨[], c, t, Nat.zero_le room, by simpa using hc⟩, rfl⟩

/-- What follows a text that is too large comes after the character without room. -/
def append (k : Cut room) (further : Text) : Cut room :=
  { k with rest := k.rest ++ further }

/-- The text with what follows it. -/
lemma text_append (k : Cut room) (further : Text) :
    (k.append further).text = k.text ++ further := by
  simp [text, append]

/-- What is taken of the text is the part. -/
lemma takeBytes_text (k : Cut room) : takeBytes room k.text = k.part :=
  takeBytes_append_cons k.rest k.size_part k.size_next

/-- The part is at the beginning of the text. -/
lemma part_prefix_text (k : Cut room) : k.part <+: k.text :=
  List.prefix_append _ _

/-- No part at the beginning that there is room for is longer. -/
lemma longest (k : Cut room) {part : Text} (hpart : part <+: k.text)
    (hsize : Utf8.size part ≤ room) : part <+: k.part := by
  have hnext : k.part ++ [k.next] <+: k.text := ⟨k.rest, by simp [text]⟩
  have hlarge : room < Utf8.size (k.part ++ [k.next]) := by simpa using k.size_next
  rcases List.prefix_or_prefix_of_prefix hpart hnext with h | h
  · rcases List.prefix_concat_iff.mp h with rfl | h
    · exact absurd hsize (Nat.not_le_of_gt hlarge)
    · exact h
  · have hle := Utf8.size_le_of_sublist h.sublist
    exact absurd (hle.trans hsize) (Nat.not_le_of_gt hlarge)

/-- The part leaves three bytes of the room at most, since a character takes four. -/
lemma room_le (k : Cut room) : room ≤ Utf8.size k.part + 3 := by
  have hnext := k.size_next
  have hfour := k.next.utf8Size_le_four
  omega

/-- **The search for a boundary ends where the text is cut.** -/
lemma boundaryBefore?_text (k : Cut room) :
    Utf8.boundaryBefore? (Utf8.encode k.text) room = some (Utf8.size k.part) := by
  refine Utf8.boundaryBefore?_eq_some k.size_part ?_ fun j hj hroom hboundary => ?_
  · exact Utf8.isBoundary_encode_iff.mpr ⟨k.part, k.part_prefix_text, rfl⟩
  · obtain ⟨part, hpart, rfl⟩ := Utf8.isBoundary_encode_iff.mp hboundary
    have hle := Utf8.size_le_of_sublist (k.longest hpart hroom).sublist
    omega

/-- The bytes before the boundary are those of the part. -/
lemma take_encode_text (k : Cut room) :
    (Utf8.encode k.text).take (Utf8.size k.part) = Utf8.encode k.part := by
  rw [text, Utf8.encode_append, ← Utf8.length_encode, List.take_left]

end Cut

/-! ## Lines that fit the buffer -/

variable {line : Text}

/-- A line shorter than the buffer is not cut. -/
lemma fit_of_size_lt (h : Utf8.size line < capacity) : fit line = line :=
  if_pos h

/-- A longer line is cut, and a newline is put after the part. -/
lemma fit_text (k : Cut (capacity - 2)) (h : capacity ≤ Utf8.size k.text) :
    fit k.text = k.part ++ ['\n'] := by
  rw [fit, if_neg (Nat.not_lt_of_ge h), k.takeBytes_text]

/-- A line is shorter than the buffer or can be taken apart where it is cut. -/
lemma size_lt_or_exists_cut (line : Text) :
    Utf8.size line < capacity ∨
      capacity ≤ Utf8.size line ∧ ∃ k : Cut (capacity - 2), k.text = line := by
  have hroom : capacity - 2 < capacity := by decide
  rcases Nat.lt_or_ge (Utf8.size line) capacity with h | h
  · exact Or.inl h
  · exact Or.inr ⟨h, Cut.exists_text_eq (hroom.trans_le h)⟩

/-- What follows a line that is cut is not in what is left of it. -/
lemma fit_append (h : capacity ≤ Utf8.size line) (further : Text) :
    fit (line ++ further) = fit line := by
  obtain hlt | ⟨-, k, rfl⟩ := size_lt_or_exists_cut line
  · exact absurd h (Nat.not_le_of_gt hlt)
  · have hlong : capacity ≤ Utf8.size (k.append further).text := by
      rw [k.text_append, Utf8.size_append]
      omega
    rw [← k.text_append, fit_text _ hlong, fit_text k h]
    rfl

/-- A line that is cut leaves one byte of the buffer free, or up to three more. -/
lemma size_fit_of_capacity_le (h : capacity ≤ Utf8.size line) :
    252 ≤ Utf8.size (fit line) ∧ Utf8.size (fit line) ≤ 255 := by
  obtain hlt | ⟨-, k, rfl⟩ := size_lt_or_exists_cut line
  · exact absurd h (Nat.not_le_of_gt hlt)
  · have hcapacity : capacity - 2 = 254 := rfl
    have hleast := k.room_le
    have hmost := k.size_part
    have hend : Utf8.size ['\n'] = 1 := by decide
    rw [fit_text k h, Utf8.size_append, hend]
    omega

/-- In the end every line leaves a byte of the buffer free. -/
lemma size_fit_lt (line : Text) : Utf8.size (fit line) < capacity := by
  obtain h | ⟨h, -⟩ := size_lt_or_exists_cut line
  · rwa [fit_of_size_lt h]
  · exact Nat.lt_succ_of_le (size_fit_of_capacity_le h).2

/-- A line that is cut has something in it, if only a newline, and any other line what it had. -/
lemma fit_ne_nil (h : line ≠ []) : fit line ≠ [] := by
  obtain hsize | ⟨hsize, k, rfl⟩ := size_lt_or_exists_cut line
  · rwa [fit_of_size_lt hsize]
  · rw [fit_text k hsize]
    exact List.concat_ne_nil _ _

/-- Cutting a line puts no newline before its end. -/
lemma newline_notMem_dropLast_fit (h : '\n' ∉ line.dropLast) : '\n' ∉ (fit line).dropLast := by
  obtain hsize | ⟨hsize, k, rfl⟩ := size_lt_or_exists_cut line
  · rwa [fit_of_size_lt hsize]
  · rw [Cut.text, List.dropLast_append_of_ne_nil (List.cons_ne_nil _ _)] at h
    rw [fit_text k hsize, List.dropLast_concat]
    exact fun hmem => h (List.mem_append_left _ hmem)

/-- **A line keeps the longest part that fits.**  A line of fewer than 256 bytes stays as it is.
Of a longer one, the longest part at its beginning is kept that takes 254 bytes at most, and a
newline is put after it, which makes 252 bytes at least and 255 at most.  The search for a boundary
back from byte 254 comes to its end there, and no bytes but those before it are kept, whatever
follows the line.  So a line that fits is not cut again, and no newline comes to stand before the
end of a line. -/
theorem fit_longest (line : Text) :
    (Utf8.size line < 256 → fit line = line) ∧
    (256 ≤ Utf8.size line → ∃ part,
      fit line = part ++ ['\n'] ∧
      (part <+: line ∧ Utf8.size part ≤ 254 ∧
        ∀ part', part' <+: line → Utf8.size part' ≤ 254 → part' <+: part) ∧
      (252 ≤ Utf8.size (fit line) ∧ Utf8.size (fit line) ≤ 255) ∧
      (Utf8.boundaryBefore? (Utf8.encode line) 254 = some (Utf8.size part) ∧
        (Utf8.encode line).take (Utf8.size part) = Utf8.encode part) ∧
      ∀ further, fit (line ++ further) = fit line) ∧
    fit (fit line) = fit line ∧ Utf8.size (fit line) < 256 ∧
    ('\n' ∉ line.dropLast → '\n' ∉ (fit line).dropLast) := by
  refine ⟨fit_of_size_lt, fun hsize => ?_, fit_of_size_lt (size_fit_lt line), size_fit_lt line,
    newline_notMem_dropLast_fit⟩
  obtain hlt | ⟨-, k, rfl⟩ := size_lt_or_exists_cut line
  · exact absurd hsize (Nat.not_le_of_gt hlt)
  · exact ⟨k.part, fit_text k hsize, ⟨k.part_prefix_text, k.size_part, fun _ => k.longest⟩,
      size_fit_of_capacity_le hsize, ⟨k.boundaryBefore?_text, k.take_encode_text⟩,
      fit_append hsize⟩

/-- Characters of four bytes, one of which lies across byte 254 with its first byte at 251. -/
theorem fit_longest_wide :
    let line := "abc".toList ++ List.replicate 70 '😀' ++ ['\n']
    let part := "abc".toList ++ List.replicate 62 '😀'
    Utf8.size "ls\n".toList < 256 ∧ fit "ls\n".toList = "ls\n".toList ∧
      256 ≤ Utf8.size line ∧ '\n' ∉ line.dropLast ∧ fit line = part ++ ['\n'] ∧
      Utf8.size (fit line) = 252 ∧
      Utf8.boundaryBefore? (Utf8.encode line) 254 = some 251 ∧
      (∀ further, fit (line ++ further) = part ++ ['\n']) ∧ fit (part ++ ['\n']) = part ++ ['\n'] ∧
      '\n' ∉ part := by
  intro line part
  obtain ⟨-, hcut, hagain, -, hnewline⟩ := fit_longest line
  have hshort : Utf8.size "ls\n".toList < 256 := by decide
  have hlong : 256 ≤ Utf8.size line := by decide +kernel
  have hend : '\n' ∉ line.dropLast := by decide +kernel
  have hfit : fit line = part ++ ['\n'] := by decide +kernel
  have hsize : Utf8.size part = 251 := by decide +kernel
  obtain ⟨part', hpart', -, -, ⟨hsearch, -⟩, hfurther⟩ := hcut hlong
  obtain rfl : part = part' := List.append_cancel_right (hfit.symm.trans hpart')
  rw [hfit] at hagain hnewline hfurther
  rw [List.dropLast_concat] at hnewline
  refine ⟨hshort, (fit_longest _).1 hshort, hlong, hend, hfit, ?_, ?_, hfurther, hagain,
    hnewline hend⟩
  · rw [hfit, Utf8.size_append, hsize]
    rfl
  · rw [hsearch, hsize]

end Line

end LineShell
