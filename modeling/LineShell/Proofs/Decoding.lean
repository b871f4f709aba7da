import Mathlib
import LineShell.Text.Utf8

/-!
# Newlines under lossy decoding

Lossy decoding replaces what is no character, so a text may be longer or shorter than its bytes.
But it leaves newlines where they are: a newline byte cuts off whatever ill-formed piece stands
before it and becomes a newline (`decodeLossy_append_newline`), and no other byte ever becomes one
(`newline_mem_decodeLossy_iff`).  And no bytes are lost altogether (`decodeLossy_eq_nil_iff`).

The second law is not true of every state of the automaton, only of those that come up.
`State.Sound` is what these have in common: a character of several bytes is none of the first
sixty-four, since overlong forms are left out.
-/

namespace LineShell.Utf8

/-- What holds of the byte of every number holds of every byte. -/
lemma forall_byte {P : UInt8 → Prop} (h : ∀ n < 256, P (UInt8.ofNat n)) (b : UInt8) : P b := by
  have hb := h b.toNat b.toNat_lt
  rwa [UInt8.ofNat_toNat] at hb

/-- The character of a number that is not the number of the newline is no newline. -/
lemma charOfNat_ne_newline {n : ℕ} (hn : n ≠ 10) : Char.ofNat n ≠ '\n' := by
  intro h
  have hcode : (Char.ofNat n).toNat = 10 := by
    rw [h]
    rfl
  rw [Char.toNat_ofNat] at hcode
  split at hcode
  · exact hn hcode
  · cases hcode

/-! ## The states that come up -/

/-- The state comes up while decoding.  A newline cannot be the next byte, and the bits of the
character are not all zero, or the next byte is not its last and brings one that is not. -/
def State.Sound : State → Prop
  | .between => True
  | .within code more low _ => 0x80 ≤ low ∧ (0 < code ∨ 0 < more ∧ 0x80 < low)

/-- To stand between two characters comes up. -/
lemma State.sound_between : State.Sound .between := trivial

instance (s : State) : Decidable s.Sound :=
  match s with
  | .between => inferInstanceAs (Decidable True)
  | .within .. => inferInstanceAs (Decidable (_ ∧ _))

/-- What a byte may give: a state that comes up, a newline exactly if the byte is one, and either a
character or a state within one. -/
structure Fair (b : UInt8) (given : Text × State) : Prop where
  sound : given.2.Sound
  newline : '\n' ∈ given.1 ↔ b = 0x0A
  partway : given.1 = [] → given.2 ≠ .between

/-- A byte where a character may begin gives what a byte may give. -/
lemma fair_begin (b : UInt8) : Fair b (begin b) := by
  have hall : ∀ n < 256, (begin (UInt8.ofNat n)).2.Sound ∧
      ('\n' ∈ (begin (UInt8.ofNat n)).1 ↔ UInt8.ofNat n = 0x0A) ∧
      ((begin (UInt8.ofNat n)).1 = [] → (begin (UInt8.ofNat n)).2 ≠ .between) := by
    decide +kernel
  obtain ⟨hsound, hnewline, hpartway⟩ := forall_byte
    (P := fun b => (begin b).2.Sound ∧ ('\n' ∈ (begin b).1 ↔ b = 0x0A) ∧
      ((begin b).1 = [] → (begin b).2 ≠ .between)) hall b
  exact ⟨hsound, hnewline, hpartway⟩

/-- A byte gives what a byte may give, in every state that comes up. -/
lemma State.Sound.feed {s : State} (hs : s.Sound) (b : UInt8) : Fair b (s.feed b) := by
  cases s with
  | between => exact fair_begin b
  | within code more low high =>
    obtain ⟨hlow, hbits⟩ := hs
    rw [State.feed, State.take]
    split_ifs with hrange
    · rw [UInt8.le_iff_toNat_le] at hlow hrange
      rw [UInt8.lt_iff_toNat_lt] at hbits
      have hlow' : 0x80 ≤ low.toNat := hlow
      have hbits' : 0 < code ∨ 0 < more ∧ 0x80 < low.toNat := hbits
      have hb : b ≠ 0x0A := by
        rintro rfl
        have hbyte : low.toNat ≤ 10 := hrange.1
        omega
      cases more with
      | zero =>
        have hc : Char.ofNat (code * 64 + (b.toNat - 0x80)) ≠ '\n' :=
          charOfNat_ne_newline (by omega)
        exact ⟨trivial, by simp [hb, hc.symm], by simp⟩
      | succ more =>
        refine ⟨⟨UInt8.le_refl _, Or.inl ?_⟩, by simp [hb], by simp⟩
        omega
    · obtain ⟨hsound, hnewline, -⟩ := fair_begin b
      have hreplacement : '\n' ≠ replacement := by decide
      exact ⟨hsound, by simp [hnewline, hreplacement], by simp⟩

/-- A newline byte ends the character or the ill-formed piece before it. -/
lemma State.Sound.feed_newline {s : State} (hs : s.Sound) :
    s.feed 0x0A = (decodeLossyFrom s [] ++ ['\n'], .between) := by
  cases s with
  | between => rfl
  | within code more low high =>
    have hrange : ¬ (low ≤ 0x0A ∧ (0x0A : UInt8) ≤ high) := by
      rintro ⟨hle, -⟩
      exact absurd (UInt8.le_trans hs.1 hle) (by decide)
    rw [State.feed, State.take, if_neg hrange]
    rfl

/-! ## Decoding -/

/-- Decoding some bytes is to decode the first one and then the others. -/
lemma decodeLossyFrom_cons (s : State) (b : UInt8) (bs : List UInt8) :
    decodeLossyFrom s (b :: bs) = (s.feed b).1 ++ decodeLossyFrom (s.feed b).2 bs := by
  cases s <;> rfl

/-- The text of bytes is empty only if there are none and no character was begun. -/
lemma decodeLossyFrom_eq_nil_iff {s : State} (hs : s.Sound) (bs : List UInt8) :
    decodeLossyFrom s bs = [] ↔ s = .between ∧ bs = [] := by
  induction bs generalizing s with
  | nil => cases s <;> simp [decodeLossyFrom]
  | cons b bs ih =>
    obtain ⟨hsound, -, hpartway⟩ := hs.feed b
    rw [decodeLossyFrom_cons, List.append_eq_nil_iff, ih hsound]
    constructor
    · rintro ⟨hnil, hbetween, -⟩
      exact absurd hbetween (hpartway hnil)
    · rintro ⟨-, hnil⟩
      cases hnil

/-- From every state that comes up, a newline in the text is a newline byte. -/
lemma newline_mem_decodeLossyFrom_iff {s : State} (hs : s.Sound) (bs : List UInt8) :
    '\n' ∈ decodeLossyFrom s bs ↔ 0x0A ∈ bs := by
  induction bs generalizing s with
  | nil => cases s <;> simp [decodeLossyFrom, replacement]
  | cons b bs ih =>
    obtain ⟨hsound, hnewline, -⟩ := hs.feed b
    rw [decodeLossyFrom_cons, List.mem_append, hnewline, ih hsound, List.mem_cons, eq_comm]

/-- From every state that comes up, what stands before a newline byte and what stands after it are
decoded apart. -/
lemma decodeLossyFrom_append_newline {s : State} (hs : s.Sound) (bs cs : List UInt8) :
    decodeLossyFrom s (bs ++ 0x0A :: cs) = decodeLossyFrom s bs ++ '\n' :: decodeLossy cs := by
  induction bs generalizing s with
  | nil =>
    rw [List.nil_append, decodeLossyFrom_cons, hs.feed_newline, List.append_assoc]
    rfl
  | cons b bs ih =>
    rw [List.cons_append, decodeLossyFrom_cons, ih (hs.feed b).sound, decodeLossyFrom_cons,
      List.append_assoc]

/-- **Decoding gives something for something.** -/
theorem decodeLossy_eq_nil_iff (bs : List UInt8) : decodeLossy bs = [] ↔ bs = [] := by
  rw [decodeLossy, decodeLossyFrom_eq_nil_iff State.sound_between]
  simp

/-- **Decoding makes no newlines and loses none.** -/
theorem newline_mem_decodeLossy_iff (bs : List UInt8) : '\n' ∈ decodeLossy bs ↔ 0x0A ∈ bs :=
  newline_mem_decodeLossyFrom_iff State.sound_between bs

/-- **Decoding moves no newlines**: what stands before one and what stands after it are decoded
apart. -/
theorem decodeLossy_append_newline (bs cs : List UInt8) :
    decodeLossy (bs ++ 0x0A :: cs) = decodeLossy bs ++ '\n' :: decodeLossy cs :=
  decodeLossyFrom_append_newline State.sound_between bs cs

end LineShell.Utf8
