import LineShell.Proofs.Decoding

/-!
# Lossy decoding, character by character

What lossy decoding gives can be said without its automaton.  Where the bytes of a character begin,
the text has that character.  Elsewhere there is a *maximal ill-formed piece*: as many bytes as
begin some character, or one byte if there are none; and the text has one replacement character in
its place.  `Decodes` is this rule, and lossy decoding is all that it allows
(`decodes_iff_decodeLossy_eq`).

The automaton is tied to the encoding of characters by `completes_between_iff`: from the start, the
bytes that complete a character are the bytes of that character.  From there on only two facts about
its states count, namely how they are followed (`State.follow`) and that each of them can be
completed (`State.Open.exists_completes`).

Decoding that accepts well-formed bytes only uses the same automaton, and by the same facts it
accepts just the bytes that a text is encoded in (`decode?_eq_some_iff`).
-/

namespace LineShell.Utf8

/-! ## The rule -/

/-- The bytes begin some character, or make up all of it. -/
def Opens (bytes : List UInt8) : Prop :=
  ∃ c, bytes <+: String.utf8EncodeChar c

/-- Where certain bytes come after it, the piece is a maximal ill-formed one: no character begins
there, and the piece is the longest beginning of one that there is, or a single byte. -/
structure IllFormed (piece rest : List UInt8) : Prop where
  nonempty : piece ≠ []
  noChar : ∀ c, ¬ String.utf8EncodeChar c <+: piece ++ rest
  opens : Opens piece ∨ piece.length = 1
  longest : ∀ longer, longer <+: piece ++ rest → Opens longer → longer.length ≤ piece.length

/-- The text stands for the bytes: each character for its own bytes, and a replacement character for
each maximal ill-formed piece. -/
inductive Decodes : List UInt8 → Text → Prop
  | nil : Decodes [] []
  | char (c : Char) {bytes : List UInt8} {text : Text} :
    Decodes bytes text → Decodes (String.utf8EncodeChar c ++ bytes) (c :: text)
  | piece {piece bytes : List UInt8} {text : Text} :
    IllFormed piece bytes → Decodes bytes text → Decodes (piece ++ bytes) (replacement :: text)

/-- A text stands for the bytes that it is encoded in. -/
lemma decodes_encode (text : Text) : Decodes (encode text) text := by
  induction text with
  | nil => exact .nil
  | cons c text ih => exact .char c ih

/-! ## The automaton and the bytes of a character -/

/-- The last bytes of the character with a number, as many as asked for. -/
def continuation : ℕ → ℕ → List UInt8
  | 0, _ => []
  | k + 1, n => UInt8.ofNat (n / 64 ^ k % 64 + 128) :: continuation k n

/-- A byte in the range of those that may come next adds its six bits to the number of the
character: they are the last ones of the new number, and those before are the others. -/
lemma eq_shift_iff {code n : ℕ} {b low high : UInt8} (hlow : 0x80 ≤ low.toNat)
    (hhigh : high.toNat ≤ 0xBF) :
    (low ≤ b ∧ b ≤ high) ∧ n = code * 64 + (b.toNat - 0x80) ↔
      n / 64 = code ∧ (low.toNat ≤ n % 64 + 128 ∧ n % 64 + 128 ≤ high.toNat) ∧
        b = UInt8.ofNat (n % 64 + 128) := by
  rw [UInt8.le_iff_toNat_le, UInt8.le_iff_toNat_le, ← UInt8.toNat_inj, UInt8.toNat_ofNat']
  omega

namespace State

/-- The character that the bytes complete, if they complete one with their last byte. -/
def completes : State → List UInt8 → Option Char
  | _, [] => none
  | s, b :: bs =>
    match s.take b with
    | .complete c => if bs = [] then some c else none
    | .partway s' => s'.completes bs
    | .refuse => none

/-- Within a character, the bytes that complete one are the last bytes of it. -/
lemma completes_within_iff {code more : ℕ} {low high : UInt8} (hlow : 0x80 ≤ low.toNat)
    (hhigh : high.toNat ≤ 0xBF) (bytes : List UInt8) (c : Char) :
    (within code more low high).completes bytes = some c ↔
      ∃ n, n / 64 ^ (more + 1) = code ∧ low.toNat ≤ n / 64 ^ more % 64 + 128 ∧
        n / 64 ^ more % 64 + 128 ≤ high.toNat ∧ bytes = continuation (more + 1) n ∧
        c = Char.ofNat n := by
  -- The byte at the head fixes six bits, and what follows it completes a character with these.
  induction more generalizing code low high bytes with
  | zero =>
    cases bytes with
    | nil => simp [completes, continuation]
    | cons b bs =>
      have hcompletes : (within code 0 low high).completes (b :: bs) = some c ↔
          (low ≤ b ∧ b ≤ high) ∧ bs = [] ∧ Char.ofNat (code * 64 + (b.toNat - 0x80)) = c := by
        by_cases hb : low ≤ b ∧ b ≤ high <;> simp [completes, take, hb]
      simp only [hcompletes, continuation, zero_add, pow_zero, Nat.div_one, pow_one,
        List.cons.injEq]
      constructor
      · rintro ⟨hb, rfl, rfl⟩
        obtain ⟨hcode, ⟨hl, hh⟩, hbyte⟩ := (eq_shift_iff hlow hhigh).mp ⟨hb, rfl⟩
        exact ⟨_, hcode, hl, hh, ⟨hbyte, rfl⟩, rfl⟩
      · rintro ⟨n, hcode, hl, hh, ⟨hbyte, rfl⟩, rfl⟩
        obtain ⟨hb, hn⟩ := (eq_shift_iff hlow hhigh).mpr ⟨hcode, ⟨hl, hh⟩, hbyte⟩
        exact ⟨hb, rfl, by rw [← hn]⟩
  | succ more ih =>
    cases bytes with
    | nil => simp [completes, continuation]
    | cons b bs =>
      have hcompletes : (within code (more + 1) low high).completes (b :: bs) = some c ↔
          (low ≤ b ∧ b ≤ high) ∧
            (within (code * 64 + (b.toNat - 0x80)) more 0x80 0xBF).completes bs = some c := by
        by_cases hb : low ≤ b ∧ b ≤ high <;> simp [completes, take, hb]
      have hdiv : ∀ n, n / 64 ^ (more + 1) / 64 = n / 64 ^ (more + 1 + 1) := by
        intro n
        rw [Nat.div_div_eq_div_mul, ← pow_succ]
      rw [hcompletes, ih (show 0x80 ≤ (0x80 : UInt8).toNat by decide)
        (show (0xBF : UInt8).toNat ≤ 0xBF by decide)]
      constructor
      · rintro ⟨hb, n, hn, -, -, rfl, rfl⟩
        obtain ⟨hcode, ⟨hl, hh⟩, hbyte⟩ := (eq_shift_iff hlow hhigh).mp ⟨hb, hn⟩
        refine ⟨n, (hdiv n).symm.trans hcode, hl, hh, ?_, rfl⟩
        rw [hbyte]
        rfl
      · rintro ⟨n, hcode, hl, hh, hbytes, rfl⟩
        obtain ⟨hbyte, rfl⟩ := List.cons.inj hbytes
        obtain ⟨hb, hn⟩ := (eq_shift_iff hlow hhigh).mpr ⟨(hdiv n).trans hcode, ⟨hl, hh⟩, hbyte⟩
        have hlast : n / 64 ^ more % 64 + 128 ≤ 0xBF := by omega
        exact ⟨hb, n, hn, Nat.le_add_left _ _, hlast, rfl, rfl⟩

end State

/-- The number of the character with a number is that number, if there is such a character. -/
lemma toNat_charOfNat {n : ℕ} (h : n < 0xD800 ∨ 0xDFFF < n ∧ n < 0x110000) :
    (Char.ofNat n).toNat = n := by
  rw [Char.toNat_ofNat, if_pos h]

section
variable {c : Char}

/-- A character of one byte. -/
lemma encodeChar_one (h : c.toNat < 0x80) : String.utf8EncodeChar c = [UInt8.ofNat c.toNat] := by
  have hc : c.val.toNat ≤ 127 := Nat.le_of_lt_succ h
  simp only [String.utf8EncodeChar, if_pos hc]
  rfl

/-- A character of two bytes. -/
lemma encodeChar_two (h : 0x80 ≤ c.toNat) (h' : c.toNat < 0x800) :
    String.utf8EncodeChar c = UInt8.ofNat (c.toNat / 64 + 192) :: continuation 1 c.toNat := by
  have hlow : ¬ c.val.toNat ≤ 127 := Nat.not_le_of_gt h
  have hhigh : c.val.toNat ≤ 2047 := Nat.le_of_lt_succ h'
  have hbits : c.val.toNat / 64 % 32 = c.val.toNat / 64 := by omega
  simp only [String.utf8EncodeChar, if_neg hlow, if_pos hhigh, hbits]
  simp [continuation]

/-- A character of three bytes. -/
lemma encodeChar_three (h : 0x800 ≤ c.toNat) (h' : c.toNat < 0x10000) :
    String.utf8EncodeChar c = UInt8.ofNat (c.toNat / 64 ^ 2 + 224) :: continuation 2 c.toNat := by
  have hlow : ¬ c.val.toNat ≤ 127 := Nat.not_le_of_gt (h.trans_lt' (by decide))
  have hmiddle : ¬ c.val.toNat ≤ 2047 := Nat.not_le_of_gt h
  have hhigh : c.val.toNat ≤ 65535 := Nat.le_of_lt_succ h'
  have hbits : c.val.toNat / 4096 % 16 = c.val.toNat / 4096 := by omega
  simp only [String.utf8EncodeChar, if_neg hlow, if_neg hmiddle, if_pos hhigh, hbits]
  simp [continuation]

/-- A character of four bytes. -/
lemma encodeChar_four (h : 0x10000 ≤ c.toNat) :
    String.utf8EncodeChar c = UInt8.ofNat (c.toNat / 64 ^ 3 + 240) :: continuation 3 c.toNat := by
  have hlow : ¬ c.val.toNat ≤ 127 := Nat.not_le_of_gt (h.trans_lt' (by decide))
  have hmiddle : ¬ c.val.toNat ≤ 2047 := Nat.not_le_of_gt (h.trans_lt' (by decide))
  have hhigh : ¬ c.val.toNat ≤ 65535 := Nat.not_le_of_gt h
  have hvalid : c.val.toNat < 0xD800 ∨ 0xDFFF < c.val.toNat ∧ c.val.toNat < 0x110000 := c.valid
  have hbits : c.val.toNat / 262144 % 8 = c.val.toNat / 262144 := by omega
  simp only [String.utf8EncodeChar, if_neg hlow, if_neg hmiddle, if_neg hhigh, hbits]
  simp [continuation]

end

/-! ## The automaton and the first byte of a character -/

/-- A byte below 128 is a character. -/
lemma lead_one : ∀ k < 128, lead (UInt8.ofNat k) = .complete (Char.ofNat k) := by
  decide +kernel

/-- What a byte with the mark of two bytes begins. -/
lemma lead_two : ∀ k < 32, 2 ≤ k →
    lead (UInt8.ofNat (k + 192)) = .partway (.within k 0 0x80 0xBF) := by
  decide +kernel

/-- What a byte with the mark of three bytes begins. -/
lemma lead_three : ∀ k < 16, lead (UInt8.ofNat (k + 224)) =
    .partway (.within k 1 (if k = 0 then 0xA0 else 0x80) (if k = 13 then 0x9F else 0xBF)) := by
  decide +kernel

/-- What a byte with the mark of four bytes begins. -/
lemma lead_four : ∀ k < 5, lead (UInt8.ofNat (k + 240)) =
    .partway (.within k 2 (if k = 0 then 0x90 else 0x80) (if k = 4 then 0x8F else 0xBF)) := by
  decide +kernel

/-- No other byte begins a character. -/
lemma lead_none : ∀ n < 256, 128 ≤ n ∧ n < 194 ∨ 245 ≤ n → lead (UInt8.ofNat n) = .refuse := by
  decide +kernel

/-- What a byte begins, with the bits of it that belong to the number of the character. -/
inductive Leads : UInt8 → Verdict → Prop
  | one (k : ℕ) : k < 128 → Leads (UInt8.ofNat k) (.complete (Char.ofNat k))
  | two (k : ℕ) : k < 32 → 2 ≤ k → Leads (UInt8.ofNat (k + 192)) (.partway (.within k 0 0x80 0xBF))
  | three (k : ℕ) : k < 16 → Leads (UInt8.ofNat (k + 224))
    (.partway (.within k 1 (if k = 0 then 0xA0 else 0x80) (if k = 13 then 0x9F else 0xBF)))
  | four (k : ℕ) : k < 5 → Leads (UInt8.ofNat (k + 240))
    (.partway (.within k 2 (if k = 0 then 0x90 else 0x80) (if k = 4 then 0x8F else 0xBF)))
  | none (b : UInt8) : Leads b .refuse

/-- Every byte begins one of these. -/
lemma leads_lead (b : UInt8) : Leads b (lead b) := by
  refine forall_byte (P := fun b => Leads b (lead b)) (fun n hn => ?_) b
  by_cases hone : n < 128
  · rw [lead_one n hone]
    exact .one n hone
  by_cases hnone : 128 ≤ n ∧ n < 194 ∨ 245 ≤ n
  · rw [lead_none n hn hnone]
    exact .none _
  by_cases htwo : n < 224
  · obtain ⟨k, rfl⟩ : ∃ k, n = k + 192 := Nat.exists_eq_add_of_le' (by omega)
    rw [lead_two k (by omega) (by omega)]
    exact .two k (by omega) (by omega)
  by_cases hthree : n < 240
  · obtain ⟨k, rfl⟩ : ∃ k, n = k + 224 := Nat.exists_eq_add_of_le' (by omega)
    rw [lead_three k (by omega)]
    exact .three k (by omega)
  · obtain ⟨k, rfl⟩ : ∃ k, n = k + 240 := Nat.exists_eq_add_of_le' (by omega)
    rw [lead_four k (by omega)]
    exact .four k (by omega)

namespace State

/-- Bytes after one that begins a character complete what it has begun. -/
lemma completes_between_of_lead {b : UInt8} {s : State} (h : lead b = .partway s)
    (bs : List UInt8) : between.completes (b :: bs) = s.completes bs := by
  simp [completes, take, h]

/-- The bytes of a character complete it. -/
lemma completes_encodeChar (c : Char) : between.completes (String.utf8EncodeChar c) = some c := by
  have hvalid : c.toNat < 0xD800 ∨ 0xDFFF < c.toNat ∧ c.toNat < 0x110000 := c.valid
  by_cases hone : c.toNat < 0x80
  · rw [encodeChar_one hone]
    simp [completes, take, lead_one _ hone]
  by_cases htwo : c.toNat < 0x800
  · rw [encodeChar_two (by omega) htwo,
      completes_between_of_lead (lead_two _ (by omega) (by omega)),
      completes_within_iff (by decide) (by decide)]
    refine ⟨c.toNat, ?_, ?_, ?_, rfl, c.ofNat_toNat.symm⟩
    all_goals simp <;> omega
  by_cases hthree : c.toNat < 0x10000
  · rw [encodeChar_three (by omega) hthree, completes_between_of_lead (lead_three _ (by omega)),
      completes_within_iff (by split <;> decide) (by split <;> decide)]
    refine ⟨c.toNat, rfl, ?_, ?_, rfl, c.ofNat_toNat.symm⟩
    · split_ifs <;> simp only [UInt8.reduceToNat] <;> omega
    · split_ifs <;> simp only [UInt8.reduceToNat] <;> omega
  · rw [encodeChar_four (by omega), completes_between_of_lead (lead_four _ (by omega)),
      completes_within_iff (by split <;> decide) (by split <;> decide)]
    refine ⟨c.toNat, rfl, ?_, ?_, rfl, c.ofNat_toNat.symm⟩
    · split_ifs <;> simp only [UInt8.reduceToNat] <;> omega
    · split_ifs <;> simp only [UInt8.reduceToNat] <;> omega

/-- **From the start, bytes complete a character exactly if they are the bytes of it.** -/
lemma completes_between_iff (bytes : List UInt8) (c : Char) :
    between.completes bytes = some c ↔ bytes = String.utf8EncodeChar c := by
  cases bytes with
  | nil => simp [completes]
  | cons b bs =>
    refine ⟨fun h => ?_, fun h => h ▸ completes_encodeChar c⟩
    have hleads := leads_lead b
    rw [completes, take] at h
    generalize lead b = verdict at hleads h
    cases hleads with
    | one k hk =>
      obtain ⟨rfl, rfl⟩ : bs = [] ∧ Char.ofNat k = c := by simpa using h
      have hnumber : (Char.ofNat k).toNat = k := toNat_charOfNat (by omega)
      rw [encodeChar_one (by omega), hnumber]
    | two k hk hk' =>
      obtain ⟨n, hn, hl, hh, rfl, rfl⟩ := (completes_within_iff (by decide) (by decide) _ _).mp h
      have hnumber : (Char.ofNat n).toNat = n := toNat_charOfNat (by omega)
      rw [encodeChar_two (by omega) (by omega), hnumber, ← hn]
      rfl
    | three k hk =>
      obtain ⟨n, hn, hl, hh, rfl, rfl⟩ := (completes_within_iff (by split <;> decide)
        (by split <;> decide) _ _).mp h
      have hrange : 0x800 ≤ n ∧ (n < 0xD800 ∨ 0xDFFF < n ∧ n < 0x10000) := by
        split_ifs at hl hh <;> simp only [UInt8.reduceToNat] at hl hh <;> omega
      have hnumber : (Char.ofNat n).toNat = n := toNat_charOfNat (by omega)
      rw [encodeChar_three (by omega) (by omega), hnumber, ← hn]
    | four k hk =>
      obtain ⟨n, hn, hl, hh, rfl, rfl⟩ := (completes_within_iff (by split <;> decide)
        (by split <;> decide) _ _).mp h
      have hrange : 0x10000 ≤ n ∧ n < 0x110000 := by
        split_ifs at hl hh <;> simp only [UInt8.reduceToNat] at hl hh <;> omega
      have hnumber : (Char.ofNat n).toNat = n := toNat_charOfNat (by omega)
      rw [encodeChar_four (by omega), hnumber, ← hn]
    | none => cases h

/-! ### Partway through a character -/

/-- The state after bytes that leave a character partway. -/
def follow : State → List UInt8 → Option State
  | s, [] => some s
  | s, b :: bs =>
    match s.take b with
    | .partway s' => s'.follow bs
    | _ => none

/-- A byte may come next and leave the character partway or complete it. -/
def Open : State → Prop
  | .between => False
  | .within _ _ low high => low ≤ high

variable {s s' : State} {b : UInt8} {c : Char}

/-- A byte that leaves a character partway leaves it where a byte may come next. -/
lemma open_of_take (h : s.take b = .partway s') : s'.Open := by
  cases s with
  | between =>
    have hleads : Leads b (.partway s') := h ▸ leads_lead b
    cases hleads with
    | two k => exact (by decide : (0x80 : UInt8) ≤ 0xBF)
    | three k =>
      rw [Open]
      split_ifs <;> first | decide | omega
    | four k =>
      rw [Open]
      split_ifs <;> first | decide | omega
  | within code more low high =>
    rw [take] at h
    split_ifs at h
    cases more with
    | zero => cases h
    | succ more =>
      cases h
      exact (by decide : (0x80 : UInt8) ≤ 0xBF)

/-- Bytes that leave a character partway leave it where a byte may come next. -/
lemma open_of_follow {bytes : List UInt8} (hne : bytes ≠ []) (h : s.follow bytes = some s') :
    s'.Open := by
  induction bytes generalizing s with
  | nil => exact absurd rfl hne
  | cons b bs ih =>
    rw [follow] at h
    split at h
    · rename_i s'' htake
      by_cases hbs : bs = []
      · subst hbs
        cases h
        exact open_of_take htake
      · exact ih hbs h
    · cases h

/-- Where a byte may come next, some bytes complete a character. -/
lemma Open.exists_completes (h : s.Open) : ∃ bytes c, s.completes bytes = some c := by
  cases s with
  | between => exact h.elim
  | within code more low high =>
    have hlow : low ≤ low ∧ low ≤ high := ⟨UInt8.le_refl low, h⟩
    induction more generalizing code low high with
    | zero =>
      exact ⟨[low], Char.ofNat (code * 64 + (low.toNat - 0x80)), by simp [completes, take, hlow]⟩
    | succ more ih =>
      have hrange : (0x80 : UInt8) ≤ 0xBF := by decide
      obtain ⟨bytes, c, hbytes⟩ :=
        @ih (code * 64 + (low.toNat - 0x80)) 0x80 0xBF hrange ⟨UInt8.le_refl _, hrange⟩
      exact ⟨low :: bytes, c, by simpa [completes, take, hlow] using hbytes⟩

/-- What comes after bytes that leave a character partway completes it. -/
lemma completes_append {bytes : List UInt8} (h : s.follow bytes = some s') (further : List UInt8) :
    s.completes (bytes ++ further) = s'.completes further := by
  induction bytes generalizing s with
  | nil => rw [List.nil_append, Option.some.inj h]
  | cons b bs ih =>
    rw [follow] at h
    rw [List.cons_append, completes]
    split at h
    · rename_i s'' htake
      rw [htake]
      exact ih h
    · cases h

/-- Bytes after bytes that leave a character partway are followed from there. -/
lemma follow_append {bytes : List UInt8} (h : s.follow bytes = some s') (further : List UInt8) :
    s.follow (bytes ++ further) = s'.follow further := by
  induction bytes generalizing s with
  | nil => rw [List.nil_append, Option.some.inj h]
  | cons b bs ih =>
    rw [follow] at h
    rw [List.cons_append, follow]
    split at h
    · exact ih h
    · cases h

/-- Not all of the bytes that complete a character leave it partway. -/
lemma exists_follow {bytes further : List UInt8} (hne : further ≠ [])
    (h : s.completes (bytes ++ further) = some c) : ∃ s', s.follow bytes = some s' := by
  induction bytes generalizing s with
  | nil => exact ⟨s, rfl⟩
  | cons b bs ih =>
    rw [List.cons_append, completes] at h
    rw [follow]
    cases htake : s.take b with
    | complete c' => simp [htake, hne] at h
    | partway s'' =>
      rw [htake] at h
      exact ih h
    | refuse => simp [htake] at h

end State

/-- Bytes that leave a character partway begin one. -/
lemma opens_of_follow {bytes : List UInt8} {s : State} (h : State.between.follow bytes = some s) :
    Opens bytes := by
  by_cases hbytes : bytes = []
  · exact ⟨default, hbytes ▸ List.nil_prefix⟩
  · obtain ⟨further, c, hfurther⟩ := (State.open_of_follow hbytes h).exists_completes
    rw [← State.completes_append h, State.completes_between_iff] at hfurther
    exact ⟨c, further, hfurther⟩

/-! ## Decoding by the rule -/

/-- A byte that completes a character gives it. -/
lemma feed_of_complete {s : State} {b : UInt8} {c : Char} (h : s.take b = .complete c) :
    s.feed b = ([c], .between) := by
  cases s with
  | between =>
    have hlead : lead b = .complete c := h
    rw [State.feed, begin, hlead]
  | within code more low high => rw [State.feed, h]

/-- A byte that leaves a character partway gives nothing. -/
lemma feed_of_partway {s s' : State} {b : UInt8} (h : s.take b = .partway s') :
    s.feed b = ([], s') := by
  cases s with
  | between =>
    have hlead : lead b = .partway s' := h
    rw [State.feed, begin, hlead]
  | within code more low high => rw [State.feed, h]

/-- Bytes that leave a character partway give nothing yet. -/
lemma decodeLossyFrom_of_follow {s s' : State} {bytes : List UInt8} (h : s.follow bytes = some s')
    (further : List UInt8) :
    decodeLossyFrom s (bytes ++ further) = decodeLossyFrom s' further := by
  induction bytes generalizing s with
  | nil => rw [List.nil_append, Option.some.inj h]
  | cons b bs ih =>
    rw [State.follow] at h
    split at h
    · rename_i s'' htake
      rw [List.cons_append, decodeLossyFrom_cons, feed_of_partway htake, List.nil_append, ih h]
    · cases h

/-- Bytes that complete a character are decoded to it. -/
lemma decodeLossyFrom_of_completes {s : State} {bytes : List UInt8} {c : Char}
    (h : s.completes bytes = some c) (further : List UInt8) :
    decodeLossyFrom s (bytes ++ further) = c :: decodeLossy further := by
  induction bytes generalizing s with
  | nil => cases h
  | cons b bs ih =>
    rw [State.completes] at h
    rw [List.cons_append, decodeLossyFrom_cons]
    cases htake : s.take b with
    | complete c' =>
      obtain ⟨rfl, rfl⟩ : bs = [] ∧ c' = c := by simpa [htake] using h
      rw [feed_of_complete htake]
      rfl
    | partway s' =>
      rw [htake] at h
      rw [feed_of_partway htake, List.nil_append, ih h]
    | refuse => simp [htake] at h

/-- A byte that cannot continue a character ends the ill-formed piece before it. -/
lemma decodeLossyFrom_of_refuse {s : State} (hs : s.Open) {bytes : List UInt8}
    (h : ∀ b bs, bytes = b :: bs → s.take b = .refuse) :
    decodeLossyFrom s bytes = replacement :: decodeLossy bytes := by
  cases s with
  | between => exact hs.elim
  | within code more low high =>
    cases bytes with
    | nil => rfl
    | cons b bs =>
      rw [decodeLossyFrom_cons, State.feed, h b bs rfl, List.cons_append, decodeLossy,
        decodeLossyFrom_cons]
      rfl

/-- Ill-formed bytes leave a character partway, or they are a byte that begins none. -/
lemma IllFormed.follow_or_refuse {piece rest : List UInt8} (h : IllFormed piece rest) :
    (∃ s, State.between.follow piece = some s) ∨ ∃ b, piece = [b] ∧ lead b = .refuse := by
  rcases h.opens with ⟨c, further, hchar⟩ | hlength
  · left
    have hfurther : further ≠ [] := by
      rintro rfl
      rw [List.append_nil] at hchar
      exact h.noChar c ⟨rest, by rw [← hchar]⟩
    exact State.exists_follow hfurther (hchar ▸ State.completes_encodeChar c)
  · obtain ⟨b, rfl⟩ := List.length_eq_one_iff.mp hlength
    cases hlead : lead b with
    | complete c =>
      have hchar : State.between.completes [b] = some c := by
        simp [State.completes, State.take, hlead]
      rw [State.completes_between_iff] at hchar
      exact absurd ⟨rest, by rw [← hchar]⟩ (h.noChar c)
    | partway s => exact Or.inl ⟨s, by simp [State.follow, State.take, hlead]⟩
    | refuse => exact Or.inr ⟨b, rfl, hlead⟩

/-- No byte after an ill-formed piece goes on with what it begins. -/
lemma IllFormed.take_eq_refuse {piece : List UInt8} {b : UInt8} {bs : List UInt8}
    (h : IllFormed piece (b :: bs)) {s : State} (hs : State.between.follow piece = some s) :
    s.take b = .refuse := by
  have hprefix : piece ++ [b] <+: piece ++ b :: bs := ⟨bs, by simp⟩
  cases htake : s.take b with
  | complete c =>
    have hchar : State.between.completes (piece ++ [b]) = some c := by
      rw [State.completes_append hs, State.completes, htake]
      rfl
    rw [State.completes_between_iff] at hchar
    exact absurd (hchar ▸ hprefix) (h.noChar c)
  | partway s' =>
    have hlonger : State.between.follow (piece ++ [b]) = some s' := by
      rw [State.follow_append hs, State.follow, htake]
      rfl
    have hlength := h.longest _ hprefix (opens_of_follow hlonger)
    simp at hlength
  | refuse => rfl

/-- A maximal ill-formed piece is decoded to a replacement character. -/
lemma IllFormed.decodeLossy_append {piece rest : List UInt8} (h : IllFormed piece rest) :
    decodeLossy (piece ++ rest) = replacement :: decodeLossy rest := by
  rcases h.follow_or_refuse with ⟨s, hs⟩ | ⟨b, rfl, hlead⟩
  · rw [decodeLossy, decodeLossyFrom_of_follow hs]
    refine decodeLossyFrom_of_refuse (State.open_of_follow h.nonempty hs) ?_
    rintro b bs rfl
    exact h.take_eq_refuse hs
  · rw [List.singleton_append, decodeLossy, decodeLossyFrom_cons, State.feed, begin, hlead]
    rfl

/-- Bytes that are no character's begin with a maximal ill-formed piece. -/
lemma exists_illFormed {bytes : List UInt8} (hne : bytes ≠ [])
    (hnone : ∀ c, ¬ String.utf8EncodeChar c <+: bytes) :
    ∃ piece rest, bytes = piece ++ rest ∧ IllFormed piece rest := by
  classical
  -- The piece is the longest beginning that some character has, but one byte at least.
  let good : ℕ → Prop := fun n => Opens (bytes.take n) ∨ n = 1
  let n := Nat.findGreatest good bytes.length
  have hpos : 1 ≤ bytes.length := List.length_pos_iff.mpr hne
  have hn : 1 ≤ n := Nat.le_findGreatest hpos (Or.inr rfl)
  have hgood : good n := Nat.findGreatest_spec hpos (Or.inr rfl)
  have hlength : (bytes.take n).length = n :=
    List.length_take_of_le (Nat.findGreatest_le bytes.length)
  have hbytes : bytes.take n ++ bytes.drop n = bytes := List.take_append_drop n bytes
  refine ⟨bytes.take n, bytes.drop n, hbytes.symm, ?_, ?_, ?_, ?_⟩
  · intro hnil
    rw [hnil] at hlength
    simp at hlength
    omega
  · rwa [hbytes]
  · rwa [hlength]
  · intro longer hprefix hopens
    rw [hbytes] at hprefix
    rw [hlength]
    refine Nat.le_findGreatest hprefix.length_le (Or.inl ?_)
    rwa [← List.prefix_iff_eq_take.mp hprefix]

/-- Some text stands for any bytes. -/
lemma exists_decodes (bytes : List UInt8) : ∃ text, Decodes bytes text := by
  induction hlength : bytes.length using Nat.strong_induction_on generalizing bytes with
  | _ n ih =>
    by_cases hne : bytes = []
    · exact ⟨[], hne ▸ .nil⟩
    by_cases hchar : ∃ c, String.utf8EncodeChar c <+: bytes
    · obtain ⟨c, rest, rfl⟩ := hchar
      have hpos : 0 < (String.utf8EncodeChar c).length :=
        List.length_pos_iff.mpr String.utf8EncodeChar_ne_nil
      rw [List.length_append] at hlength
      obtain ⟨text, htext⟩ := ih rest.length (by omega) rest rfl
      exact ⟨c :: text, .char c htext⟩
    · obtain ⟨piece, rest, rfl, hill⟩ := exists_illFormed hne (not_exists.mp hchar)
      have hpos : 0 < piece.length := List.length_pos_iff.mpr hill.nonempty
      rw [List.length_append] at hlength
      obtain ⟨text, htext⟩ := ih rest.length (by omega) rest rfl
      exact ⟨replacement :: text, .piece hill htext⟩

/-- A text that stands for bytes is what they are decoded to. -/
lemma Decodes.decodeLossy_eq {bytes : List UInt8} {text : Text} (h : Decodes bytes text) :
    decodeLossy bytes = text := by
  induction h with
  | nil => rfl
  | char c _ ih =>
    rw [decodeLossy, decodeLossyFrom_of_completes (State.completes_encodeChar c), ih]
  | piece hill _ ih => rw [hill.decodeLossy_append, ih]

/-- **Lossy decoding is what the rule says**: the text of any bytes has each character that its
bytes are there for, and one replacement character for each maximal ill-formed piece, and no other
text does. -/
theorem decodes_iff_decodeLossy_eq (bytes : List UInt8) (text : Text) :
    Decodes bytes text ↔ decodeLossy bytes = text := by
  constructor
  · exact Decodes.decodeLossy_eq
  · rintro rfl
    obtain ⟨text, htext⟩ := exists_decodes bytes
    rwa [htext.decodeLossy_eq]

/-- The bytes of a text are decoded to it. -/
theorem decodeLossy_encode (text : Text) : decodeLossy (encode text) = text :=
  (decodes_encode text).decodeLossy_eq

/-! ## Decoding well-formed bytes -/

/-- Decoding goes on from the state that a byte leads to. -/
lemma decodeFrom?_cons (s : State) (b : UInt8) (bs : List UInt8) :
    decodeFrom? s (b :: bs) =
      match s.take b with
      | .complete c => (decodeFrom? .between bs).map (c :: ·)
      | .partway s' => decodeFrom? s' bs
      | .refuse => none := by
  cases s <;> rfl

/-- Bytes that complete a character are decoded to it, and what follows them from the start. -/
lemma decodeFrom?_of_completes {s : State} {bytes : List UInt8} {c : Char}
    (h : s.completes bytes = some c) (further : List UInt8) :
    decodeFrom? s (bytes ++ further) = (decode? further).map (c :: ·) := by
  induction bytes generalizing s with
  | nil => cases h
  | cons b bs ih =>
    rw [State.completes] at h
    rw [List.cons_append, decodeFrom?_cons]
    cases htake : s.take b with
    | complete c' =>
      obtain ⟨rfl, rfl⟩ : bs = [] ∧ c' = c := by simpa [htake] using h
      rfl
    | partway s' =>
      rw [htake] at h
      exact ih h
    | refuse => simp [htake] at h

/-- Bytes that are decoded from within a character complete it and are decoded from the start then.
Only no bytes at all are decoded without completing a character. -/
lemma exists_completes_of_decodeFrom? {s : State} {bytes : List UInt8} {text : Text}
    (h : decodeFrom? s bytes = some text) :
    s = .between ∧ bytes = [] ∧ text = [] ∨
      ∃ first rest c text', bytes = first ++ rest ∧ s.completes first = some c ∧
        text = c :: text' ∧ decode? rest = some text' := by
  induction bytes generalizing s text with
  | nil =>
    cases s with
    | between => exact Or.inl ⟨rfl, rfl, (Option.some.inj h).symm⟩
    | within code more low high => cases h
  | cons b bs ih =>
    right
    rw [decodeFrom?_cons] at h
    cases htake : s.take b with
    | complete c =>
      rw [htake] at h
      obtain ⟨text', htext', rfl⟩ := Option.map_eq_some_iff.mp h
      exact ⟨[b], bs, c, text', rfl, by simp [State.completes, htake], rfl, htext'⟩
    | partway s' =>
      rw [htake] at h
      rcases ih h with ⟨rfl, -, -⟩ | ⟨first, rest, c, text', rfl, hfirst, htext, hrest⟩
      · exact (State.open_of_take htake).elim
      · exact ⟨b :: first, rest, c, text', rfl, by simp [State.completes, htake, hfirst], htext,
          hrest⟩
    | refuse => simp [htake] at h

/-- **Well-formed bytes are those that a text is encoded in**, and are decoded to that text. -/
theorem decode?_eq_some_iff (bytes : List UInt8) (text : Text) :
    decode? bytes = some text ↔ bytes = encode text := by
  constructor
  · intro h
    induction text generalizing bytes with
    | nil =>
      rcases exists_completes_of_decodeFrom? h with ⟨-, rfl, -⟩ | ⟨_, _, _, _, -, -, htext, -⟩
      · rfl
      · cases htext
    | cons c text ih =>
      rcases exists_completes_of_decodeFrom? h with
        ⟨-, -, htext⟩ | ⟨first, rest, c', text', rfl, hfirst, htext, hrest⟩
      · cases htext
      · obtain ⟨rfl, rfl⟩ := List.cons.inj htext
        rw [State.completes_between_iff] at hfirst
        rw [hfirst, ih rest hrest]
        rfl
  · rintro rfl
    induction text with
    | nil => rfl
    | cons c text ih =>
      have hfirst := decodeFrom?_of_completes (State.completes_encodeChar c) (encode text)
      rw [ih] at hfirst
      exact hfirst

end LineShell.Utf8
