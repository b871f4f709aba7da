import Mathlib
import LineShell.Text.Numeral

/-!
# Numerals are read back

A text opens with blank characters, a sign and digits, none of which has to be there.  An `Opening`
says which they are and what follows them, and every text has exactly one
(`Opening.existsUnique_text`).  An integer is read off a text just if there are digits, and it is
what they denote with the sign, however many they are, brought into the 64-bit range
(`Opening.leadingInt?_text`).

That range leaves alone what is in it, and the numeral of an integer is digits with a sign or none.
So the decimal numeral of such an integer is read as that integer
(`leadingInt?_blanks_signedNumeral`).  The main statement is `leadingInteger_opening`.
-/

namespace LineShell

/-! ## Characters -/

/-- The characters with the property White_Space, one by one. -/
def whiteSpace : List Char :=
  ['\t', '\n', '\x0B', '\x0C', '\r', ' ', '\u0085', '\u00A0', '\u1680', '\u2000', '\u2001',
    '\u2002', '\u2003', '\u2004', '\u2005', '\u2006', '\u2007', '\u2008', '\u2009', '\u200A',
    '\u2028', '\u2029', '\u202F', '\u205F', '\u3000']

/-- The ranges of blank characters leave none out and have no others. -/
lemma isBlank_iff_mem (c : Char) : isBlank c ↔ c ∈ whiteSpace := by
  have hnumber : c ∈ whiteSpace ↔ c.toNat ∈ whiteSpace.map Char.toNat :=
    (List.mem_map_of_injective fun _ _ h => Char.toNat_inj.mp h).symm
  have hnumbers : whiteSpace.map Char.toNat =
      blankRanges.flatMap fun range => List.range' range.1 (range.2 + 1 - range.1) := by
    decide
  rw [hnumber, hnumbers, isBlank, inRanges]
  simp only [List.any_eq_true, List.mem_flatMap, List.mem_range'_1, Bool.and_eq_true,
    decide_eq_true_eq]
  refine exists_congr fun range => and_congr_right fun _ => and_congr_right fun _ => ?_
  omega

/-- No digit is blank. -/
lemma isBlank_of_isDigit {c : Char} (hc : c.isDigit) : isBlank c = false := by
  rw [Char.isDigit, Bool.and_eq_true, decide_eq_true_eq, decide_eq_true_eq] at hc
  have hlow : 48 ≤ c.toNat := hc.1
  have hhigh : c.toNat ≤ 57 := hc.2
  have hbetween : ∀ range ∈ blankRanges, range.2 < 48 ∨ 57 < range.1 := by decide
  refine List.any_eq_false.mpr fun range hrange => ?_
  have := hbetween range hrange
  simp only [Bool.and_eq_true, decide_eq_true_eq]
  omega

/-- No digit is a sign. -/
lemma ne_sign_of_isDigit {c : Char} (hc : c.isDigit) : c ≠ '+' ∧ c ≠ '-' := by
  constructor <;> rintro rfl <;> cases hc

/-- No digit begins the text. -/
def NoDigitFirst (t : Text) : Prop :=
  ∀ c ∈ t.head?, ¬ c.isDigit

@[simp]
lemma noDigitFirst_nil : NoDigitFirst [] := by
  simp [NoDigitFirst]

@[simp]
lemma noDigitFirst_cons {c : Char} {t : Text} : NoDigitFirst (c :: t) ↔ ¬ c.isDigit := by
  simp [NoDigitFirst]

/-- What follows a text comes first only if the text is empty. -/
lemma NoDigitFirst.append {s t : Text} (hs : NoDigitFirst s) (ht : NoDigitFirst t) :
    NoDigitFirst (s ++ t) := by
  cases s with
  | nil => exact ht
  | cons c s => exact noDigitFirst_cons.mpr (noDigitFirst_cons.mp hs)

/-- Cutting a text makes no digit come first. -/
lemma NoDigitFirst.takeWhile {t : Text} (h : NoDigitFirst t) (p : Char → Bool) :
    NoDigitFirst (t.takeWhile p) := by
  cases t with
  | nil => exact h
  | cons c t =>
    rw [List.takeWhile_cons]
    split
    · exact noDigitFirst_cons.mpr (noDigitFirst_cons.mp h)
    · exact noDigitFirst_nil

/-- No sign begins the text. -/
def NoSignFirst (t : Text) : Prop :=
  ∀ c ∈ t.head?, c ≠ '+' ∧ c ≠ '-'

/-- Characters of a kind are cut off a text where another one comes first. -/
lemma takeWhile_dropWhile_append {p : Char → Bool} {s t : Text} (hs : ∀ c ∈ s, p c)
    (ht : ∀ c ∈ t.head?, ¬ p c) :
    (s ++ t).takeWhile p = s ∧ (s ++ t).dropWhile p = t := by
  rw [List.takeWhile_append_of_pos hs, List.dropWhile_append_of_pos hs]
  cases t with
  | nil => simp
  | cons c t => simp [ht c rfl]

/-- After all characters of a kind are cut off, another one comes first. -/
lemma not_of_mem_head?_dropWhile {p : Char → Bool} {t : Text} {c : Char}
    (hc : c ∈ (t.dropWhile p).head?) : ¬ p c := by
  have hfirst := List.head?_dropWhile_not p t
  rw [Option.mem_def.mp hc] at hfirst
  simpa using hfirst

/-! ## Signs -/

/-- A sign before digits, or none. -/
inductive Sign where
  | none
  | plus
  | minus
deriving DecidableEq, Repr

namespace Sign

/-- The sign as it is written. -/
def text : Sign → Text
  | .none => []
  | .plus => ['+']
  | .minus => ['-']

/-- The integer that a number denotes after the sign. -/
def apply : Sign → ℕ → ℤ
  | .minus, n => -n
  | _, n => n

/-- The sign that a text begins with, or none. -/
def first : Text → Sign
  | '+' :: _ => .plus
  | '-' :: _ => .minus
  | _ => .none

/-- A sign is split off the text that it begins, and none is just if no sign comes first. -/
lemma split_append {s : Sign} {t : Text} (h : s = .none → NoSignFirst t) :
    first (s.text ++ t) = s ∧ splitSign (s.text ++ t) = (decide (s = .minus), t) := by
  cases s with
  | plus => exact ⟨rfl, rfl⟩
  | minus => exact ⟨rfl, rfl⟩
  | none =>
    cases t with
    | nil => exact ⟨rfl, rfl⟩
    | cons c t =>
      obtain ⟨hplus, hminus⟩ := h rfl c rfl
      simp [text, first, splitSign, hplus, hminus]

/-- A text is its first sign and what is split off after it. -/
lemma append_split (t : Text) :
    (first t).text ++ (splitSign t).2 = t ∧ (first t = .none → NoSignFirst (splitSign t).2) := by
  cases t with
  | nil => exact ⟨rfl, by simp [splitSign, NoSignFirst]⟩
  | cons c t =>
    by_cases hplus : c = '+'
    · rw [hplus]
      exact ⟨rfl, by simp [first]⟩
    · by_cases hminus : c = '-'
      · rw [hminus]
        exact ⟨rfl, by simp [first]⟩
      · simp [first, splitSign, text, NoSignFirst, hplus, hminus]

end Sign

/-! ## How texts open -/

/-- How a text opens: with blank characters, then with a sign or none, then with digits, as many as
there are of each. -/
@[ext]
structure Opening where
  blanks : Text
  sign : Sign
  digits : Text
  /-- What follows the digits. -/
  rest : Text
  blank : ∀ c ∈ blanks, isBlank c
  digit : ∀ d ∈ digits, d.isDigit
  noBlankNext : ∀ c ∈ (sign.text ++ (digits ++ rest)).head?, ¬ isBlank c
  noSignNext : sign = .none → NoSignFirst (digits ++ rest)
  noDigitNext : NoDigitFirst rest

namespace Opening

/-- The whole text. -/
def text (o : Opening) : Text :=
  o.blanks ++ (o.sign.text ++ (o.digits ++ o.rest))

/-- The integer that the digits denote in base ten, with the sign. -/
def value (o : Opening) : ℤ :=
  o.sign.apply (Nat.ofDigits 10 (o.digits.reverse.map fun d => d.toNat - '0'.toNat))

/-- The blank characters are all that are cut off. -/
lemma cut_blanks (o : Opening) :
    o.text.takeWhile isBlank = o.blanks ∧
      o.text.dropWhile isBlank = o.sign.text ++ (o.digits ++ o.rest) :=
  takeWhile_dropWhile_append o.blank o.noBlankNext

/-- The digits are all that are cut off. -/
lemma cut_digits (o : Opening) :
    (o.digits ++ o.rest).takeWhile Char.isDigit = o.digits ∧
      (o.digits ++ o.rest).dropWhile Char.isDigit = o.rest :=
  takeWhile_dropWhile_append o.digit o.noDigitNext

/-- How a certain text opens. -/
def ofText (t : Text) : Opening where
  blanks := t.takeWhile isBlank
  sign := Sign.first (t.dropWhile isBlank)
  digits := (splitSign (t.dropWhile isBlank)).2.takeWhile Char.isDigit
  rest := (splitSign (t.dropWhile isBlank)).2.dropWhile Char.isDigit
  blank := fun _ hc => List.mem_takeWhile_imp hc
  digit := fun _ hd => List.mem_takeWhile_imp hd
  noBlankNext := by
    rw [List.takeWhile_append_dropWhile, (Sign.append_split _).1]
    exact fun c hc => not_of_mem_head?_dropWhile hc
  noSignNext := by
    rw [List.takeWhile_append_dropWhile]
    exact (Sign.append_split _).2
  noDigitNext := fun _ hc => not_of_mem_head?_dropWhile hc

/-- A text is the text of how it opens. -/
lemma text_ofText (t : Text) : (ofText t).text = t := by
  simp only [text, ofText, List.takeWhile_append_dropWhile, (Sign.append_split _).1]

/-- Nothing else is how a text opens. -/
lemma ofText_text (o : Opening) : ofText o.text = o := by
  obtain ⟨hblanks, hsigned⟩ := o.cut_blanks
  obtain ⟨hsign, hnumber⟩ := Sign.split_append o.noSignNext
  obtain ⟨hdigits, hrest⟩ := o.cut_digits
  have hnumber' : (splitSign (o.text.dropWhile isBlank)).2 = o.digits ++ o.rest := by
    rw [hsigned, hnumber]
  apply Opening.ext
  · exact hblanks
  · change Sign.first (o.text.dropWhile isBlank) = o.sign
    rw [hsigned, hsign]
  · change (splitSign (o.text.dropWhile isBlank)).2.takeWhile Char.isDigit = o.digits
    rw [hnumber', hdigits]
  · change (splitSign (o.text.dropWhile isBlank)).2.dropWhile Char.isDigit = o.rest
    rw [hnumber', hrest]

/-- **Every text opens in exactly one way.** -/
lemma existsUnique_text (t : Text) : ∃! o : Opening, o.text = t :=
  ⟨ofText t, text_ofText t, fun o ho => by rw [← ho, ofText_text]⟩

end Opening

/-! ## Reading -/

/-- The digits of a text denote a number in base ten. -/
lemma digitsValue_eq_ofDigits (digits : Text) :
    digitsValue digits =
      Nat.ofDigits 10 (digits.reverse.map fun d => d.toNat - '0'.toNat) := by
  induction digits using List.reverseRecOn with
  | nil => rfl
  | append_singleton digits d ih =>
    have hlast : digitsValue (digits ++ [d]) = digitsValue digits * 10 + (d.toNat - '0'.toNat) := by
      rw [digitsValue, List.foldl_append]
      rfl
    rw [hlast, ih, List.reverse_append, List.reverse_singleton, List.singleton_append,
      List.map_cons, Nat.ofDigits_cons]
    exact (Nat.add_comm _ _).trans (congrArg _ (Nat.mul_comm _ _))

/-- **What is read off a text** is the integer that its digits denote with the sign, brought into
the 64-bit range, and nothing if there are no digits. -/
lemma Opening.leadingInt?_text (o : Opening) :
    leadingInt? o.text = if o.digits = [] then none else some (saturate o.value) := by
  have hvalue : o.value =
      if o.sign = .minus then -(digitsValue o.digits : ℤ) else digitsValue o.digits := by
    rw [value, ← digitsValue_eq_ofDigits]
    cases o.sign <;> rfl
  unfold leadingInt?
  rw [o.cut_blanks.2, (Sign.split_append o.noSignNext).2]
  simp only [o.cut_digits.1, decide_eq_true_eq]
  cases hdigits : o.digits with
  | nil => rfl
  | cons d ds => rw [hvalue, hdigits, if_neg (List.cons_ne_nil d ds)]

/-- Where there are digits, they follow all blank characters and a sign or none. -/
def Opening.ofDigits (blanks : Text) (sign : Sign) (digits rest : Text)
    (hblank : ∀ c ∈ blanks, isBlank c) (hnonempty : digits ≠ []) (hdigit : ∀ d ∈ digits, d.isDigit)
    (hrest : NoDigitFirst rest) : Opening where
  blanks := blanks
  sign := sign
  digits := digits
  rest := rest
  blank := hblank
  digit := hdigit
  noBlankNext := by
    obtain ⟨d, ds, rfl⟩ := List.exists_cons_of_ne_nil hnonempty
    have hd : ¬ isBlank d := by simp [isBlank_of_isDigit (hdigit d List.mem_cons_self)]
    have hplus : isBlank '+' = false := by decide
    have hminus : isBlank '-' = false := by decide
    cases sign <;> simp [Sign.text, hd, hplus, hminus]
  noSignNext := by
    obtain ⟨d, ds, rfl⟩ := List.exists_cons_of_ne_nil hnonempty
    intro _ c hc
    obtain rfl : d = c := Option.some.inj hc
    exact ne_sign_of_isDigit (hdigit d List.mem_cons_self)
  noDigitNext := hrest

/-- Digits are read with the sign before them, whatever follows them that is no digit. -/
lemma leadingInt?_append {blanks digits rest : Text} (sign : Sign)
    (hblank : ∀ c ∈ blanks, isBlank c) (hnonempty : digits ≠ [])
    (hdigit : ∀ d ∈ digits, d.isDigit) (hrest : NoDigitFirst rest) :
    leadingInt? (blanks ++ sign.text ++ digits ++ rest) =
      some (saturate (sign.apply (digitsValue digits))) := by
  let o := Opening.ofDigits blanks sign digits rest hblank hnonempty hdigit hrest
  have htext : blanks ++ sign.text ++ digits ++ rest = o.text := by
    rw [List.append_assoc, List.append_assoc]
    rfl
  have hdigits : o.digits ≠ [] := hnonempty
  rw [htext, o.leadingInt?_text, if_neg hdigits, digitsValue_eq_ofDigits]
  rfl

/-! ## Numerals -/

/-- A numeral denotes its number. -/
lemma digitsValue_numeral (n : ℕ) : digitsValue (numeral n) = n := by
  have hvalue : digitsValue (numeral n) = Nat.ofDigitChars 10 (Nat.toDigits 10 n) 0 := by
    unfold digitsValue numeral Nat.ofDigitChars
    simp only [Nat.mul_comm]
  rw [hvalue, Nat.ofDigitChars_toDigits (by decide) le_rfl]

/-- A numeral is made of digits. -/
lemma isDigit_of_mem_numeral {n : ℕ} {d : Char} (hd : d ∈ numeral n) : d.isDigit :=
  Nat.isDigit_of_mem_toDigits (by decide) le_rfl hd

/-- A numeral has a digit. -/
lemma numeral_ne_nil (n : ℕ) : numeral n ≠ [] :=
  Nat.toDigits_ne_nil

/-- The numeral of an integer is that of a number, with a sign or none. -/
lemma exists_signedNumeral_eq (n : ℤ) :
    ∃ (s : Sign) (m : ℕ), signedNumeral n = s.text ++ numeral m ∧ s.apply m = n := by
  cases n with
  | ofNat m => exact ⟨.none, m, rfl, rfl⟩
  | negSucc m => exact ⟨.minus, m + 1, rfl, rfl⟩

/-- The numeral of an integer is made of digits, but for its sign. -/
lemma mem_signedNumeral {n : ℤ} {c : Char} (hc : c ∈ signedNumeral n) : c = '-' ∨ c.isDigit := by
  cases n with
  | ofNat m => exact Or.inr (isDigit_of_mem_numeral hc)
  | negSucc m => exact (List.mem_cons.mp hc).imp_right isDigit_of_mem_numeral

/-- An integer of 64 bits stays as it is. -/
lemma saturate_eq_self {n : ℤ} (hmin : int64Min ≤ n) (hmax : n ≤ int64Max) : saturate n = n := by
  rw [saturate, min_eq_right hmax, max_eq_right hmin]

/-- **The numeral of an integer of 64 bits is read as that integer**, after blank characters and
before anything that is no digit. -/
theorem leadingInt?_blanks_signedNumeral {n : ℤ} (hmin : int64Min ≤ n) (hmax : n ≤ int64Max)
    {blanks rest : Text} (hblank : ∀ c ∈ blanks, isBlank c) (hrest : NoDigitFirst rest) :
    leadingInt? (blanks ++ signedNumeral n ++ rest) = some n := by
  obtain ⟨s, m, hnumeral, hn⟩ := exists_signedNumeral_eq n
  rw [hnumeral, ← List.append_assoc,
    leadingInt?_append s hblank (numeral_ne_nil m) (fun _ => isDigit_of_mem_numeral) hrest,
    digitsValue_numeral, hn, saturate_eq_self hmin hmax]

/-- **The numeral of an integer of 64 bits is read as that integer**, whatever follows it that is no
digit. -/
theorem leadingInt?_signedNumeral {n : ℤ} (hmin : int64Min ≤ n) (hmax : n ≤ int64Max) {rest : Text}
    (hrest : NoDigitFirst rest) : leadingInt? (signedNumeral n ++ rest) = some n :=
  leadingInt?_blanks_signedNumeral hmin hmax (List.forall_mem_nil _) hrest

/-- **Reading an integer off a text.**  Every text opens in exactly one way with blank characters,
a sign or none and digits, as many as there are of each.  Without digits nothing is read.  Otherwise
it is the integer that they denote with the sign, however many they are, or the end of the 64-bit
range that is nearest to it.  What follows the digits makes no difference.  So a 64-bit integer is
what is read off its numeral, after blank characters and before anything that is no digit. -/
theorem leadingInteger_opening :
    (∀ c, isBlank c ↔ c ∈ whiteSpace) ∧
    (∀ t : Text, ∃! o : Opening, o.text = t) ∧
    (∀ o : Opening,
      leadingInt? o.text =
        if o.digits = [] then none else some (max (-2 ^ 63) (min (2 ^ 63 - 1) o.value))) ∧
    (∀ o : Opening, o.digits ≠ [] → ∀ rest, NoDigitFirst rest →
      leadingInt? (o.blanks ++ o.sign.text ++ o.digits ++ rest) = leadingInt? o.text) ∧
    ∀ (n : Int64) (blanks rest : Text), (∀ c ∈ blanks, isBlank c) → NoDigitFirst rest →
      leadingInt? (blanks ++ signedNumeral n.toInt ++ rest) = some n.toInt := by
  refine ⟨isBlank_iff_mem, Opening.existsUnique_text, Opening.leadingInt?_text,
    fun o hdigits rest hrest => ?_, fun n blanks rest hblank hrest => ?_⟩
  · have htext : o.text = o.blanks ++ o.sign.text ++ o.digits ++ o.rest := by
      rw [Opening.text, List.append_assoc, List.append_assoc]
    rw [htext, leadingInt?_append o.sign o.blank hdigits o.digit hrest,
      leadingInt?_append o.sign o.blank hdigits o.digit o.noDigitNext]
  · exact leadingInt?_blanks_signedNumeral n.le_toInt (Int.le_sub_one_of_lt n.toInt_lt) hblank hrest

/-- Zeros before an integer that is one too small, and a sign that is not followed by digits. -/
theorem leadingInteger_opening_beyond :
    let o := Opening.ofText "\t\u3000-0009223372036854775809 km".toList
    let least := signedNumeral Int64.minValue.toInt
    o.digits ≠ [] ∧ NoDigitFirst "-1".toList ∧ leadingInt? o.text = some (-2 ^ 63) ∧
      leadingInt? (o.blanks ++ o.sign.text ++ o.digits ++ "-1".toList) = some (-2 ^ 63) ∧
      (∀ c ∈ "\u2028 ".toList, isBlank c) ∧ NoDigitFirst ".5".toList ∧
      least = "-9223372036854775808".toList ∧
      leadingInt? ("\u2028 ".toList ++ least ++ ".5".toList) = some (-2 ^ 63) ∧
      leadingInt? "+ 1".toList = none := by
  intro o least
  obtain ⟨-, -, hread, hrest, hnumeral⟩ := leadingInteger_opening
  have hdigits : o.digits ≠ [] := by decide
  have hminus : NoDigitFirst "-1".toList := noDigitFirst_cons.mpr (by decide)
  have hpoint : NoDigitFirst ".5".toList := noDigitFirst_cons.mpr (by decide)
  have hblank : ∀ c ∈ "\u2028 ".toList, isBlank c := List.all_eq_true.mp (by decide)
  have hvalue : o.value = -9223372036854775809 := by decide +kernel
  have hleast : leadingInt? o.text = some (-2 ^ 63) := by
    rw [hread o, if_neg hdigits, hvalue]
    rfl
  have hsign : leadingInt? "+ 1".toList = none :=
    (hread (Opening.ofText "+ 1".toList)).trans (by decide)
  have hread' : leadingInt? ("\u2028 ".toList ++ least ++ ".5".toList) = some (-2 ^ 63) :=
    hnumeral Int64.minValue _ _ hblank hpoint
  exact ⟨hdigits, hminus, hleast, (hrest o hdigits _ hminus).trans hleast, hblank, hpoint,
    by decide +kernel, hread', hsign⟩

end LineShell
