import LineShell.Proofs.Fitting

/-!
# The grammar of lines

A line is laid out as some spaces and then words, each with the spaces that follow it.  A
`Line.Layout` says how many there are: words are neither empty nor do they hold a space, and between
neighbours there is at least one.  Tabs and newlines are characters like any other here.

Every line has exactly one layout (`Line.Layout.existsUnique_text`): that of the empty line is grown
character by character, by a space (`Line.Layout.indent`) or by anything else
(`Line.Layout.prefixed`).  The tokens of a line are the words of its layout
(`Line.Layout.tokens_text`).  So the layouts say what parsing does on all lines, and this is the
main statement, `parse_layout`.
-/

namespace LineShell

/-! ## Pieces and tokens -/

/-- A text has a piece, if only an empty one. -/
lemma pieces_ne_nil (separator : Char) (t : Text) : pieces separator t ≠ [] := by
  induction t with
  | nil => simp [pieces]
  | cons c t ih =>
    rw [pieces]
    split_ifs
    · simp
    · split <;> simp

/-- A separator cuts a text into the pieces before it and the pieces after it. -/
lemma pieces_append (separator : Char) (s t : Text) :
    pieces separator (s ++ separator :: t) = pieces separator s ++ pieces separator t := by
  induction s with
  | nil => simp [pieces]
  | cons c s ih =>
    rw [List.cons_append, pieces, pieces, ih]
    split_ifs
    · rfl
    · obtain ⟨piece, rest, hpieces⟩ := List.exists_cons_of_ne_nil (pieces_ne_nil separator s)
      rw [hpieces]
      rfl

/-- A text without a separator is one piece. -/
lemma pieces_of_notMem {separator : Char} {t : Text} (h : separator ∉ t) :
    pieces separator t = [t] := by
  induction t with
  | nil => rfl
  | cons c t ih =>
    rw [List.mem_cons, not_or] at h
    rw [pieces, if_neg (Ne.symm h.1), ih h.2]

namespace Line

/-- **A space parts the tokens of a line** into those before it and those after it. -/
lemma tokens_append_space (s t : Text) : tokens (s ++ ' ' :: t) = tokens s ++ tokens t := by
  unfold tokens
  rw [pieces_append, List.filter_append]

/-- A text without a space is a token, unless it is empty. -/
lemma tokens_of_notMem {t : Text} (h : ' ' ∉ t) : tokens t = if t = [] then [] else [t] := by
  unfold tokens
  rw [pieces_of_notMem h]
  split_ifs with ht <;> simp [ht]

/-- Spaces at the beginning of a line make no tokens. -/
lemma tokens_replicate_append (n : ℕ) (t : Text) :
    tokens (List.replicate n ' ' ++ t) = tokens t := by
  induction n with
  | zero => rfl
  | succ n ih =>
    rw [List.replicate_succ, List.cons_append, ← ih]
    exact tokens_append_space [] _

/-! ## Layouts -/

/-- A word has some characters, and none of them is a space. -/
structure IsWord (w : Text) : Prop where
  nonempty : w ≠ []
  space : ' ' ∉ w

/-- Words, each with a number of spaces after it. -/
def spread (words : List (Text × ℕ)) : Text :=
  words.flatMap fun w => w.1 ++ List.replicate w.2 ' '

/-- How a line is laid out. -/
@[ext]
structure Layout where
  /-- The number of spaces at the beginning. -/
  leading : ℕ
  /-- The words, each with the number of spaces after it. -/
  words : List (Text × ℕ)
  isWord : ∀ w ∈ words, IsWord w.1
  /-- There is a space at least between neighbours. -/
  apart : words.IsChain fun w _ => 0 < w.2

namespace Layout

/-- The line that is laid out in this way. -/
def text (l : Layout) : Text :=
  List.replicate l.leading ' ' ++ spread l.words

/-- The words of the layout, without the spaces. -/
def tokens (l : Layout) : List Text :=
  l.words.map Prod.fst

end Layout

/-- The tokens of words that are apart are the words. -/
lemma tokens_spread {words : List (Text × ℕ)} (hword : ∀ w ∈ words, IsWord w.1)
    (hapart : words.IsChain fun w _ => 0 < w.2) :
    tokens (spread words) = words.map Prod.fst := by
  induction words with
  | nil => rfl
  | cons w words ih =>
    obtain ⟨hw, hwords⟩ := List.forall_mem_cons.mp hword
    have hfirst : tokens w.1 = [w.1] := by rw [tokens_of_notMem hw.space, if_neg hw.nonempty]
    have hspread : spread (w :: words) = w.1 ++ (List.replicate w.2 ' ' ++ spread words) := by
      rw [spread, List.flatMap_cons, List.append_assoc]
      rfl
    rw [hspread, List.map_cons, ← ih hwords hapart.tail]
    cases hspaces : w.2 with
    | zero =>
      -- Without a space after it, the word is the last one.
      cases words with
      | nil =>
        rw [List.replicate_zero, List.nil_append]
        simpa [spread, tokens, pieces] using hfirst
      | cons w' words =>
        have := (List.isChain_cons_cons.mp hapart).1
        omega
    | succ k =>
      rw [List.replicate_succ, List.cons_append, tokens_append_space, hfirst,
        tokens_replicate_append, List.singleton_append]

/-- **The tokens of a line are the words of its layout.** -/
lemma Layout.tokens_text (l : Layout) : Line.tokens l.text = l.tokens := by
  rw [text, tokens_replicate_append, tokens_spread l.isWord l.apart]
  rfl

namespace Layout

/-! ## Every line has one layout -/

/-- The layout of the empty line. -/
def empty : Layout where
  leading := 0
  words := []
  isWord := by simp
  apart := .nil

/-- The layout of a line with one more space before it. -/
def indent (l : Layout) : Layout :=
  { l with leading := l.leading + 1 }

/-- The layout of a line with one more character before it that is no space: it joins a word that
it touches, and is a word of its own otherwise. -/
def prefixed (c : Char) (hc : c ≠ ' ') : Layout → Layout
  | ⟨0, (w, k) :: words, hword, hapart⟩ =>
    { leading := 0
      words := (c :: w, k) :: words
      isWord := by
        obtain ⟨hw, hwords⟩ := List.forall_mem_cons.mp hword
        refine List.forall_mem_cons.mpr ⟨⟨by simp, ?_⟩, hwords⟩
        rw [List.mem_cons, not_or]
        exact ⟨Ne.symm hc, hw.space⟩
      apart := by
        rw [List.isChain_cons] at hapart ⊢
        exact hapart }
  | ⟨k + 1, words, hword, hapart⟩ =>
    { leading := 0
      words := ([c], k + 1) :: words
      isWord := List.forall_mem_cons.mpr ⟨⟨by simp, by simpa using Ne.symm hc⟩, hword⟩
      apart := List.isChain_cons.mpr ⟨fun _ _ => Nat.succ_pos k, hapart⟩ }
  | ⟨0, [], _, _⟩ =>
    { leading := 0
      words := [([c], 0)]
      isWord := List.forall_mem_cons.mpr ⟨⟨by simp, by simpa using Ne.symm hc⟩, by simp⟩
      apart := .singleton _ }

@[simp]
lemma text_empty : empty.text = [] := rfl

@[simp]
lemma text_indent (l : Layout) : l.indent.text = ' ' :: l.text := rfl

@[simp]
lemma text_prefixed (c : Char) (hc : c ≠ ' ') (l : Layout) :
    (l.prefixed c hc).text = c :: l.text := by
  rcases l with ⟨_ | k, _ | ⟨⟨w, k⟩, words⟩, hword, hapart⟩ <;> rfl

/-- A layout is made of the layout of a shorter line, unless it is that of the empty line. -/
lemma eq_empty_or (l : Layout) :
    l = empty ∨ (∃ l', l = indent l') ∨ ∃ c hc l', l = prefixed c hc l' := by
  rcases l with ⟨_ | n, _ | ⟨⟨w, k⟩, words⟩, hword, hapart⟩
  · exact Or.inl rfl
  · right; right
    obtain ⟨hw, hwords⟩ := List.forall_mem_cons.mp hword
    have hrest := (List.isChain_cons.mp hapart).2
    obtain ⟨c, w, rfl⟩ := List.exists_cons_of_ne_nil hw.nonempty
    have hspace := hw.space
    rw [List.mem_cons, not_or] at hspace
    refine ⟨c, Ne.symm hspace.1, ?_⟩
    cases w with
    | nil =>
      -- The character is a word of its own, and what follows it is the layout of the rest.
      refine ⟨⟨k, words, hwords, hrest⟩, ?_⟩
      rcases k with _ | k
      · cases words with
        | nil => rfl
        | cons w words =>
          have := (List.isChain_cons_cons.mp hapart).1
          simp at this
      · rfl
    | cons d w =>
      refine ⟨⟨0, (d :: w, k) :: words, ?_, ?_⟩, rfl⟩
      · exact List.forall_mem_cons.mpr ⟨⟨by simp, hspace.2⟩, hwords⟩
      · rw [List.isChain_cons] at hapart ⊢
        exact hapart
  · exact Or.inr (Or.inl ⟨⟨n, [], hword, hapart⟩, rfl⟩)
  · exact Or.inr (Or.inl ⟨⟨n, (w, k) :: words, hword, hapart⟩, rfl⟩)

/-- A layout of the empty line is the empty one. -/
lemma eq_empty_of_text {l : Layout} (h : l.text = []) : l = empty := by
  rcases l.eq_empty_or with rfl | ⟨l', rfl⟩ | ⟨c, hc, l', rfl⟩
  · rfl
  · rw [text_indent] at h
    cases h
  · rw [text_prefixed] at h
    cases h

/-- A layout of a line is made of a layout of the line without its first character. -/
lemma exists_of_text_eq_cons {l : Layout} {d : Char} {t : Text} (h : l.text = d :: t) :
    ∃ l', l'.text = t ∧ (d = ' ' ∧ l = indent l' ∨ ∃ hd : d ≠ ' ', l = prefixed d hd l') := by
  rcases l.eq_empty_or with rfl | ⟨l', rfl⟩ | ⟨c, hc, l', rfl⟩
  · cases h
  · rw [text_indent] at h
    obtain ⟨hd, ht⟩ := List.cons.inj h
    exact ⟨l', ht, Or.inl ⟨hd.symm, rfl⟩⟩
  · rw [text_prefixed] at h
    obtain ⟨rfl, ht⟩ := List.cons.inj h
    exact ⟨l', ht, Or.inr ⟨hc, rfl⟩⟩

/-- Two layouts of one line are the same. -/
lemma eq_of_text_eq {l l' : Layout} {t : Text} (h : l.text = t) (h' : l'.text = t) : l = l' := by
  induction t generalizing l l' with
  | nil => rw [eq_empty_of_text h, eq_empty_of_text h']
  | cons d t ih =>
    obtain ⟨m, hm, hl⟩ := exists_of_text_eq_cons h
    obtain ⟨m', hm', hl'⟩ := exists_of_text_eq_cons h'
    rw [← ih hm hm'] at hl'
    rcases hl with ⟨rfl, rfl⟩ | ⟨hd, rfl⟩ <;> rcases hl' with ⟨hd', rfl⟩ | ⟨hd', rfl⟩
    · rfl
    · exact absurd rfl hd'
    · exact absurd hd' hd
    · rfl

/-- **Every line has exactly one layout.** -/
lemma existsUnique_text (t : Text) : ∃! l : Layout, l.text = t := by
  have hexists : ∃ l : Layout, l.text = t := by
    induction t with
    | nil => exact ⟨empty, rfl⟩
    | cons c t ih =>
      obtain ⟨l, rfl⟩ := ih
      by_cases hc : c = ' '
      · exact ⟨l.indent, by rw [hc, text_indent]⟩
      · exact ⟨l.prefixed c hc, l.text_prefixed c hc⟩
  obtain ⟨l, hl⟩ := hexists
  exact ⟨l, hl, fun l' hl' => eq_of_text_eq hl' hl⟩

end Layout

/-- The tokens of a line are words. -/
lemma isWord_of_mem_tokens {line token : Text} (h : token ∈ tokens line) :
    IsWord token := by
  obtain ⟨l, rfl, -⟩ := Layout.existsUnique_text line
  rw [l.tokens_text] at h
  obtain ⟨w, hw, rfl⟩ := List.mem_map.mp h
  exact l.isWord w hw

/-- What is left of a token has neither a space nor a newline. -/
lemma plain_upToNewline {token : Text} (h : ' ' ∉ token) :
    ' ' ∉ upToNewline token ∧ '\n' ∉ upToNewline token := by
  refine ⟨fun hmem => h ((List.takeWhile_sublist _).subset hmem), fun hmem => ?_⟩
  simpa using List.mem_takeWhile_imp hmem

end Line

/-! ## Parsing -/

namespace Command

/-- Texts as the arguments of a line are: no more of them than are kept, and without spaces and
newlines. -/
structure Plain (arguments : List Text) : Prop where
  length : arguments.length ≤ argumentLimit
  space : ∀ argument ∈ arguments, ' ' ∉ argument
  newline : ∀ argument ∈ arguments, '\n' ∉ argument

/-- The arguments of a line are plain. -/
lemma plain_arguments (line : Text) : Plain (parse line).arguments := by
  have hplain : ∀ argument ∈ (parse line).arguments, ' ' ∉ argument ∧ '\n' ∉ argument := by
    rw [parse_eq]
    intro argument hargument
    obtain ⟨token, htoken, rfl⟩ := List.mem_map.mp hargument
    have hword := Line.isWord_of_mem_tokens (List.mem_of_mem_tail (List.mem_of_mem_take htoken))
    exact Line.plain_upToNewline hword.space
  refine ⟨?_, fun a ha => (hplain a ha).1, fun a ha => (hplain a ha).2⟩
  rw [parse_eq, List.length_map]
  exact List.length_take_le _ _

/-- **What parsing does.**  The text of a layout parses as its first word and up to 64 of the words
that follow it, each as far as its first newline, with the line kept as it is.  The base is empty
only if there is no word or if the first one begins with a newline.  Every line has exactly one
layout, so this is what becomes of all lines; and neither the base nor an argument of a line ever
has a space or a newline. -/
theorem parse_layout :
    (∀ l : Line.Layout,
      parse l.text =
          { base := (l.tokens.head?.map (List.takeWhile (· ≠ '\n'))).getD []
            arguments := (l.tokens.tail.take 64).map (List.takeWhile (· ≠ '\n'))
            raw := l.text } ∧
        ((parse l.text).base = [] ↔ l.tokens = [] ∨ ∃ w rest, l.tokens = ('\n' :: w) :: rest)) ∧
    (∀ line : Text, ∃! l : Line.Layout, l.text = line) ∧
    ∀ line : Text, (' ' ∉ (parse line).base ∧ '\n' ∉ (parse line).base) ∧
      (∀ argument ∈ (parse line).arguments, ' ' ∉ argument ∧ '\n' ∉ argument) ∧
      (parse line).arguments.length ≤ 64 := by
  refine ⟨fun l => ?_, Line.Layout.existsUnique_text, fun line => ?_⟩
  · rw [parse_eq, l.tokens_text]
    refine ⟨rfl, ?_⟩
    cases htokens : l.tokens with
    | nil => simp
    | cons w rest =>
      have hmem : w ∈ Line.tokens l.text := by
        rw [l.tokens_text, htokens]
        exact List.mem_cons_self
      have hw := Line.isWord_of_mem_tokens hmem
      obtain ⟨c, w, rfl⟩ := List.exists_cons_of_ne_nil hw.nonempty
      by_cases hc : c = '\n' <;> simp [Line.upToNewline, hc]
  · obtain ⟨hlength, hspace, hnewline⟩ := plain_arguments line
    refine ⟨?_, fun a ha => ⟨hspace a ha, hnewline a ha⟩, hlength⟩
    rw [parse_eq]
    cases htokens : Line.tokens line with
    | nil => simp
    | cons token tokens =>
      have hmem : token ∈ Line.tokens line := by
        rw [htokens]
        exact List.mem_cons_self
      exact Line.plain_upToNewline (Line.isWord_of_mem_tokens hmem).space

/-- A repetition after two spaces, whose last word is a newline: its text is an empty argument. -/
theorem parse_layout_blank :
    let l : Line.Layout :=
      { leading := 2
        words := [("repeat".toList, 3), ("2".toList, 1), ("a\tb".toList, 1), ("\n".toList, 0)]
        isWord := by
          intro w hw
          simp only [List.mem_cons, List.not_mem_nil, or_false] at hw
          rcases hw with rfl | rfl | rfl | rfl <;> exact ⟨by decide, by decide⟩
        apart := by simp }
    let c := parse "  repeat   2 a\tb \n".toList
    c = { base := "repeat".toList, arguments := ["2".toList, "a\tb".toList, []],
          raw := "  repeat   2 a\tb \n".toList } ∧
      [] ∈ c.arguments ∧ ' ' ∉ ([] : Text) ∧
      ∀ l' : Line.Layout, l'.text = "  repeat   2 a\tb \n".toList → l' = l := by
  intro l c
  have htext : l.text = "  repeat   2 a\tb \n".toList := by decide
  obtain ⟨hparse, hunique, hplain⟩ := parse_layout
  have hc : c = _ := htext ▸ (hparse l).1
  have hempty : [] ∈ c.arguments := by decide
  refine ⟨hc.trans (by decide), hempty, ((hplain _).2.1 [] hempty).1, fun l' hl' => ?_⟩
  exact (hunique _).unique hl' htext

end Command

end LineShell
