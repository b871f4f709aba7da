import LineShell.Proofs.Layouts
import LineShell.Proofs.Numerals
import LineShell.Proofs.Readers
import LineShell.Proofs.Resolution

/-!
# The numbers of the history

The history is listed with a number before each line, and a recall asks for a line by its number.
The numbers are the same: `listing` is what is listed, and a recall of a number that is listed runs
the line beside it, while a recall of any other number fails.  The main statement is
`dispatch_numbers`.

A listing says what the history is, if every line but the last ends with its newline and there are
no other newlines (`Separated`).  The newlines end the entries then, so that the listing is cut into
entries where bytes are cut into segments, and the line of an entry follows the second tab of it,
since a number has no tab; the line itself may have tabs and digits (`unlisted_entries`).
-/

namespace LineShell

variable {σ ι : Type}

/-! ## The listing -/

/-- A line with its number, between a tab before the number and a tab after it. -/
def entry (n : ℕ) (line : Text) : Text :=
  '\t' :: numeral n ++ '\t' :: line

/-- The entries of lines, which are numbered from 1. -/
def listing (lines : List Text) : List Text :=
  lines.mapIdx fun i line => entry (i + 1) line

/-- Listing numbered lines writes an entry for each. -/
lemma list_apply {s : Shell σ ι} (hout : s.out = none) (entries : List (ℕ × Text)) :
    Builtin.list entries s =
      ⟨.ok (), s, entries.map fun e => .wrote .out (Utf8.encode (entry e.1 e.2))⟩ := by
  induction entries with
  | nil => rfl
  | cons e entries ih =>
    have hroom : s.room .out = none := hout
    rw [Builtin.list, Action.bind_apply, Action.print_of_room_none hroom]
    simp [ih, entry]

/-- The entries of a history are those of its numbered lines. -/
lemma map_entry_numbered (h : History) :
    (h.numbered.map fun e => entry e.1 e.2) = listing h.lines := by
  rw [History.numbered, listing, List.map_map, List.mapIdx_eq_zipIdx_map]
  rfl

/-- The history builtin writes the listing of the history and does nothing else. -/
lemma dispatch_history (host : Host σ) (settings : Settings) {s : Shell σ ι} (hout : s.out = none)
    {c : Command} (hc : c.base = "history".toList) :
    dispatch host settings c s =
      ⟨.ok 0, s, .noted (.builtinBegins c.base) ::
        (listing s.session.history.lines).map fun t => .wrote .out (Utf8.encode t)⟩ := by
  have hhere : ¬ c.IsRecall := by simp [Command.isRecall_iff, hc]
  have hverb : c.verb = .history := (Command.verb_eq_iff rfl).mpr hc
  rw [dispatch, dispatchWithin_of_not_isRecall host _ _ hhere, performHere, perform, hverb,
    ← map_entry_numbered]
  simp [builtin, Builtin.history, list_apply hout]

/-! ## Recalling by a number -/

/-- The line that asks for the line of a number. -/
def recalling (n : ℤ) (suffix : Text) : Text :=
  '!' :: signedNumeral n ++ suffix ++ ['\n']

/-- The base of a recall is its mark, the number, and what follows this up to the first newline. -/
lemma base_recalling {n : ℤ} {suffix : Text} (hspace : ' ' ∉ suffix) :
    (Command.parse (recalling n suffix)).base =
      '!' :: (signedNumeral n ++ Line.upToNewline (suffix ++ ['\n'])) := by
  have hplain : ∀ c ∈ signedNumeral n, c ≠ ' ' ∧ c ≠ '\n' := by
    rintro c hc
    constructor <;> rintro rfl <;> rcases mem_signedNumeral hc with h | h <;> cases h
  have hword : ' ' ∉ recalling n suffix := by
    intro hmem
    rcases List.mem_append.mp hmem with hmem | hmem
    · rcases List.mem_append.mp hmem with hmem | hmem
      · rcases List.mem_cons.mp hmem with h | hmem
        · cases h
        · exact (hplain _ hmem).1 rfl
      · exact hspace hmem
    · simp at hmem
  have hkept : ∀ c ∈ signedNumeral n, decide (c ≠ '\n') = true := fun c hc =>
    decide_eq_true (hplain c hc).2
  rw [Command.parse_eq, Line.tokens_of_notMem hword, if_neg (by simp [recalling])]
  change Line.upToNewline (recalling n suffix) = _
  unfold recalling Line.upToNewline
  rw [List.append_assoc, List.cons_append, List.takeWhile_cons_of_pos (by decide),
    List.takeWhile_append_of_pos hkept]

/-- The line of a number is shown and then carried out with one recall less allowed, and nothing is
done if there is none. -/
lemma dispatch_of_leadingInt? (host : Host σ) (settings : Settings)
    (hdepth : 1 ≤ settings.recallDepth) {s : Shell σ ι} (hout : s.out = none) {c : Command}
    {index : Text} (hbase : c.base = '!' :: index) {n : ℤ} (hn : leadingInt? index = some n) :
    dispatch host settings c s =
      match s.session.history.get? n with
      | none => ⟨.error (.noSuchLine n), s, []⟩
      | some line =>
        (dispatchWithin host settings.recallDepth (settings.recallDepth - 1) (Command.parse line)
          s).after (passing 0 [(n, line)]) := by
  obtain ⟨left, hleft⟩ := Nat.exists_eq_add_of_le' hdepth
  rw [dispatch, hleft, dispatchWithin, perform_of_recall host _ hbase]
  simp only [Action.bind_apply, wanted, hn, Action.pure_apply, Nat.sub_self, recalled_apply hout,
    Nat.add_sub_cancel]
  cases s.session.history.get? n <;> simp

/-! ## Reading a listing back -/

/-- Every line but the last ends with its newline, and no line has another newline. -/
structure Separated (lines : List Text) : Prop where
  newline : ∀ line ∈ lines, '\n' ∉ line.dropLast
  ends : ∀ line ∈ lines.dropLast, line.getLast? = some '\n'

/-- The line of an entry: what follows its second tab. -/
def unnumbered (entry : Text) : Text :=
  (entry.tail.dropWhile (· ≠ '\t')).tail

/-- The lines of a listing that is given by its bytes. -/
def unlisted (bytes : List UInt8) : List Text :=
  (Feed.segments bytes).map fun segment => unnumbered (Utf8.decodeLossy segment)

/-- Numbers have no tabs, so the second tab of an entry is the one before its line. -/
lemma unnumbered_entry (n : ℕ) (line : Text) : unnumbered (entry n line) = line := by
  have hnumeral : ∀ c ∈ numeral n, decide (c ≠ '\t') = true := by
    intro c hc
    rw [decide_eq_true_eq]
    rintro rfl
    cases isDigit_of_mem_numeral hc
  unfold unnumbered entry
  rw [List.cons_append, List.tail_cons, List.dropWhile_append_of_pos hnumeral,
    List.dropWhile_cons_of_neg (by decide), List.tail_cons]

namespace Feed

/-- The bytes of a line that ends with its newline are a segment of their own, before others. -/
lemma segments_encode_append {line : Text} (hends : line.getLast? = some '\n')
    (hnewline : '\n' ∉ line.dropLast) (rest : List UInt8) :
    segments (Utf8.encode line ++ rest) = Utf8.encode line :: segments rest := by
  obtain ⟨body, rfl⟩ := List.getLast?_eq_some_iff.mp hends
  rw [List.dropLast_concat] at hnewline
  have hfirst : segments (Utf8.encode ['\n'] ++ rest) = Utf8.encode ['\n'] :: segments rest := rfl
  rw [Utf8.encode_append, List.append_assoc]
  cases body with
  | nil => exact hfirst
  | cons c body =>
    rw [segments_append_of_not_mem (Utf8.encode_ne_nil c body)
      (mt (Utf8.newline_mem_encode_iff _).mp hnewline), hfirst]

/-- The bytes of a line are one segment. -/
lemma segments_encode {line : Text} (hne : line ≠ []) (hnewline : '\n' ∉ line.dropLast) :
    segments (Utf8.encode line) = [Utf8.encode line] := by
  by_cases hends : line.getLast? = some '\n'
  · have hsegments := segments_encode_append hends hnewline []
    rwa [List.append_nil] at hsegments
  · obtain ⟨body, c, rfl⟩ := List.eq_nil_or_concat' line |>.resolve_left hne
    have hmem : '\n' ∉ body ++ [c] := by
      rw [List.dropLast_concat] at hnewline
      rw [List.getLast?_concat, Option.some_inj] at hends
      rw [List.mem_append, List.mem_singleton, not_or]
      exact ⟨hnewline, Ne.symm hends⟩
    have hencode : Utf8.encode (body ++ [c]) ≠ [] :=
      Utf8.encode_injective.ne (List.append_ne_nil_of_right_ne_nil _ (List.cons_ne_nil c []))
    have hsegments := segments_append_of_not_mem hencode
      (mt (Utf8.newline_mem_encode_iff _).mp hmem) []
    rwa [List.append_nil] at hsegments

end Feed

/-- An entry ends like its line. -/
lemma getLast?_entry (n : ℕ) {line : Text} (hends : line.getLast? = some '\n') :
    (entry n line).getLast? = some '\n' := by
  rw [entry, List.getLast?_append_cons, List.getLast?_cons, hends]
  rfl

/-- An entry has no newlines but those of its line. -/
lemma newline_notMem_dropLast_entry (n : ℕ) {line : Text} (hnewline : '\n' ∉ line.dropLast) :
    '\n' ∉ (entry n line).dropLast := by
  have hnumber : '\n' ∉ '\t' :: numeral n := by
    intro hmem
    rcases List.mem_cons.mp hmem with h | hmem
    · cases h
    · cases isDigit_of_mem_numeral hmem
  have hline : '\n' ∉ ('\t' :: line).dropLast := by
    cases line with
    | nil => exact List.not_mem_nil
    | cons c line =>
      rw [List.dropLast_cons_of_ne_nil (List.cons_ne_nil c line), List.mem_cons, not_or]
      exact ⟨by decide, hnewline⟩
  rw [entry, List.dropLast_append_of_ne_nil (List.cons_ne_nil '\t' line), List.mem_append, not_or]
  exact ⟨hnumber, hline⟩

/-- A listing is read back, however its lines are numbered. -/
lemma unlisted_entries {lines : List Text} (h : Separated lines) (number : ℕ → ℕ) :
    unlisted (Utf8.encode (lines.mapIdx fun i line => entry (number i) line).flatten) = lines := by
  induction lines generalizing number with
  | nil => rfl
  | cons line lines ih =>
    obtain ⟨hline, hlines⟩ := List.forall_mem_cons.mp h.newline
    have hnewline := newline_notMem_dropLast_entry (number 0) hline
    have hread : unnumbered (Utf8.decodeLossy (Utf8.encode (entry (number 0) line))) = line := by
      rw [Utf8.decodeLossy_encode, unnumbered_entry]
    cases lines with
    | nil =>
      -- The last entry ends with the listing, if not with a newline.
      have hne : entry (number 0) line ≠ [] := List.cons_ne_nil _ _
      rw [unlisted, List.mapIdx_singleton, List.flatten_singleton,
        Feed.segments_encode hne hnewline, List.map_singleton, hread]
    | cons line' lines =>
      have hends := getLast?_entry (number 0) (h.ends line List.mem_cons_self)
      have hrest : Separated (line' :: lines) :=
        ⟨hlines, fun l hl => h.ends l (List.mem_cons_of_mem line hl)⟩
      rw [List.mapIdx_cons, List.flatten_cons, Utf8.encode_append, unlisted,
        Feed.segments_encode_append hends hnewline, List.map_cons, hread]
      exact congrArg (line :: ·) (ih hrest fun i => number (i + 1))

/-- What a listing writes is the text of its entries. -/
lemma written_listing (c : Command) (entries : List Text) :
    Event.written .out (.noted (.builtinBegins c.base) ::
      entries.map fun t => .wrote .out (Utf8.encode t)) = Utf8.encode entries.flatten := by
  induction entries with
  | nil => rfl
  | cons t entries ih =>
    rw [List.flatten_cons, Utf8.encode_append, ← ih]
    rfl

/-- **The numbers shown are the numbers recalled.**  Over streams that take everything, the history
builtin writes the lines one after the other, the first with the number 1, and does nothing else.  A
recall of the number of a line shows that line, without the newlines at its end and on a line of its
own, and carries it out with one recall less allowed; a recall of any other number fails with that
number and does nothing.  What follows the number does not matter if it has no space and does not
begin with a digit.  And the listing can be read back, tabs and digits in the lines and all, if
every line but the last ends with its newline and there are no other newlines; so two such histories
are the same if their listings are. -/
theorem dispatch_numbers (host : Host σ) (settings : Settings) (hdepth : 1 ≤ settings.recallDepth)
    {s : Shell σ ι} (hs : s.Unlimited) :
    let lines := s.session.history.lines
    (∀ c : Command, c.base = "history".toList →
      dispatch host settings c s =
          ⟨.ok 0, s, .noted (.builtinBegins c.base) ::
            (lines.mapIdx fun i line => '\t' :: numeral (i + 1) ++ '\t' :: line).map fun t =>
              .wrote .out (Utf8.encode t)⟩ ∧
        (Separated lines →
          unlisted (Event.written .out (dispatch host settings c s).events) = lines ∧
          ∀ s' : Shell σ ι, s'.Unlimited → Separated s'.session.history.lines →
            Event.written .out (dispatch host settings c s').events =
              Event.written .out (dispatch host settings c s).events →
            s'.session.history = s.session.history)) ∧
    ∀ n : ℤ, int64Min ≤ n → n ≤ int64Max → ∀ suffix : Text, ' ' ∉ suffix → NoDigitFirst suffix →
      let c := Command.parse ('!' :: signedNumeral n ++ suffix ++ ['\n'])
      (∀ (i : ℕ) (line : Text), lines[i]? = some line → n = i + 1 →
        dispatch host settings c s =
          (dispatchWithin host settings.recallDepth (settings.recallDepth - 1)
            (Command.parse line) s).after
              [.noted (.recalling n 0 (trimEnd line)),
                .wrote .out (Utf8.encode (Line.dropNewlines line ++ ['\n'])), .flushed]) ∧
      (¬ (1 ≤ n ∧ n ≤ lines.length) →
        dispatch host settings c s = ⟨.error (.noSuchLine n), s, []⟩) := by
  intro lines
  refine ⟨fun c hc => ⟨dispatch_history host settings hs.out hc, fun hseparated => ?_⟩, ?_⟩
  · have hread : ∀ s' : Shell σ ι, s'.Unlimited → Separated s'.session.history.lines →
        unlisted (Event.written .out (dispatch host settings c s').events) =
          s'.session.history.lines := by
      intro s' hs' hseparated'
      rw [dispatch_history host settings hs'.out hc, written_listing]
      exact unlisted_entries hseparated' (· + 1)
    refine ⟨hread s hs hseparated, fun s' hs' hseparated' hwritten => ?_⟩
    have hlines : s'.session.history.lines = s.session.history.lines := by
      rw [← hread s' hs' hseparated', hwritten, hread s hs hseparated]
    exact congrArg History.mk hlines
  · intro n hmin hmax suffix hspace hdigit c
    have hcut : NoDigitFirst (Line.upToNewline (suffix ++ ['\n'])) :=
      (hdigit.append (by simp)).takeWhile _
    have hdispatch := dispatch_of_leadingInt? host settings hdepth hs.out (base_recalling hspace)
      (leadingInt?_signedNumeral hmin hmax hcut)
    refine ⟨fun i line hline hi => ?_, fun hnone => ?_⟩
    · have hget : s.session.history.get? n = some line := by
        obtain ⟨hlt, -⟩ := List.getElem?_eq_some_iff.mp hline
        refine History.get?_eq_some_iff.mpr ⟨by omega, ?_, ?_⟩
        · change n ≤ (lines.length : ℤ)
          omega
        · rwa [hi, Int.add_sub_cancel, Int.toNat_natCast]
      rw [hget] at hdispatch
      exact hdispatch
    · rw [History.get?_eq_none_iff.mpr hnone] at hdispatch
      exact hdispatch

/-- A line that looks like an entry itself, one behind it, and one without a newline.  The first is
recalled by its own number and not by the one that it shows, no line has a negative number, and the
listing is read back. -/
theorem dispatch_numbers_of_entry :
    let lines := ["\t2\tls\n".toList, "!-1\n".toList, "pwd".toList]
    let s : Shell Unit Unit :=
      { session := Session.start Settings.standard ⟨lines⟩ none, host := (), source := (),
        out := none, err := none }
    let shown := Event.written .out
      (dispatch Host.idle Settings.standard (Command.parse "history\n".toList) s).events
    s.Unlimited ∧ Separated lines ∧ shown = Utf8.encode "\t1\t\t2\tls\n\t2\t!-1\n\t3\tpwd".toList ∧
      unlisted shown = lines ∧
      dispatch Host.idle Settings.standard (Command.parse "!1st\n".toList) s =
        (dispatchWithin Host.idle 32 31 (Command.parse "\t2\tls\n".toList) s).after
          [.noted (.recalling 1 0 "\t2\tls".toList), .wrote .out (Utf8.encode "\t2\tls\n".toList),
            .flushed] ∧
      dispatch Host.idle Settings.standard (Command.parse "!-1\n".toList) s =
        ⟨.error (.noSuchLine (-1)), s, []⟩ := by
  intro lines s shown
  have hs : s.Unlimited := ⟨rfl, rfl⟩
  have hseparated : Separated lines := ⟨by decide, by decide⟩
  obtain ⟨hhistory, hrecall⟩ :=
    dispatch_numbers Host.idle Settings.standard (by decide) hs
  obtain ⟨hdispatch, hread⟩ := hhistory (Command.parse "history\n".toList) (by decide)
  obtain ⟨hfirst, -⟩ := hrecall 1 (by decide) (by decide) "st".toList (by decide) (by simp)
  obtain ⟨-, hmissing⟩ := hrecall (-1) (by decide) (by decide) [] (by decide) (by simp)
  refine ⟨hs, hseparated, ?_, (hread hseparated).1, hfirst 0 _ rfl rfl, hmissing (by decide)⟩
  exact congrArg (fun o => Event.written .out o.events) hdispatch

end LineShell
