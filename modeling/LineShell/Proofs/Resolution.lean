import LineShell.Proofs.Composed

/-!
# The command behind a recall

A recall stands for an earlier line, which may be a recall itself.  `Command.Recalls` is one such
reference, `Chain` follows references through the history one after the other, and
`Command.resolve` follows them as far as a given number of recalls allows: it gives the entries
that are passed on the way and either the command in the end or the fault that stands in the way.

The main statement is `dispatchWithin_eq_resolve`.  Over a standard output that takes everything,
carrying out a command shows the entries that are passed and then carries out the command in the
end, or fails; the nesting of recalls leaves no other trace.
-/

namespace LineShell

variable {σ ι : Type}

/-! ## References into the history -/

namespace History

/-- The line of a number is there exactly if the number counts a line. -/
lemma get?_eq_some_iff {h : History} {n : ℤ} {line : Text} :
    h.get? n = some line ↔ 1 ≤ n ∧ n ≤ h.size ∧ h.lines[(n - 1).toNat]? = some line := by
  unfold get? size
  split
  · constructor
    · intro hn
      cases hn
    · rintro ⟨hn, -, -⟩
      omega
  · constructor
    · intro hline
      obtain ⟨hlt, -⟩ := List.getElem?_eq_some_iff.mp hline
      exact ⟨by omega, by omega, hline⟩
    · rintro ⟨-, -, hline⟩
      exact hline

/-- The line of a number is missing exactly if the number does not count a line. -/
lemma get?_eq_none_iff {h : History} {n : ℤ} : h.get? n = none ↔ ¬ (1 ≤ n ∧ n ≤ h.size) := by
  unfold get? size
  split
  · constructor
    · rintro - ⟨hn, -⟩
      omega
    · intro _
      rfl
  · rw [List.getElem?_eq_none_iff]
    omega

/-- A number counts the same line in a history that goes on. -/
lemma get?_mono {h h' : History} (hgrows : h.lines <+: h'.lines) {i : ℤ} {line : Text}
    (hline : h.get? i = some line) : h'.get? i = some line := by
  obtain ⟨hpos, hsize, hentry⟩ := get?_eq_some_iff.mp hline
  obtain ⟨further, hfurther⟩ := hgrows
  obtain ⟨hlt, -⟩ := List.getElem?_eq_some_iff.mp hentry
  refine get?_eq_some_iff.mpr ⟨hpos, ?_, ?_⟩
  · unfold size at hsize ⊢
    rw [← hfurther, List.length_append]
    omega
  · rw [← hfurther, List.getElem?_append_left hlt]
    exact hentry

end History

/-- A mark at the beginning of the base asks for a recall, and nothing else does. -/
lemma Command.verb_eq_recall_iff {c : Command} {index : Text} :
    c.verb = .recall index ↔ c.base = '!' :: index := by
  unfold Command.verb Verb.ofBase
  split
  · simp_all
  · simp_all
  · rename_i hnil hmark
    constructor
    · intro h
      split_ifs at h
    · intro h
      exact absurd h (hmark index)

/-- The name of a verb that has one. -/
def Verb.name? : Verb → Option Text
  | .leave => some "exit".toList
  | .switch => some "set".toList
  | .size => some "size".toList
  | .history => some "history".toList
  | .time => some "time".toList
  | .times => some "times".toList
  | .again => some "repeat".toList
  | _ => none

/-- A command asks for a verb that has a name exactly if its base is that name. -/
lemma Command.verb_eq_iff {c : Command} {v : Verb} {name : Text} (hname : v.name? = some name) :
    c.verb = v ↔ c.base = name := by
  constructor
  · intro h
    rw [← h] at hname
    unfold verb Verb.ofBase at hname
    split at hname
    · cases hname
    · cases hname
    · split_ifs at hname <;> cases hname <;> assumption
  · intro h
    unfold verb
    rw [h]
    cases v <;> cases hname <;> rfl

/-- The command asks for a recall. -/
def Command.IsRecall (c : Command) : Prop :=
  c.base.head? = some '!'

instance (c : Command) : Decidable c.IsRecall :=
  inferInstanceAs (Decidable (c.base.head? = some '!'))

/-- The base of a recall is the mark and an index. -/
lemma Command.isRecall_iff {c : Command} : c.IsRecall ↔ ∃ index, c.base = '!' :: index := by
  unfold IsRecall
  rw [List.head?_eq_some_iff]

/-- The command asks for the entry of the number `n`, whose line is `line`. -/
def Command.Recalls (h : History) (c : Command) (n : ℤ) (line : Text) : Prop :=
  ∃ index, c.base = '!' :: index ∧ leadingInt? index = some n ∧
    1 ≤ n ∧ n ≤ h.size ∧ h.lines[(n - 1).toNat]? = some line

/-- `Chain h c entries c'` follows recalls from the command `c` to the command `c'`, and `entries`
are the entries of the history that are passed, with their numbers. -/
inductive Chain (h : History) : Command → List (ℤ × Text) → Command → Prop
  | nil (c : Command) : Chain h c [] c
  | cons {c c' : Command} {n : ℤ} {line : Text} {entries : List (ℤ × Text)} :
      c.Recalls h n line → Chain h (Command.parse line) entries c' →
        Chain h c ((n, line) :: entries) c'

/-- The command in which the recalls of a command end, where `left` of `limit` nested recalls are
allowed, or the fault that they end in; with the entries of the history that are passed. -/
def Command.resolve (h : History) (limit : ℕ) :
    (left : ℕ) → Command → List (ℤ × Text) × Except Fault Command
  | left, c =>
    match c.base with
    | '!' :: index =>
      match leadingInt? index, left with
      | none, _ => ([], .error .badIndex)
      | some _, 0 => ([], .error (.tooDeep limit))
      | some n, left + 1 =>
        match h.get? n with
        | none => ([], .error (.noSuchLine n))
        | some line =>
          let further := resolve h limit left (Command.parse line)
          ((n, line) :: further.1, further.2)
    | _ => ([], .ok c)

namespace Command

variable {h : History} {c : Command} {index : Text} {n : ℤ}

/-- A command that is no recall stands for itself. -/
lemma resolve_of_not_isRecall (limit left : ℕ) (hc : ¬ c.IsRecall) :
    c.resolve h limit left = ([], .ok c) := by
  unfold resolve
  split
  · rename_i index hbase
    exact absurd (isRecall_iff.mpr ⟨index, hbase⟩) hc
  · rfl

/-- A recall without a number is found out before all else. -/
lemma resolve_of_badIndex (limit left : ℕ) (hc : c.base = '!' :: index)
    (hn : leadingInt? index = none) : c.resolve h limit left = ([], .error .badIndex) := by
  unfold resolve
  rw [hc]
  simp only [hn]

/-- A recall with a number is too deep where none is allowed, whether there is a line or not. -/
lemma resolve_zero (limit : ℕ) (hc : c.base = '!' :: index) (hn : leadingInt? index = some n) :
    c.resolve h limit 0 = ([], .error (.tooDeep limit)) := by
  unfold resolve
  rw [hc]
  simp only [hn]

/-- A recall of a number that counts no line fails. -/
lemma resolve_of_get?_eq_none (limit left : ℕ) (hc : c.base = '!' :: index)
    (hn : leadingInt? index = some n) (hline : h.get? n = none) :
    c.resolve h limit (left + 1) = ([], .error (.noSuchLine n)) := by
  unfold resolve
  rw [hc]
  simp only [hn, hline]

/-- A recall of a line passes its entry and goes on with the command of the line. -/
lemma resolve_of_get?_eq_some (limit left : ℕ) {line : Text} (hc : c.base = '!' :: index)
    (hn : leadingInt? index = some n) (hline : h.get? n = some line) :
    c.resolve h limit (left + 1) =
      ((n, line) :: ((parse line).resolve h limit left).1,
        ((parse line).resolve h limit left).2) := by
  rw [resolve, hc]
  simp only [hn, hline]

/-- What a command resolves to is no recall. -/
lemma not_isRecall_of_resolve {limit left : ℕ} {c' : Command}
    (hc' : (c.resolve h limit left).2 = .ok c') : ¬ c'.IsRecall := by
  fun_induction resolve h limit left c with
  | case1 => cases hc'
  | case2 => cases hc'
  | case3 => cases hc'
  | case4 _ _ _ _ _ _ _ _ further ih => exact ih hc'
  | case5 left c hbase =>
    rw [← Except.ok.inj hc', isRecall_iff]
    rintro ⟨index, hmark⟩
    exact hbase index hmark

end Command

/-- A chain that is not too long is passed before all else. -/
lemma Chain.resolve_eq {h : History} {c c' : Command} {entries : List (ℤ × Text)}
    (hchain : Chain h c entries c') (limit left : ℕ) :
    c.resolve h limit (entries.length + left) =
      (entries ++ (c'.resolve h limit left).1, (c'.resolve h limit left).2) := by
  induction hchain with
  | nil c => simp
  | @cons c c' n line entries hrecalls _ ih =>
    obtain ⟨index, hbase, hn, hentry⟩ := hrecalls
    have hline : h.get? n = some line := History.get?_eq_some_iff.mpr hentry
    have hlength : ((n, line) :: entries).length + left = (entries.length + left) + 1 := by
      rw [List.length_cons]
      omega
    rw [hlength, Command.resolve_of_get?_eq_some limit _ hbase hn hline, ih, List.cons_append]

/-! ## Carrying out a recall -/

/-- The events of entries that are passed, the first of them at the given depth: each is noted and
shown on a line of its own, and the line is flushed. -/
def passing : (depth : ℕ) → List (ℤ × Text) → List Event
  | _, [] => []
  | depth, (n, line) :: entries =>
    .noted (.recalling n depth (trimEnd line)) ::
      .wrote .out (Utf8.encode (Line.dropNewlines line ++ ['\n'])) :: .flushed ::
        passing (depth + 1) entries

/-- Carries out a command that is no recall. -/
def performHere (host : Host σ) (command : Command) : Action σ ι Fault ExitCode :=
  perform host (fun _ => Action.fail .badIndex) command

/-- A command that is no recall is carried out in the same way whatever recalls would do. -/
lemma perform_eq_performHere (host : Host σ) (onRecall : Text → Action σ ι Fault ExitCode)
    {c : Command} (hc : ¬ c.IsRecall) : perform host onRecall c = performHere host c := by
  unfold performHere perform
  cases hverb : c.verb with
  | «recall» index =>
    exact absurd (Command.isRecall_iff.mpr ⟨index, Command.verb_eq_recall_iff.mp hverb⟩) hc
  | _ => rfl

/-- A command that is no recall does what its name asks for and nothing else. -/
lemma composed_performHere (host : Host σ) {c : Command} (hc : ¬ c.IsRecall) :
    Composed c.Does (performHere host c : Action σ ι Fault ExitCode) :=
  composed_perform host c (fun _ hm => hm) fun index hverb =>
    absurd (Command.isRecall_iff.mpr ⟨index, Command.verb_eq_recall_iff.mp hverb⟩) hc

/-- The fault of a command that is no recall is one of its own, or that of a stream. -/
lemma fault_performHere (host : Host σ) {c : Command} (hc : ¬ c.IsRecall) {s : Shell σ ι}
    {f : Fault} (hf : (performHere host c s).result = .error f) :
    f = .nameless ∨ f = .notRun ∨ ∃ e, f = .io e := by
  rcases ((composed_performHere host hc).effect s).fault f hf with hown | ⟨hfailed, -⟩
  · rcases hown.raises with h | h
    · exact Or.inl h
    · exact Or.inr (Or.inl h)
  · exact Or.inr (Or.inr hfailed)

/-- A command that is no recall is carried out at once, however many recalls are allowed. -/
lemma dispatchWithin_of_not_isRecall (host : Host σ) (limit left : ℕ) {c : Command}
    (hc : ¬ c.IsRecall) :
    (dispatchWithin host limit left c : Action σ ι Fault ExitCode) = performHere host c := by
  cases left <;> exact perform_eq_performHere host _ hc

/-- A recall is carried out as `onRecall` says. -/
lemma perform_of_recall (host : Host σ) (onRecall : Text → Action σ ι Fault ExitCode)
    {c : Command} {index : Text} (hc : c.base = '!' :: index) :
    perform host onRecall c = onRecall index := by
  unfold perform
  rw [Command.verb_eq_recall_iff.mpr hc]

/-- Finding the line of a number passes its entry, or fails. -/
lemma recalled_apply {s : Shell σ ι} (hout : s.out = none) (depth : ℕ) (n : ℤ) :
    recalled depth n s =
      match s.session.history.get? n with
      | none => ⟨.error (.noSuchLine n), s, []⟩
      | some line => ⟨.ok line, s, passing depth [(n, line)]⟩ := by
  have hroom : s.room .out = none := hout
  unfold recalled
  rw [Action.bind_apply, Action.session_apply]
  cases hline : s.session.history.get? n with
  | none => simp [hline]
  | some line =>
    simp [hline, Action.print_of_room_none hroom, Action.drain_of_room_none hroom, passing]

/-- **A recall stands for the command behind it.**  Over a standard output that takes everything,
carrying out a command passes the entries on the way to the command behind it, and then either
carries out that command or fails, with the shell as it was. -/
theorem dispatchWithin_eq_resolve (host : Host σ) (limit : ℕ) {s : Shell σ ι} (hout : s.out = none)
    {left : ℕ} (hleft : left ≤ limit) (c : Command) :
    dispatchWithin host limit left c s =
      match c.resolve s.session.history limit left with
      | (entries, .ok c') => (performHere host c' s).after (passing (limit - left) entries)
      | (entries, .error f) => ⟨.error f, s, passing (limit - left) entries⟩ := by
  fun_induction Command.resolve s.session.history limit left c with
  | case1 left c index hbase hn =>
    cases left <;>
      simp [dispatchWithin, perform_of_recall host _ hbase, wanted, hn, passing]
  | case2 c index hbase n hn =>
    simp [dispatchWithin, perform_of_recall host _ hbase, wanted, hn, passing]
  | case3 c index hbase n left hn hline =>
    simp [dispatchWithin, perform_of_recall host _ hbase, wanted, hn, passing,
      recalled_apply hout, hline]
  | case4 c index hbase n left hn line hline further ih =>
    -- The entry of this recall is passed, and the depth of the ones behind it is one more.
    have hdepth : limit - left = limit - (left + 1) + 1 := by omega
    have hbehind := ih (by omega)
    rw [dispatchWithin, perform_of_recall host _ hbase]
    simp only [further, Action.bind_apply, wanted, hn, Action.pure_apply, recalled_apply hout,
      hline, hbehind, Outcome.after_nil]
    rcases (Command.parse line).resolve s.session.history limit left with ⟨entries, f | c'⟩
    · simp [passing, hdepth]
    · simp [passing, hdepth]
  | case5 left c hbase =>
    have hc : ¬ c.IsRecall := by
      rw [Command.isRecall_iff]
      rintro ⟨index, hmark⟩
      exact hbase index hmark
    rw [dispatchWithin_of_not_isRecall host limit left hc]
    rfl

end LineShell
