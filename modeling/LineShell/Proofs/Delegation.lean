import LineShell.Proofs.Loop
import LineShell.Proofs.Resolution

/-!
# What goes to the system shell

Which texts a line sends to the system shell depends on the line and on the history with it, and on
nothing else: not on the room of the streams, the echo, the clocks or the files, and not on how the
system shell has answered before.  `Command.handed` are the texts of a command that is no recall,
`prescribed` those of a line, whose recalls are followed first, and `delegations` those of lines
that are read one after the other and join the history as they are read.

`texts_run_eq_delegations` says that a run sends the texts that its lines prescribe, each as often
and in the order prescribed, and no others.
-/

namespace LineShell

variable {σ ι α : Type}

/-! ## The texts of one command -/

/-- The command has no name, or the name of one that sends nothing to the system shell. -/
def Command.IsSilent (c : Command) : Prop :=
  c.base = [] ∨ c.base = "exit".toList ∨ c.base = "set".toList ∨ c.base = "size".toList ∨
    c.base = "history".toList ∨ c.base = "times".toList

instance (c : Command) : Decidable c.IsSilent :=
  inferInstanceAs (Decidable (_ ∨ _))

/-- The integer at the beginning of the first argument, or zero if there is none. -/
def Command.count (c : Command) : ℤ :=
  (c.arguments.head?.bind leadingInt?).getD 0

/-- The texts that a command sends to the system shell if it is no recall. -/
def Command.handed (c : Command) : List Text :=
  if c.IsSilent then []
  else if c.base = "time".toList then [joined c.arguments]
  else if c.base = "repeat".toList then
    List.replicate (max 0 c.count).toNat (joined c.arguments.tail)
  else [c.raw]

namespace Command

variable {c : Command}

/-- A silent command asks for one of six things. -/
lemma IsSilent.verb (h : c.IsSilent) :
    c.verb = .nothing ∨ c.verb = .leave ∨ c.verb = .switch ∨ c.verb = .size ∨ c.verb = .history ∨
      c.verb = .times := by
  unfold Command.verb
  rcases h with h | h | h | h | h | h <;> rw [h]
  · exact Or.inl rfl
  · exact Or.inr (Or.inl rfl)
  · exact Or.inr (Or.inr (Or.inl rfl))
  · exact Or.inr (Or.inr (Or.inr (Or.inl rfl)))
  · exact Or.inr (Or.inr (Or.inr (Or.inr (Or.inl rfl))))
  · exact Or.inr (Or.inr (Or.inr (Or.inr (Or.inr rfl))))

/-- A command of any other name is for the system shell. -/
lemma verb_eq_delegate (hc : ¬ c.IsRecall) (hsilent : ¬ c.IsSilent)
    (htime : c.base ≠ "time".toList) (hrepeat : c.base ≠ "repeat".toList) :
    c.verb = .delegate := by
  unfold IsSilent at hsilent
  simp only [not_or] at hsilent
  obtain ⟨hnil, hexit, hset, hsize, hhistory, htimes⟩ := hsilent
  unfold verb Verb.ofBase
  split
  · rename_i hbase
    exact absurd hbase hnil
  · rename_i index hbase
    exact absurd (isRecall_iff.mpr ⟨index, hbase⟩) hc
  · rw [if_neg hexit, if_neg hset, if_neg hsize, if_neg hhistory, if_neg htime, if_neg htimes,
      if_neg hrepeat]

end Command

/-- An action that is composed without calls of the system shell sends it nothing. -/
lemma Composed.texts_eq_nil {can : Move → Prop} {x : Action σ ι Fault α} (hx : Composed can x)
    (h : ∀ text, ¬ can (.hands text)) (s : Shell σ ι) : Event.texts (x s).events = [] :=
  List.eq_nil_iff_forall_not_mem.mpr fun text htext =>
    h text (Event.can_of_mem_texts (hx.effect s).events htext)

/-- A call of the system shell sends it one text, whatever the call itself writes. -/
@[simp]
lemma texts_handing (text : Text) (run : Run) :
    Event.texts (Action.handing text run) = [text] := by
  have hprinted : Event.texts (run.printed.map fun part => .printed part.1 part.2) = [] := by
    refine List.filterMap_eq_nil_iff.mpr ?_
    intro e he
    obtain ⟨part, -, rfl⟩ := List.mem_map.mp he
    rfl
  change text :: Event.texts (run.printed.map fun part => .printed part.1 part.2) = [text]
  rw [hprinted]

/-- An action that calls the system shell and then calls it no more sends it one text. -/
lemma texts_hand_bind (can : Move → Prop) (host : Host σ) (text : Text)
    {f : RunOutcome → Action σ ι Fault α} (hf : ∀ outcome, Composed can (f outcome))
    (h : ∀ text, ¬ can (.hands text)) (s : Shell σ ι) :
    Event.texts ((Action.hand host text >>= f) s).events = [text] := by
  rw [Action.bind_apply, Action.hand_apply, Outcome.after_events, Event.texts_append,
    texts_handing, (hf _).texts_eq_nil h, List.append_nil]

/-- Timing a command sends its text once, whatever comes of it. -/
lemma texts_time (host : Host σ) (text : Text) (s : Shell σ ι) :
    Event.texts (Builtin.time host text s).events = [text] := by
  unfold Builtin.time
  rw [Action.bind_apply]
  change Event.texts ([] ++ ((Action.hand host text >>= _) _).events) = _
  rw [List.nil_append]
  refine texts_hand_bind (fun m => m = .prints .out ∨ m = .raises .notRun) host text ?_ ?_ _
  · intro outcome
    refine .bind (.ask _) fun finish => .bind (.print _ (Or.inl rfl)) fun _ => ?_
    cases outcome with
    | ok code => exact .bind (.note _) fun _ => .value 0
    | error e => exact .bind (.note _) fun _ => .fail (Or.inr rfl)
  · rintro text (h | h) <;> cases h

/-- Delegating a line sends it once, whatever comes of it. -/
lemma texts_delegate (host : Host σ) (line : Text) (s : Shell σ ι) :
    Event.texts (delegate host line s).events = [line] := by
  refine texts_hand_bind (· = .raises .notRun) host line ?_ ?_ s
  · intro outcome
    cases outcome with
    | ok code => exact .bind (.note _) fun _ => .value code
    | error e => exact .bind (.note _) fun _ => .fail rfl
  · rintro text h
    cases h

/-- The rounds of a repetition send the text once each, whatever comes of them. -/
lemma texts_rounds (host : Host σ) (text : Text) (round left : ℕ) (s : Shell σ ι) :
    Event.texts (Builtin.rounds host text round left s).events = List.replicate left text := by
  induction left generalizing round s with
  | zero => rfl
  | succ left ih =>
    unfold Builtin.rounds
    rw [Action.bind_apply, Action.hand_apply, Outcome.after_events, Event.texts_append,
      texts_handing, List.replicate_succ]
    cases (host.run text s.host).1.outcome with
    | ok code => exact congrArg (text :: ·) (ih _ _)
    | error e => exact congrArg (text :: ·) (ih _ _)

/-- Repeating a command sends its text as often as the first argument says. -/
lemma texts_again (host : Host σ) (arguments : List Text) (s : Shell σ ι) :
    Event.texts (Builtin.again host arguments s).events =
      List.replicate (Builtin.repetitions arguments) (Command.joined arguments.tail) := by
  unfold Builtin.again
  rw [Action.bind_apply]
  split
  · rw [Outcome.after_events, Event.texts_append, texts_rounds]
    exact List.append_nil _
  · exact texts_rounds host _ _ _ s

/-- **The texts of a command.**  A command that is no recall sends the system shell the texts that
its name and its arguments ask for, whatever comes of any of them. -/
lemma texts_performHere (host : Host σ) {c : Command} (hc : ¬ c.IsRecall) (s : Shell σ ι) :
    Event.texts (performHere host c s).events = c.handed := by
  by_cases hsilent : c.IsSilent
  · have hnone : ∀ text, ¬ c.Does (.hands text) := by
      intro text hdoes
      have hverb := hsilent.verb
      rcases hdoes.hands with ⟨h, -⟩ | ⟨h, -⟩ | ⟨h, -⟩ <;> simp [h] at hverb
    rw [(composed_performHere host hc).texts_eq_nil hnone, Command.handed, if_pos hsilent]
  · by_cases htime : c.base = "time".toList
    · have hverb : c.verb = .time := by
        rw [Command.verb, htime]
        rfl
      rw [Command.handed, if_neg hsilent, if_pos htime, performHere, perform, hverb]
      exact texts_time host _ s
    · by_cases hrepeat : c.base = "repeat".toList
      · have hverb : c.verb = .again := by
          rw [Command.verb, hrepeat]
          rfl
        have hcount : (max 0 c.count).toNat = Builtin.repetitions c.arguments := by
          unfold Builtin.repetitions Command.count
          omega
        rw [Command.handed, if_neg hsilent, if_neg htime, if_pos hrepeat, hcount, performHere,
          perform, hverb]
        exact texts_again host _ s
      · have hverb := Command.verb_eq_delegate hc hsilent htime hrepeat
        rw [Command.handed, if_neg hsilent, if_neg htime, if_neg hrepeat, performHere, perform,
          hverb]
        exact texts_delegate host _ s

/-! ## The texts of lines -/

/-- The texts that a line sends to the system shell, where the history has it already: those of the
command behind it, if there is one within the given number of recalls. -/
def prescribed (depth : ℕ) (h : History) (line : Text) : List Text :=
  match ((Command.parse line).resolve h depth depth).2 with
  | .ok c => c.handed
  | .error _ => []

/-- The texts that lines send to the system shell, where each joins the history before it is carried
out. -/
def delegations (depth : ℕ) : History → List Text → List Text
  | _, [] => []
  | h, line :: lines =>
    prescribed depth (h.append line) line ++ delegations depth (h.append line) lines

/-- Passing entries sends nothing to the system shell. -/
@[simp]
lemma texts_passing (depth : ℕ) (entries : List (ℤ × Text)) :
    Event.texts (passing depth entries) = [] := by
  induction entries generalizing depth with
  | nil => rfl
  | cons entry entries ih => exact ih (depth + 1)

/-- A line sends the texts that it prescribes. -/
lemma texts_dispatch (host : Host σ) (settings : Settings) {s : Shell σ ι} (hout : s.out = none)
    (line : Text) :
    Event.texts (dispatch host settings (Command.parse line) s).events =
      prescribed settings.recallDepth s.session.history line := by
  unfold dispatch prescribed
  rw [dispatchWithin_eq_resolve host _ hout le_rfl]
  rcases hresolve : (Command.parse line).resolve s.session.history settings.recallDepth
    settings.recallDepth with ⟨entries, f | c⟩
  · exact texts_passing _ entries
  · have hc : ¬ c.IsRecall := Command.not_isRecall_of_resolve (congrArg Prod.snd hresolve)
    simp [texts_performHere host hc]

/-- A step sends the texts that its line prescribes, and none without a line. -/
lemma texts_step (host : Host σ) (settings : Settings) {s : Shell σ Feed} (hs : s.Unlimited) :
    Event.texts (step host settings .plain s).events =
      delegations settings.recallDepth s.session.history (Feed.givenLine s.source.next.1) := by
  rcases Feed.givenLine_cases s.source.next.1 with hnone | ⟨line, hline, hgiven⟩
  · rw [hnone]
    rcases step_of_no_line host settings hs hnone with hstep | ⟨record, hstep⟩
    · rw [hstep]
      rfl
    · rw [hstep]
      rfl
  · have hdispatch := texts_dispatch host settings (hs.advance.record line).out line
    have hhistory : (s.advance.record line).session.history = s.session.history.append line := rfl
    rw [hhistory] at hdispatch
    rw [step_of_line host settings hs hline, hgiven]
    simp [hdispatch, delegations]

/-- The texts of lines after others depend on these only through the history. -/
lemma delegations_append (depth : ℕ) (h : History) (lines further : List Text) :
    delegations depth h (lines ++ further) =
      delegations depth h lines ++ delegations depth ⟨h.lines ++ lines⟩ further := by
  induction lines generalizing h with
  | nil =>
    rw [List.append_nil]
    rfl
  | cons line lines ih =>
    rw [List.cons_append, delegations, delegations, ih, List.append_assoc, History.lines_append,
      List.append_assoc, List.singleton_append]

/-- **The exact log of delegations.**  Over streams that take everything, the texts that a run sends
to the system shell are those that its lines prescribe: one line after the other in the order in
which they were read, each against the history as it stood when the line had joined it.  The lines
are those of the reads that were made, one for each step unless the session has ended. -/
theorem texts_run_eq_delegations (host : Host σ) (settings : Settings) {s : Shell σ Feed}
    (hs : s.Unlimited) (n : ℕ) :
    let o := run host settings .plain n s
    let reads := Event.consultations o.events
    Event.texts o.events =
        delegations settings.recallDepth s.session.history (s.source.lines reads) ∧
      o.shell.source = s.source.after reads ∧
      o.shell.session.history.lines = s.session.history.lines ++ s.source.lines reads ∧
      reads ≤ n ∧ (o.shell.session.leaving = false → reads = n) := by
  intro o reads
  obtain ⟨hle, hall, hsource, hlines⟩ := run_reads host settings n hs
  refine ⟨?_, hsource, hlines, hle, hall⟩
  obtain ⟨m, -, -, htexts⟩ := steps_induction host settings
    (P := fun _ s events _ => Event.texts events = delegations settings.recallDepth
      s.session.history (s.source.lines (Event.consultations events)))
    (fun s => rfl)
    (by
      rintro m s events s' hs - htexts
      have hturn := turn_step host settings hs
      have hhistory : (step host settings .plain s).shell.session.history =
          ⟨s.session.history.lines ++ Feed.givenLine s.source.next.1⟩ := by
        rw [← hturn.lines]
      rw [Event.texts_append, texts_step host settings hs, htexts, hhistory, hturn.source,
        Event.consultations_append, hturn.reads, Nat.add_comm 1, Feed.lines, delegations_append])
    n hs
  change Event.texts (run host settings .plain n s).events = delegations _ _
    (s.source.lines (Event.consultations (run host settings .plain n s).events))
  rw [texts_run, consultations_run]
  exact htexts

/-- A line, a recall of it, a repetition and a recall of no line, where no call of the system shell
succeeds. -/
theorem texts_run_eq_delegations_failing :
    let host : Host Unit := { Host.idle with run := fun _ s => (⟨.error ⟨[]⟩, []⟩, s) }
    let s : Shell Unit Feed :=
      { session := Session.start Settings.standard History.empty none, host := (),
        source := [.chunk (Utf8.encode "ls\n!1\nrepeat 2 a b\n!9\n".toList)],
        out := none, err := none }
    s.Unlimited ∧
      Event.texts (run host Settings.standard .plain 4 s).events =
        ["ls\n".toList, "ls\n".toList, "a b ".toList, "a b ".toList] := by
  intro host s
  have hs : s.Unlimited := ⟨rfl, rfl⟩
  obtain ⟨htexts, -, -, -, hall⟩ := texts_run_eq_delegations host Settings.standard hs 4
  have hstaying : (run host Settings.standard .plain 4 s).shell.session.leaving = false := by
    decide +kernel
  have hlines : s.source.lines 4 =
      ["ls\n".toList, "!1\n".toList, "repeat 2 a b\n".toList, "!9\n".toList] := by
    decide +kernel
  have hdelegations : delegations 32 History.empty
      ["ls\n".toList, "!1\n".toList, "repeat 2 a b\n".toList, "!9\n".toList] =
        ["ls\n".toList, "ls\n".toList, "a b ".toList, "a b ".toList] := by
    decide +kernel
  rw [hall hstaying, hlines] at htexts
  exact ⟨hs, htexts.trans hdelegations⟩

end LineShell
