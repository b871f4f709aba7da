import LineShell.Proofs.Sources

/-!
# Steps and runs

Over streams that take everything and with the plain source of lines, a step never fails.  It shows
the prompt and takes a line, and if there is one, it records the line and then dispatches it
(`step_of_line`).  Without a line it declines (`step_of_no_line`).  Either way it is a `Turn`: it
makes one read, and the line that it is given joins the history.

A run does what its steps do, with log records around them (`run_apply`).  `steps_induction` proves
a property of all runs over such streams from one step.
-/

namespace LineShell

variable {σ ι : Type}

/-! ## Steps over streams that take everything -/

/-- The shell after a read of its input. -/
def Shell.advance (s : Shell σ Feed) : Shell σ Feed :=
  { s with source := s.source.next.2 }

/-- Taking input leaves the streams alone. -/
lemma Shell.Unlimited.advance {s : Shell σ Feed} (hs : s.Unlimited) : s.advance.Unlimited :=
  ⟨hs.out, hs.err⟩

/-- The events of a step up to its look at the input. -/
def opening (session : Session) : List Event :=
  [.wrote .out (Utf8.encode ['\n']), .flushed, .wrote .out (Utf8.encode session.prompt), .flushed,
    .consulted]

@[simp]
lemma consultations_opening (session : Session) :
    Event.consultations (opening session) = 1 := rfl

@[simp]
lemma texts_opening (session : Session) : Event.texts (opening session) = [] := rfl

/-- Events that are allowed to a command include no look at the input. -/
lemma Event.consultations_eq_zero {can : Move → Prop} {events : List Event}
    (h : ∀ e ∈ events, e.Allowed can) : consultations events = 0 := by
  refine List.countP_eq_zero.mpr ?_
  intro e he
  cases e with
  | consulted => exact absurd (h _ he) id
  | _ => simp

/-- A step that is given a line records the line and dispatches it. -/
lemma step_of_line (host : Host σ) (settings : Settings) {s : Shell σ Feed} (hs : s.Unlimited)
    {line : Text} (hline : s.source.next.1 = .ok (.line line)) :
    step host settings .plain s =
      let o := dispatch host settings (Command.parse line) (s.advance.record line)
      ⟨.ok (), o.shell,
        opening s.session ++ accepting s.session line ++ o.events ++ settling o.result⟩ :=
  step_of_next_line host settings .plain hs hline

/-- A step that is given no line declines. -/
lemma step_of_result (host : Host σ) (settings : Settings) {s : Shell σ Feed} (hs : s.Unlimited)
    {result : ReadResult} (hread : s.source.next.1 = result) (hnone : Feed.givenLine result = []) :
    step host settings .plain s =
      ⟨.ok (), { s.advance with session := Event.replay s.session (declining settings result) },
        opening s.session ++ declining settings result⟩ := by
  subst hread
  exact step_of_no_read host settings .plain hs hnone

/-- A step whose read fails reports that there was no line. -/
lemma step_of_error (host : Host σ) (settings : Settings) {s : Shell σ Feed} (hs : s.Unlimited)
    {e : IoError} (hread : s.source.next.1 = .error e) :
    step host settings .plain s =
      ⟨.ok (), s.advance, opening s.session ++
        [.noted (.readFailed e), .wrote .err (Utf8.encode Fault.unread.report)]⟩ :=
  step_of_result host settings hs hread rfl

/-- A step at the end of the input asks the session to end, if the settings say so. -/
lemma step_of_ended_leaving (host : Host σ) {settings : Settings} {s : Shell σ Feed}
    (hs : s.Unlimited) (hread : s.source.next.1 = .ok .ended)
    (hleave : settings.leaveAtEnd = true) :
    step host settings .plain s =
      ⟨.ok (), { s.advance with session := s.session.apply .leave },
        opening s.session ++ [.noted .endedAndLeaving, .changed .leave]⟩ := by
  rw [step_of_result host settings hs hread rfl, declining, if_pos hleave]
  rfl

/-- A step at the end of the input reports that there was no line, if the settings do not say that
the session ends there. -/
lemma step_of_ended_staying (host : Host σ) {settings : Settings} {s : Shell σ Feed}
    (hs : s.Unlimited) (hread : s.source.next.1 = .ok .ended)
    (hleave : settings.leaveAtEnd = false) :
    step host settings .plain s =
      ⟨.ok (), s.advance, opening s.session ++
        [.noted .ended, .wrote .err (Utf8.encode Fault.unread.report)]⟩ := by
  rw [step_of_result host settings hs hread rfl, declining, if_neg (Bool.eq_false_iff.mp hleave)]
  rfl

/-- A step that is given no line ends the session, or reports that there was none. -/
lemma step_of_no_line (host : Host σ) (settings : Settings) {s : Shell σ Feed} (hs : s.Unlimited)
    (hnone : Feed.givenLine s.source.next.1 = []) :
    step host settings .plain s =
        ⟨.ok (), { s.advance with session := s.session.apply .leave },
          opening s.session ++ [.noted .endedAndLeaving, .changed .leave]⟩ ∨
      ∃ record, step host settings .plain s =
        ⟨.ok (), s.advance, opening s.session ++
          [.noted record, .wrote .err (Utf8.encode Fault.unread.report)]⟩ := by
  rcases hread : s.source.next.1 with e | line | _
  · exact Or.inr ⟨_, step_of_error host settings hs hread⟩
  · simp [hread, Feed.givenLine] at hnone
  · cases hleave : settings.leaveAtEnd with
    | true => exact Or.inl (step_of_ended_leaving host hs hread hleave)
    | false => exact Or.inr ⟨_, step_of_ended_staying host hs hread hleave⟩

/-- What a step does over streams that take everything: it makes one read, and the line that it is
given joins the history. -/
structure Turn (s : Shell σ Feed) (o : Outcome σ Feed IoError Unit) : Prop where
  result : o.result = .ok ()
  unlimited : o.shell.Unlimited
  source : o.shell.source = s.source.next.2
  reads : Event.consultations o.events = 1
  lines : o.shell.session.history.lines =
    s.session.history.lines ++ Feed.givenLine s.source.next.1

/-- A step over streams that take everything is a turn. -/
lemma turn_step (host : Host σ) (settings : Settings) {s : Shell σ Feed} (hs : s.Unlimited) :
    Turn s (step host settings .plain s) := by
  rcases Feed.givenLine_cases s.source.next.1 with hnone | ⟨line, hline, hgiven⟩
  · rcases step_of_no_line host settings hs hnone with hstep | ⟨record, hstep⟩ <;> rw [hstep]
    · exact ⟨rfl, ⟨hs.out, hs.err⟩, rfl, rfl, by rw [hnone, List.append_nil]; rfl⟩
    · exact ⟨rfl, hs.advance, rfl, rfl, by rw [hnone, List.append_nil]; rfl⟩
  · have heffect := (composed_dispatch host settings (Command.parse line)).effect
      (s.advance.record line)
    have hreads := Event.consultations_eq_zero heffect.events
    have hhistory := history_dispatch host settings (Command.parse line) (s.advance.record line)
    rw [step_of_line host settings hs hline]
    have hunlimited := unlimited_dispatch host settings (hs.advance.record line)
    refine ⟨rfl, hunlimited (Command.parse line), heffect.source, ?_, ?_⟩
    · simpa using hreads
    · rw [hgiven, hhistory]
      rfl

/-! ## Runs -/

/-- No steps do nothing. -/
@[simp]
lemma steps_zero (host : Host σ) (settings : Settings) (source : LineSource ι) (s : Shell σ ι) :
    steps host settings source 0 s =
      ⟨.ok (if s.session.leaving then .finished else .unfinished), s, []⟩ := rfl

/-- A session that is to end takes no more steps. -/
lemma steps_of_leaving (host : Host σ) (settings : Settings) (source : LineSource ι) (n : ℕ)
    {s : Shell σ ι} (hs : s.session.leaving = true) :
    steps host settings source n s = ⟨.ok .finished, s, []⟩ := by
  cases n with
  | zero => simp [hs]
  | succ n => simp [steps, hs]

/-- A session that goes on takes one step and then the others, unless that one fails. -/
lemma steps_succ (host : Host σ) (settings : Settings) (source : LineSource ι) (n : ℕ)
    {s : Shell σ ι} (hs : s.session.leaving = false) :
    steps host settings source (n + 1) s =
      (step host settings source >>= fun _ => steps host settings source n) s := by
  simp [steps, hs]

/-- Steps after steps are the steps of a longer run. -/
lemma steps_add (host : Host σ) (settings : Settings) (source : LineSource ι) (n k : ℕ)
    (s : Shell σ ι) :
    steps host settings source (n + k) s =
      (steps host settings source n >>= fun _ => steps host settings source k) s := by
  induction n generalizing s with
  | zero => simp
  | succ n ih =>
    cases hleaving : s.session.leaving with
    | true =>
      simp [steps_of_leaving host settings source _ hleaving]
    | false =>
      rw [Nat.succ_add, Action.bind_apply, steps_succ host settings source _ hleaving,
        steps_succ host settings source _ hleaving, Action.bind_apply, Action.bind_apply]
      rcases step host settings source s with ⟨_ | _, s', events⟩
      · rfl
      · simp only [ih, Action.bind_apply, Outcome.after_result, Outcome.after_shell,
          Outcome.after_events]
        rcases steps host settings source n s' with ⟨_ | _, s'', events'⟩
        · rfl
        · simp

/-- The log record at the end of a run whose session has ended. -/
def closing (o : Outcome σ ι IoError Progress) : List Event :=
  match o.result with
  | .ok .finished => [.noted (.sessionFinished o.shell.session.history.size)]
  | _ => []

@[simp]
lemma consultations_closing (o : Outcome σ ι IoError Progress) :
    Event.consultations (closing o) = 0 := by
  unfold closing
  split <;> rfl

@[simp]
lemma texts_closing (o : Outcome σ ι IoError Progress) : Event.texts (closing o) = [] := by
  unfold closing
  split <;> rfl

/-- A run is its steps, with log records around them. -/
lemma run_apply (host : Host σ) (settings : Settings) (source : LineSource ι) (n : ℕ)
    (s : Shell σ ι) :
    run host settings source n s =
      let o := steps host settings source n s
      ⟨o.result, o.shell,
        .noted (.sessionStarted s.session.user settings) :: o.events ++ closing o⟩ := by
  unfold run closing
  rcases hsteps : steps host settings source n s with ⟨_ | _ | _, s', events⟩ <;> simp [hsteps]

/-- A run leaves the shell of its steps. -/
@[simp]
lemma run_shell (host : Host σ) (settings : Settings) (source : LineSource ι) (n : ℕ)
    (s : Shell σ ι) :
    (run host settings source n s).shell = (steps host settings source n s).shell := by
  rw [run_apply]

/-- A run has the result of its steps. -/
@[simp]
lemma run_result (host : Host σ) (settings : Settings) (source : LineSource ι) (n : ℕ)
    (s : Shell σ ι) :
    (run host settings source n s).result = (steps host settings source n s).result := by
  rw [run_apply]

/-- A run looks at its input in its steps only. -/
@[simp]
lemma consultations_run (host : Host σ) (settings : Settings) (source : LineSource ι) (n : ℕ)
    (s : Shell σ ι) :
    Event.consultations (run host settings source n s).events =
      Event.consultations (steps host settings source n s).events := by
  rw [run_apply]
  change Event.consultations ([_] ++ _ ++ _) = _
  rw [Event.consultations_append, consultations_closing, Event.consultations_append, Nat.add_zero]
  exact Nat.zero_add _

/-- A run hands texts over in its steps only. -/
@[simp]
lemma texts_run (host : Host σ) (settings : Settings) (source : LineSource ι) (n : ℕ)
    (s : Shell σ ι) :
    Event.texts (run host settings source n s).events =
      Event.texts (steps host settings source n s).events := by
  rw [run_apply]
  change Event.texts ([_] ++ _ ++ _) = _
  rw [Event.texts_append, texts_closing, Event.texts_append, List.append_nil]
  rfl

/-- **What holds of a run, by its steps.**  A property of a number of steps over streams that take
everything (of the shell before them, their events and the shell after them) holds if it holds of
no steps and is carried over from the steps after the first one to all of them.  Fewer steps than
allowed are taken only if the session has ended. -/
theorem steps_induction (host : Host σ) (settings : Settings)
    {P : ℕ → Shell σ Feed → List Event → Shell σ Feed → Prop}
    (none : ∀ s, P 0 s [] s)
    (turn : ∀ m s events s', s.Unlimited → s.session.leaving = false →
      P m (step host settings .plain s).shell events s' →
        P (m + 1) s ((step host settings .plain s).events ++ events) s')
    (n : ℕ) {s : Shell σ Feed} (hs : s.Unlimited) :
    ∃ m ≤ n, ((steps host settings .plain n s).shell.session.leaving = false → m = n) ∧
      P m s (steps host settings .plain n s).events (steps host settings .plain n s).shell := by
  induction n generalizing s with
  | zero => exact ⟨0, le_rfl, fun _ => rfl, none s⟩
  | succ n ih =>
    cases hleaving : s.session.leaving with
    | true =>
      rw [steps_of_leaving host settings .plain _ hleaving]
      refine ⟨0, Nat.zero_le _, ?_, none s⟩
      intro hstaying
      rw [hleaving] at hstaying
      cases hstaying
    | false =>
      have hturn := turn_step host settings hs
      rw [steps_succ host settings .plain n hleaving, Action.bind_apply, hturn.result]
      obtain ⟨m, hm, hall, hrest⟩ := ih hturn.unlimited
      refine ⟨m + 1, Nat.succ_le_succ hm, ?_, turn m s _ _ hs hleaving hrest⟩
      intro hstaying
      rw [hall hstaying]

/-- Steps over streams that take everything never fail, and they leave the streams as they are. -/
lemma unlimited_steps (host : Host σ) (settings : Settings) (n : ℕ) {s : Shell σ Feed}
    (hs : s.Unlimited) :
    (∃ progress, (steps host settings .plain n s).result = .ok progress) ∧
      (steps host settings .plain n s).shell.Unlimited := by
  induction n generalizing s with
  | zero => exact ⟨⟨_, rfl⟩, hs⟩
  | succ n ih =>
    cases hleaving : s.session.leaving with
    | true =>
      rw [steps_of_leaving host settings .plain _ hleaving]
      exact ⟨⟨_, rfl⟩, hs⟩
    | false =>
      have hturn := turn_step host settings hs
      rw [steps_succ host settings .plain n hleaving, Action.bind_apply, hturn.result]
      exact ih hturn.unlimited

/-- **What a run reads.**  The reads that a run over streams that take everything makes are the
first ones of its input, one for each step, and the lines that they give join the history. -/
theorem run_reads (host : Host σ) (settings : Settings) (n : ℕ) {s : Shell σ Feed}
    (hs : s.Unlimited) :
    let o := run host settings .plain n s
    let reads := Event.consultations o.events
    reads ≤ n ∧ (o.shell.session.leaving = false → reads = n) ∧
      o.shell.source = s.source.after reads ∧
      o.shell.session.history.lines = s.session.history.lines ++ s.source.lines reads := by
  obtain ⟨m, hm, hall, hreads, hsource, hlines⟩ := steps_induction host settings
    (P := fun m s events s' => Event.consultations events = m ∧ s'.source = s.source.after m ∧
      s'.session.history.lines = s.session.history.lines ++ s.source.lines m)
    (fun s => ⟨rfl, rfl, by rw [Feed.lines, List.append_nil]⟩)
    (by
      rintro m s events s' hs - ⟨hreads, hsource, hlines⟩
      have hturn := turn_step host settings hs
      refine ⟨?_, ?_, ?_⟩
      · rw [Event.consultations_append, hturn.reads, hreads, Nat.add_comm]
      · rw [hsource, hturn.source, Feed.after]
      · rw [hlines, hturn.lines, hturn.source, Feed.lines, List.append_assoc])
    n hs
  intro o reads
  have hm' : reads = m := (consultations_run host settings .plain n s).trans hreads
  have ho : o.shell = (steps host settings .plain n s).shell := run_shell host settings .plain n s
  rw [hm', ho]
  exact ⟨hm, hall, hsource, hlines⟩

end LineShell
