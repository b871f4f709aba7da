import LineShell.Proofs.Coupling
import LineShell.Proofs.Delegation
import LineShell.Proofs.Stepping

/-!
# What commands return does not steer the shell

The shell hands commands over and is told how they came out: with an exit code, or that they could
not be run at all.  Two shells that are told different things go on alike.  They read the same
input, keep the same session, hand over the same texts in the same order and write the same to
standard output, step by step (`keepStepping_blind`).

The one place where an outcome shows is standard error, and there only as a report that a command
could not be run.  This happens in a step whose command is handed over once, by `time` or because
the shell does not know its name.
-/

namespace LineShell

variable {σ τ ι : Type}

/-! ## Shells that are told different things -/

/-- Two hosts give the same answers about files and clocks, whatever becomes of the texts that are
handed to them.  `R` says which states of theirs belong together. -/
structure Host.AnswerAlike (R : σ → τ → Prop) (host : Host σ) (host' : Host τ) : Prop where
  run : ∀ text {a b}, R a b → R (host.run text a).2 (host'.run text b).2
  fileSize : ∀ path {a b}, R a b → (host.fileSize path a).1 = (host'.fileSize path b).1 ∧
    R (host.fileSize path a).2 (host'.fileSize path b).2
  timeOfDay : ∀ {a b}, R a b → (host.timeOfDay a).1 = (host'.timeOfDay b).1 ∧
    R (host.timeOfDay a).2 (host'.timeOfDay b).2
  elapsed : ∀ {a b}, R a b → (host.elapsed a).1 = (host'.elapsed b).1 ∧
    R (host.elapsed a).2 (host'.elapsed b).2

/-- Two shells have the same session and the same input, streams that take everything, and hosts in
states that belong together. -/
structure Shell.Alike (R : σ → τ → Prop) (s : Shell σ ι) (t : Shell τ ι) : Prop where
  session : s.session = t.session
  source : s.source = t.source
  host : R s.host t.host
  unlimited : s.Unlimited
  unlimited' : t.Unlimited

/-- In two lists of events the same texts are handed over, the input is looked at equally often, the
same changes are made, and the same is written to the streams that are watched. -/
structure Event.Alike (watched : Stream → Prop) (es fs : List Event) : Prop where
  texts : texts es = texts fs
  reads : consultations es = consultations fs
  changes : changes es = changes fs
  written : ∀ stream, watched stream → written stream es = written stream fs

namespace Shell.Alike

variable {R : σ → τ → Prop} {s : Shell σ ι} {t : Shell τ ι}

/-- Shells stay alike when their hosts pass to states that belong together. -/
lemma withHost (h : s.Alike R t) {a : σ} {b : τ} (hab : R a b) :
    Alike R { s with host := a } { t with host := b } :=
  ⟨h.session, h.source, hab, ⟨h.unlimited.out, h.unlimited.err⟩,
    ⟨h.unlimited'.out, h.unlimited'.err⟩⟩

/-- Shells stay alike when their sessions are altered in the same way. -/
lemma withChange (h : s.Alike R t) (c : Change) :
    Alike R { s with session := s.session.apply c } { t with session := t.session.apply c } :=
  ⟨congrArg (Session.apply · c) h.session, h.source, h.host,
    ⟨h.unlimited.out, h.unlimited.err⟩, ⟨h.unlimited'.out, h.unlimited'.err⟩⟩

/-- Shells stay alike when they read. -/
lemma advance {s : Shell σ Feed} {t : Shell τ Feed} (h : s.Alike R t) :
    s.advance.Alike R t.advance :=
  ⟨h.session, congrArg (fun feed => feed.next.2) h.source, h.host, h.unlimited.advance,
    h.unlimited'.advance⟩

end Shell.Alike

namespace Event.Alike

variable {watched : Stream → Prop} {es es' fs fs' : List Event}

/-- The same events are alike. -/
lemma refl (es : List Event) : Alike watched es es :=
  ⟨rfl, rfl, rfl, fun _ _ => rfl⟩

/-- Events that are alike go on being alike after such events. -/
lemma append (h : Alike watched es fs) (h' : Alike watched es' fs') :
    Alike watched (es ++ es') (fs ++ fs') where
  texts := by rw [texts_append, texts_append, h.texts, h'.texts]
  reads := by rw [consultations_append, consultations_append, h.reads, h'.reads]
  changes := by rw [changes_append, changes_append, h.changes, h'.changes]
  written stream hstream := by
    rw [written_append, written_append, h.written stream hstream, h'.written stream hstream]

end Event.Alike

/-- The coupling of shells that are told different things. -/
def blindCoupling (ι : Type) (R : σ → τ → Prop) (watched : Stream → Prop) : Coupling σ τ ι where
  Shells := Shell.Alike R
  Events := Event.Alike watched
  refl := Event.Alike.refl
  append := Event.Alike.append

/-- Handing over a text writes nothing of the shell's own. -/
@[simp]
lemma written_handing (stream : Stream) (text : Text) (run : Run) :
    Event.written stream (Action.handing text run) = [] := by
  refine List.flatMap_eq_nil_iff.mpr ?_
  intro e he
  simp only [Action.handing, List.mem_cons, List.mem_map] at he
  rcases he with rfl | rfl | ⟨part, _, rfl⟩ <;> rfl

/-- Handing over a text changes nothing in the session. -/
@[simp]
lemma changes_handing (text : Text) (run : Run) :
    Event.changes (Action.handing text run) = [] := by
  refine List.filterMap_eq_nil_iff.mpr ?_
  intro e he
  simp only [Action.handing, List.mem_cons, List.mem_map] at he
  rcases he with rfl | rfl | ⟨part, _, rfl⟩ <;> rfl

/-- Handing over a text does not look at the input. -/
@[simp]
lemma consultations_handing (text : Text) (run : Run) :
    Event.consultations (Action.handing text run) = 0 := by
  refine List.countP_eq_zero.mpr ?_
  intro e he
  simp only [Action.handing, List.mem_cons, List.mem_map] at he
  rcases he with rfl | rfl | ⟨part, _, rfl⟩ <;> simp

/-- Asking two hosts a question that they answer in the same way goes together. -/
lemma together_ask {α : Type} {R : σ → τ → Prop} {watched : Stream → Prop} {f : σ → α × σ}
    {g : τ → α × τ} (h : ∀ {a b}, R a b → (f a).1 = (g b).1 ∧ R (f a).2 (g b).2) :
    (blindCoupling ι R watched).Together (Agree Eq) (Action.ask f : Action σ ι Fault α)
      (Action.ask g) := by
  intro s t hst
  obtain ⟨hanswer, hhost⟩ := h hst.host
  exact ⟨hst.withHost hhost, Event.Alike.refl _, .ok hanswer⟩

/-- Shells over hosts that answer alike bear all that commands are made of, however calls of the
system shell come out. -/
lemma bears_blindCoupling {R : σ → τ → Prop} {host : Host σ} {host' : Host τ}
    (h : Host.AnswerAlike R host host') (watched : Stream → Prop) :
    (blindCoupling ι R watched).Bears host host' fun _ _ => True where
  unlimited hst := ⟨hst.unlimited, hst.unlimited'⟩
  history hst := congrArg Session.history hst.session
  note _ _ := ⟨rfl, rfl, rfl, fun _ _ => rfl⟩
  change c _ _ hst := ⟨hst.withChange c, Event.Alike.refl _, .ok rfl⟩
  hand text _ _ hst := by
    refine ⟨hst.withHost (h.run text hst.host), ?_, .ok trivial⟩
    exact ⟨by simp, by simp, by simp, by simp⟩
  fileSize path := together_ask (h.fileSize path)
  timeOfDay := together_ask h.timeOfDay
  elapsed := together_ask h.elapsed

/-! ## Steps -/

/-- The command hands one text over and fails if that could not be run: it is timed, or the shell
does not know its name. -/
def Command.RunsOnce (c : Command) : Prop :=
  c.verb = .time ∨ c.verb = .delegate

/-- What standard error is told of a text that was handed over once. -/
def RunOutcome.complaint : RunOutcome → Text
  | .ok _ => []
  | .error _ => "Error: could not execute command\n".toList

/-- What follows a dispatch is alike, if the results are the same wherever a report would show. -/
lemma Event.alike_settling {watched : Stream → Prop} {r r' : Except Fault ExitCode}
    (h : watched .err → r = r') : Alike watched (settling r) (settling r') := by
  have hchanges : ∀ r, changes (settling r) = [] := by
    rintro (f | code) <;> rfl
  have hout : ∀ r, written .out (settling r) = [] := by
    rintro (f | code) <;> rfl
  refine ⟨by simp, by simp, by rw [hchanges, hchanges], ?_⟩
  intro stream hstream
  cases stream with
  | out => rw [hout, hout]
  | err => rw [h hstream]

/-- Shells that are alike take a step to shells that are alike.  Standard error may be watched where
the step hands over no text on which its result hangs. -/
lemma coupled_step {R : σ → τ → Prop} {host : Host σ} {host' : Host τ}
    (h : Host.AnswerAlike R host host') (settings : Settings) {s : Shell σ Feed}
    {t : Shell τ Feed} (hst : s.Alike R t) (watched : Stream → Prop)
    (hwatched : watched .err → ∀ c, s.upcoming settings = some c → ¬ c.RunsOnce) :
    (blindCoupling Feed R watched).Coupled Eq (step host settings .plain s)
      (step host' settings .plain t) := by
  have hs := hst.unlimited
  have ht := hst.unlimited'
  have hread : t.source.next.1 = s.source.next.1 := by rw [hst.source]
  rcases hnext : s.source.next.1 with e | line | _ <;> rw [hnext] at hread
  · rw [step_of_error host settings hs hnext, step_of_error host' settings ht hread, hst.session]
    exact ⟨hst.advance, Event.Alike.refl _, rfl⟩
  · have hbegun : (s.advance.record line).Alike R (t.advance.record line) :=
      hst.advance.withChange (.record line)
    have hdispatch := (bears_blindCoupling h watched).coupled_dispatch
      (W := fun r r' => watched .err → r = r') (fun _ _ => rfl) settings (Command.parse line)
      hbegun ?_
    · rw [step_of_line host settings hs hnext, step_of_line host' settings ht hread, hst.session]
      refine ⟨hdispatch.shells, ?_, rfl⟩
      exact ((Event.Alike.refl _).append hdispatch.events).append
        (Event.alike_settling hdispatch.result)
    · intro c hc
      have hupcoming := (s.upcoming_eq_some_iff settings c).mpr ⟨line, _, hnext, Prod.ext rfl hc⟩
      refine ⟨?_, ?_⟩
      · intro htime _ _ _ herr
        exact absurd (Or.inl htime) (hwatched herr c hupcoming)
      · intro hdelegate _ _ _ herr
        exact absurd (Or.inr hdelegate) (hwatched herr c hupcoming)
  · cases hleave : settings.leaveAtEnd with
    | true =>
      rw [step_of_ended_leaving host hs hnext hleave, step_of_ended_leaving host' ht hread hleave]
      refine ⟨hst.advance.withChange .leave, ?_, rfl⟩
      rw [hst.session]
      exact Event.Alike.refl _
    | false =>
      rw [step_of_ended_staying host hs hnext hleave, step_of_ended_staying host' ht hread hleave,
        hst.session]
      exact ⟨hst.advance, Event.Alike.refl _, rfl⟩

/-- Shells that are alike are so after any number of steps. -/
lemma coupled_keepStepping {R : σ → τ → Prop} {host : Host σ} {host' : Host τ}
    (h : Host.AnswerAlike R host host') (settings : Settings) (n : ℕ) {s : Shell σ Feed}
    {t : Shell τ Feed} (hst : s.Alike R t) :
    (blindCoupling Feed R (· = .out)).Coupled Eq (keepStepping host settings .plain n s)
      (keepStepping host' settings .plain n t) := by
  induction n generalizing s t with
  | zero => exact ⟨hst, Event.Alike.refl _, rfl⟩
  | succ n ih =>
    have hfirst := coupled_step h settings hst (· = .out) (by rintro ⟨⟩)
    have hrest := ih hfirst.shells
    rw [keepStepping_succ, keepStepping_succ]
    exact ⟨hrest.shells, hfirst.events.append hrest.events, hrest.result⟩

/-! ## What standard error is told of one call -/

namespace Event

/-- The texts that are handed over are those of the calls. -/
lemma texts_eq_map_runs (events : List Event) : texts events = (runs events).map Prod.fst := by
  unfold texts runs
  rw [List.map_filterMap]
  congr 1
  funext e
  cases e <;> rfl

/-- Events in which no text is handed over have no calls. -/
lemma runs_eq_nil {events : List Event} (h : texts events = []) : runs events = [] := by
  rw [texts_eq_map_runs] at h
  exact List.map_eq_nil_iff.mp h

end Event

/-- Handing over a text is one call. -/
@[simp]
lemma runs_handing (text : Text) (run : Run) :
    Event.runs (Action.handing text run) = [(text, run.outcome)] := by
  have hprinted : Event.runs (run.printed.map fun part => .printed part.1 part.2) = [] := by
    refine List.filterMap_eq_nil_iff.mpr ?_
    intro e he
    obtain ⟨part, -, rfl⟩ := List.mem_map.mp he
    rfl
  change (text, run.outcome) :: Event.runs (run.printed.map fun part => .printed part.1 part.2) = _
  rw [hprinted]

/-- Delegating a line is one call of the system shell. -/
lemma delegate_apply (host : Host σ) (line : Text) (s : Shell σ ι) :
    let call := host.run line s.host
    ∃ r, delegate host line s = ⟨RunOutcome.delegated call.1.outcome, { s with host := call.2 },
      Action.handing line call.1 ++ [.noted r]⟩ := by
  unfold delegate
  rw [Action.bind_apply, Action.hand_apply]
  rcases host.run line s.host with ⟨⟨e | code, printed⟩, state⟩
  · exact ⟨_, rfl⟩
  · exact ⟨_, rfl⟩

/-- Timing a command is one call of the system shell between two looks at the clock. -/
lemma time_apply (host : Host σ) (text : Text) {s : Shell σ ι} (hout : s.out = none) :
    let call := host.run text (host.timeOfDay s.host).2
    ∃ state bytes r, Builtin.time host text s =
      ⟨RunOutcome.timed call.1.outcome, { s with host := state },
        Action.handing text call.1 ++ [.wrote .out bytes, .noted r]⟩ := by
  have hroom : ∀ state, ({ s with host := state } : Shell σ ι).room .out = none := fun _ => hout
  unfold Builtin.time
  simp only [Action.bind_apply, Action.ask_apply, Action.hand_apply,
    Action.print_of_room_none (hroom _), Outcome.after_nil]
  rcases host.run text (host.timeOfDay s.host).2 with ⟨⟨e | code, printed⟩, state⟩
  · exact ⟨_, _, _, rfl⟩
  · exact ⟨_, _, _, rfl⟩

/-- A command of the shell itself is announced and then carried out. -/
lemma builtin_apply (c : Command) (x : Action σ ι Fault ExitCode) (s : Shell σ ι) :
    builtin c x s = (x s).after [.noted (.builtinBegins c.base)] :=
  Action.bind_apply _ _ s

/-- A command that hands one text over makes one call and writes nothing to standard error, and its
result makes the report that the call deserves. -/
lemma performHere_of_runsOnce (host : Host σ) {c : Command} (hc : c.RunsOnce) {s : Shell σ ι}
    (hout : s.out = none) :
    ∃ text outcome, Event.runs (performHere host c s).events = [(text, outcome)] ∧
      Event.written .err (performHere host c s).events = [] ∧
      Event.written .err (settling (performHere host c s).result) =
        Utf8.encode (RunOutcome.complaint outcome) := by
  unfold performHere perform
  rcases hc with hverb | hverb <;> simp only [hverb]
  · obtain ⟨state, bytes, r, htime⟩ := time_apply host (Command.joined c.arguments) hout
    rw [builtin_apply, htime]
    refine ⟨Command.joined c.arguments,
      (host.run (Command.joined c.arguments) (host.timeOfDay s.host).2).1.outcome, ?_, ?_, ?_⟩
    · simp only [Outcome.after_mk, Event.runs_append, runs_handing]
      rfl
    · simp only [Outcome.after_mk, Event.written_append, written_handing]
      rfl
    · cases (host.run (Command.joined c.arguments) (host.timeOfDay s.host).2).1.outcome <;> rfl
  · obtain ⟨r, hdelegate⟩ := delegate_apply host c.raw s
    rw [hdelegate]
    refine ⟨c.raw, (host.run c.raw s.host).1.outcome, ?_, ?_, ?_⟩
    · rw [Event.runs_append, runs_handing]
      rfl
    · rw [Event.written_append, written_handing]
      rfl
    · cases (host.run c.raw s.host).1.outcome <;> rfl

/-- A step whose command hands one text over makes one call, and standard error is told no more of
it than that the call could not be made. -/
lemma step_of_runsOnce (host : Host σ) (settings : Settings) {s : Shell σ Feed} (hs : s.Unlimited)
    {c : Command} (hc : s.upcoming settings = some c) (honce : c.RunsOnce) :
    ∃ text outcome, Event.runs (step host settings .plain s).events = [(text, outcome)] ∧
      Event.written .err (step host settings .plain s).events =
        Utf8.encode (RunOutcome.complaint outcome) := by
  obtain ⟨line, entries, -, -, hstep⟩ := step_of_upcoming host settings hs hc
  obtain ⟨text, outcome, hruns, herr, hreport⟩ :=
    performHere_of_runsOnce host honce (hs.advance.record line).out
  refine ⟨text, outcome, ?_, ?_⟩
  · have hopening : Event.runs (opening s.session) = [] := rfl
    rw [hstep]
    simp [hruns, hopening, Event.runs_eq_nil]
  · have hopening : Event.written .err (opening s.session) = [] := rfl
    have haccepting : Event.written .err (accepting s.session line) = [] := by
      unfold accepting echoing
      split <;> rfl
    have hpassing := (showsOnly_passing 0 entries).err
    rw [hstep]
    simp [herr, hreport, hopening, haccepting, hpassing]

/-! ## Any number of steps -/

/-- **What commands return does not steer the shell.**  Two shells that begin alike, over hosts that
answer alike but may make anything of the texts that are handed to them, are alike after any number
of steps: the sessions are the same, the same texts were handed over in the same order, the same
input was read, and the same was written to standard output.

The next step tells standard error the same as well, unless its command hands one text over on which
its result hangs.  Then there is one call on either side, and standard error is told nothing else
than that it could not be made, where it could not. -/
theorem keepStepping_blind {R : σ → τ → Prop} {host : Host σ} {host' : Host τ}
    (hhosts : Host.AnswerAlike R host host') (settings : Settings) {s : Shell σ Feed}
    {t : Shell τ Feed} (hst : s.Alike R t) (n : ℕ) :
    let o := keepStepping host settings .plain n s
    let o' := keepStepping host' settings .plain n t
    let next := step host settings .plain o.shell
    let next' := step host' settings .plain o'.shell
    o.shell.session = o'.shell.session ∧
      Event.texts o.events = Event.texts o'.events ∧
      o.shell.source = o'.shell.source ∧
      Event.consultations o.events = Event.consultations o'.events ∧
      Event.written .out o.events = Event.written .out o'.events ∧
      ((∀ c, o.shell.upcoming settings = some c → ¬ c.RunsOnce) →
        Event.written .err next.events = Event.written .err next'.events) ∧
      ∀ c, o.shell.upcoming settings = some c → c.RunsOnce →
        (∃ text outcome, Event.runs next.events = [(text, outcome)] ∧
          Event.written .err next.events = Utf8.encode (RunOutcome.complaint outcome)) ∧
        ∃ text outcome, Event.runs next'.events = [(text, outcome)] ∧
          Event.written .err next'.events = Utf8.encode (RunOutcome.complaint outcome) := by
  intro o o' next next'
  have hsteps := coupled_keepStepping hhosts settings n hst
  have hshells : o.shell.Alike R o'.shell := hsteps.shells
  have hevents : Event.Alike (· = .out) o.events o'.events := hsteps.events
  refine ⟨hshells.session, hevents.texts, hshells.source, hevents.reads, hevents.written .out rfl,
    ?_, ?_⟩
  · intro hnever
    have hnext := coupled_step hhosts settings hshells (fun _ => True) fun _ => hnever
    exact hnext.events.written .err trivial
  · intro c hc honce
    have hc' : o'.shell.upcoming settings = some c := by
      rw [← hc]
      unfold Shell.upcoming
      rw [hshells.source, hshells.session]
    exact ⟨step_of_runsOnce host settings hshells.unlimited hc honce,
      step_of_runsOnce host' settings hshells.unlimited' hc' honce⟩

/-- A delegated line, a timed command and a repetition, where every call succeeds on one side and
none on the other: the second step differs in its report and in nothing else. -/
theorem keepStepping_blind_failing :
    let host' : Host Unit := { Host.idle with run := fun _ s => (⟨.error ⟨[]⟩, []⟩, s) }
    let s : Shell Unit Feed :=
      { session := Session.start Settings.standard History.empty none, host := (),
        source := [.chunk (Utf8.encode "ls\ntime ls\nrepeat 2 a\n".toList)],
        out := none, err := none }
    let steps := fun host n => keepStepping host Settings.standard .plain n s
    let second := fun host => step host Settings.standard .plain (steps host 1).shell
    Host.AnswerAlike Eq Host.idle host' ∧ Shell.Alike Eq s s ∧
      (steps Host.idle 3).shell.session = (steps host' 3).shell.session ∧
      Event.texts (steps Host.idle 3).events = Event.texts (steps host' 3).events ∧
      Event.written .out (steps Host.idle 3).events = Event.written .out (steps host' 3).events ∧
      Event.written .err (second Host.idle).events = [] ∧
      Event.written .err (second host').events =
        Utf8.encode "Error: could not execute command\n".toList := by
  intro host' s steps second
  have hhosts : Host.AnswerAlike Eq Host.idle host' :=
    ⟨fun _ _ _ h => h, fun _ _ _ h => ⟨rfl, h⟩, fun h => ⟨rfl, h⟩, fun h => ⟨rfl, h⟩⟩
  have hs : s.Alike Eq s := ⟨rfl, rfl, rfl, ⟨rfl, rfl⟩, ⟨rfl, rfl⟩⟩
  obtain ⟨hsession, htexts, -, -, hout, -⟩ := keepStepping_blind hhosts Settings.standard hs 3
  obtain ⟨-, -, -, -, -, -, honce⟩ := keepStepping_blind hhosts Settings.standard hs 1
  have htimed : (steps Host.idle 1).shell.upcoming Settings.standard =
      some (Command.parse "time ls\n".toList) := by decide +kernel
  obtain ⟨⟨text, outcome, hruns, herr⟩, text', outcome', hruns', herr'⟩ :=
    honce _ htimed (Or.inl (by decide))
  have hsucceeds : Event.runs (second Host.idle).events = [("ls ".toList, .ok 0)] := by
    decide +kernel
  have hfails : Event.runs (second host').events = [("ls ".toList, .error ⟨[]⟩)] := by
    decide +kernel
  obtain ⟨-, rfl⟩ : text = "ls ".toList ∧ outcome = .ok 0 := by
    simpa using hruns.symm.trans hsucceeds
  obtain ⟨-, rfl⟩ : text' = "ls ".toList ∧ outcome' = .error ⟨[]⟩ := by
    simpa using hruns'.symm.trans hfails
  exact ⟨hhosts, hs, hsession, htexts, hout, herr, herr'⟩

end LineShell
