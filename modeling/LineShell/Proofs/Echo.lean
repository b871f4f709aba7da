import LineShell.Proofs.Results
import LineShell.Proofs.Sources

/-!
# The echo only echoes

The echo is switched by `set +v` and `set -v`, typed or recalled, and by nothing else.  So after any
number of steps it is what the last of these has asked for (`echoesAsked`, the flags that lines ask
for, in order), and it decides about one thing: whether a line that is read appears on standard
output before it is carried out.

That it decides about nothing else is a statement about two shells that differ in the echo and in
the name of the user (`Shell.Twins`).  They take every step alike but for what is there to be looked
at: the prompt and the echo of the line, which are the `Shell.display` of a step.

The main statement `keepStepping_echo` has both halves.
-/

namespace LineShell

variable {σ τ ι : Type}

/-! ## The echo that lines ask for -/

/-- The echo that a line asks for, where the history has it already: that of the command behind it,
if there is one within the given number of recalls. -/
def Text.echoAsked (depth : ℕ) (h : History) (line : Text) : Option Bool :=
  match ((Command.parse line).resolve h depth depth).2 with
  | .ok c => c.echoAsked
  | .error _ => none

/-- The echoes that lines ask for, in order, where each joins the history before it is carried
out. -/
def echoesAsked (depth : ℕ) : History → List Text → List Bool
  | _, [] => []
  | h, line :: lines =>
    (Text.echoAsked depth (h.append line) line).toList ++ echoesAsked depth (h.append line) lines

/-- Nothing that happens alters the user. -/
lemma Event.user_replay (session : Session) (events : List Event) :
    (replay session events).user = session.user := by
  refine replay_congr Session.user (fun c _ _ => ?_) session
  cases c <;> rfl

/-- A command that is no recall switches the echo to what it asks for. -/
lemma echo_performHere (host : Host σ) {c : Command} (hc : ¬ c.IsRecall) (s : Shell σ ι) :
    (performHere host c s).shell.session.echo = c.echoAsked.getD s.session.echo := by
  by_cases hset : c.base = "set".toList
  · cases hasked : c.echoAsked with
    | some on =>
      rw [performHere_of_echoAsked host hasked]
      rfl
    | none =>
      rw [performHere_of_echoAsked_eq_none host hset hasked]
      rfl
  · have hasked : c.echoAsked = none := if_neg hset
    rw [hasked]
    by_cases hexit : c.base = "exit".toList
    · have hverb := Command.verb_eq_leave_iff.mpr hexit
      simp [performHere, perform, hverb, builtin_apply, Builtin.leave, Session.apply]
    · rw [session_performHere host hc hexit hset]
      rfl

/-- A line switches the echo to what it asks for. -/
lemma echo_dispatch (host : Host σ) (settings : Settings) {s : Shell σ ι} (hout : s.out = none)
    (line : Text) :
    (dispatch host settings (Command.parse line) s).shell.session.echo =
      (Text.echoAsked settings.recallDepth s.session.history line).getD s.session.echo := by
  unfold dispatch Text.echoAsked
  rw [dispatchWithin_eq_resolve host _ hout le_rfl]
  rcases hresolve : (Command.parse line).resolve s.session.history settings.recallDepth
    settings.recallDepth with ⟨entries, f | c⟩
  · rfl
  · exact echo_performHere host (Command.not_isRecall_of_resolve (congrArg Prod.snd hresolve)) s

/-! ## One shell, step by step -/

/-- What a step over streams that take everything makes of the session, where `read` is what its
source comes to: a line joins the history, and it switches the echo to what it asks for. -/
structure Kept (settings : Settings) (s : Shell σ ι) (read : Reading.Outcome ι)
    (o : Outcome σ ι IoError Unit) : Prop where
  result : o.result = .ok ()
  unlimited : o.shell.Unlimited
  source : o.shell.source = read.source
  user : o.shell.session.user = s.session.user
  lines : o.shell.session.history.lines =
    s.session.history.lines ++ Feed.givenLine read.result
  echo : o.shell.session.echo =
    (echoesAsked settings.recallDepth s.session.history
      (Feed.givenLine read.result)).getLast?.getD s.session.echo

/-- A step keeps to that. -/
lemma kept_step (host : Host σ) (settings : Settings) (source : LineSource ι) {s : Shell σ ι}
    (hs : s.Unlimited) :
    Kept settings s (source.next s.session.prompt s.source) (step host settings source s) := by
  rcases Feed.givenLine_cases (source.next s.session.prompt s.source).result with
    hnone | ⟨line, hline, hgiven⟩
  · rw [step_of_no_read host settings source hs hnone]
    have hreplay := replay_declining settings (source.next s.session.prompt s.source).result
      s.session
    refine ⟨rfl, ⟨hs.out, hs.err⟩, rfl, Event.user_replay _ _, ?_, ?_⟩
    · rw [hnone, List.append_nil]
      rcases hreplay with h | h <;> simp only [h]
    · rw [hnone]
      rcases hreplay with h | h <;> simp only [h] <;> rfl
  · have hbegun := (hs.reading source).record line
    have heffect := (composed_dispatch host settings (Command.parse line)).effect
      ((s.reading source).record line)
    rw [step_of_next_line host settings source hs hline]
    refine ⟨rfl, unlimited_dispatch host settings hbegun _, heffect.source, ?_, ?_, ?_⟩
    · rw [heffect.session, Event.user_replay]
      rfl
    · rw [history_dispatch, hgiven]
      rfl
    · rw [echo_dispatch host settings hbegun.out, hgiven]
      have hasked : ∀ on : Option Bool, (on.toList ++ []).getLast? = on := by
        rintro (_ | on) <;> rfl
      rw [echoesAsked, echoesAsked, hasked]
      rfl

/-- Lines after others ask for echoes against the history that has the others. -/
lemma echoesAsked_append (depth : ℕ) (h : History) (lines further : List Text) :
    echoesAsked depth h (lines ++ further) =
      echoesAsked depth h lines ++ echoesAsked depth ⟨h.lines ++ lines⟩ further := by
  induction lines generalizing h with
  | nil =>
    rw [List.append_nil]
    rfl
  | cons line lines ih =>
    rw [List.cons_append, echoesAsked, echoesAsked, ih, List.append_assoc, History.lines_append,
      List.append_assoc, List.singleton_append]

/-- **The echo is what was asked for last.**  Any number of steps over streams that take everything
record the lines that they are given, and the echo is then what the last of these has asked for that
asks for one. -/
lemma kept_keepStepping (host : Host σ) (settings : Settings) (source : LineSource ι) (n : ℕ)
    {s : Shell σ ι} (hs : s.Unlimited) :
    let o := keepStepping host settings source n s
    let lines := source.lines s.session.prompt n s.source
    o.shell.Unlimited ∧ o.shell.session.user = s.session.user ∧
      o.shell.session.history.lines = s.session.history.lines ++ lines ∧
      o.shell.session.echo =
        (echoesAsked settings.recallDepth s.session.history lines).getLast?.getD
          s.session.echo := by
  induction n generalizing s with
  | zero => exact ⟨hs, rfl, (List.append_nil _).symm, rfl⟩
  | succ n ih =>
    have hstep := kept_step host settings source hs
    have hprompt : (step host settings source s).shell.session.prompt = s.session.prompt := by
      unfold Session.prompt
      rw [hstep.user]
    have hhistory : (step host settings source s).shell.session.history =
        ⟨s.session.history.lines ++
          Feed.givenLine (source.next s.session.prompt s.source).result⟩ := by
      rw [← hstep.lines]
    obtain ⟨hunlimited, huser, hlines, hecho⟩ := ih hstep.unlimited
    rw [hprompt, hstep.source] at hlines hecho
    rw [keepStepping_succ]
    refine ⟨hunlimited, huser.trans hstep.user, ?_, ?_⟩
    · rw [Outcome.after_shell, hlines, hstep.lines, LineSource.lines, List.append_assoc]
    · rw [Outcome.after_shell, hecho, hhistory, hstep.echo, LineSource.lines, echoesAsked_append,
        List.getLast?_append]
      cases (echoesAsked settings.recallDepth _ _).getLast? <;> rfl

/-! ## Two shells that differ in what they show -/

/-- Two hosts give the same answers, where `R` says which states of theirs belong together. -/
structure Host.AnswerSame (R : σ → τ → Prop) (host : Host σ) (host' : Host τ) : Prop
    extends Host.AnswerAlike R host host' where
  outcome : ∀ text {a b}, R a b → (host.run text a).1.outcome = (host'.run text b).1.outcome

/-- Two shells differ in the echo and in the name of the user at most. -/
structure Shell.Twins (R : σ → τ → Prop) (s : Shell σ ι) (t : Shell τ ι) : Prop where
  history : s.session.history = t.session.history
  leaving : s.session.leaving = t.session.leaving
  source : s.source = t.source
  host : R s.host t.host
  unlimited : s.Unlimited
  unlimited' : t.Unlimited

namespace Shell.Twins

variable {R : σ → τ → Prop} {s : Shell σ ι} {t : Shell τ ι}

/-- Twins stay twins when their hosts pass to states that belong together. -/
lemma withHost (h : s.Twins R t) {a : σ} {b : τ} (hab : R a b) :
    Twins R { s with host := a } { t with host := b } :=
  ⟨h.history, h.leaving, h.source, hab, ⟨h.unlimited.out, h.unlimited.err⟩,
    ⟨h.unlimited'.out, h.unlimited'.err⟩⟩

/-- Twins stay twins when their sessions are altered in the same way. -/
lemma withChange (h : s.Twins R t) (c : Change) :
    Twins R { s with session := s.session.apply c } { t with session := t.session.apply c } := by
  refine ⟨?_, ?_, h.source, h.host, ⟨h.unlimited.out, h.unlimited.err⟩,
    ⟨h.unlimited'.out, h.unlimited'.err⟩⟩
  · cases c with
    | record line => exact congrArg (History.append · line) h.history
    | echo on => exact h.history
    | leave => exact h.history
  · cases c with
    | record line => exact h.leaving
    | echo on => exact h.leaving
    | leave => rfl

/-- Twins stay twins when their sessions are altered by the same events. -/
lemma withReplay (h : s.Twins R t) (events : List Event) :
    Twins R { s with session := Event.replay s.session events }
      { t with session := Event.replay t.session events } := by
  unfold Event.replay
  induction Event.changes events generalizing s t with
  | nil => exact h
  | cons c cs ih => exact ih (h.withChange c)

end Shell.Twins

/-- In two lists of events there are the same calls of the system shell, the same changes of the
session, and the same writes to the streams that are watched. -/
structure Event.Same (watched : Stream → Prop) (es fs : List Event) : Prop where
  runs : runs es = runs fs
  changes : changes es = changes fs
  written : ∀ stream, watched stream → written stream es = written stream fs

namespace Event.Same

variable {watched : Stream → Prop} {es es' fs fs' : List Event}

/-- The same events are the same. -/
lemma refl (es : List Event) : Same watched es es :=
  ⟨rfl, rfl, fun _ _ => rfl⟩

/-- Events that are the same go on being so after such events. -/
lemma append (h : Same watched es fs) (h' : Same watched es' fs') :
    Same watched (es ++ es') (fs ++ fs') where
  runs := by rw [runs_append, runs_append, h.runs, h'.runs]
  changes := by rw [changes_append, changes_append, h.changes, h'.changes]
  written stream hstream := by
    rw [written_append, written_append, h.written stream hstream, h'.written stream hstream]

/-- Fewer streams may be watched. -/
lemma mono {watched' : Stream → Prop} (h : Same watched es fs)
    (hw : ∀ stream, watched' stream → watched stream) : Same watched' es fs :=
  ⟨h.runs, h.changes, fun stream hstream => h.written stream (hw stream hstream)⟩

end Event.Same

/-- The coupling of twins, where certain streams are watched. -/
def twinCoupling (ι : Type) (R : σ → τ → Prop) (watched : Stream → Prop) : Coupling σ τ ι where
  Shells := Shell.Twins R
  Events := Event.Same watched
  refl := Event.Same.refl
  append := Event.Same.append

/-- Asking two hosts a question that they answer in the same way goes together. -/
lemma twins_ask {α : Type} {R : σ → τ → Prop} {watched : Stream → Prop} {f : σ → α × σ}
    {g : τ → α × τ} (h : ∀ {a b}, R a b → (f a).1 = (g b).1 ∧ R (f a).2 (g b).2) :
    (twinCoupling ι R watched).Together (Agree Eq) (Action.ask f : Action σ ι Fault α)
      (Action.ask g) := by
  intro s t hst
  obtain ⟨hanswer, hhost⟩ := h hst.host
  exact ⟨hst.withHost hhost, Event.Same.refl _, .ok hanswer⟩

/-- Twins bear all that commands are made of. -/
lemma bears_twinCoupling {R : σ → τ → Prop} {watched : Stream → Prop} {host : Host σ}
    {host' : Host τ} (h : Host.AnswerSame R host host') :
    (twinCoupling ι R watched).Bears host host' Eq where
  unlimited hst := ⟨hst.unlimited, hst.unlimited'⟩
  history hst := hst.history
  note _ _ := ⟨rfl, rfl, fun _ _ => rfl⟩
  change c _ _ hst := ⟨hst.withChange c, Event.Same.refl _, .ok rfl⟩
  hand text _ _ hst := by
    refine ⟨hst.withHost (h.run text hst.host), ?_, .ok (h.outcome text hst.host)⟩
    exact ⟨by simp [h.outcome text hst.host], by simp, by simp⟩
  fileSize path := twins_ask (h.fileSize path)
  timeOfDay := twins_ask h.timeOfDay
  elapsed := twins_ask h.elapsed

/-- Dispatching the same command goes together for twins, with the same result. -/
lemma twins_dispatch {R : σ → τ → Prop} {watched : Stream → Prop} {host : Host σ} {host' : Host τ}
    (h : Host.AnswerSame R host host') (settings : Settings) (command : Command) {s : Shell σ ι}
    {t : Shell τ ι} (hst : s.Twins R t) :
    (twinCoupling ι R watched).Coupled Eq (dispatch host settings command s)
      (dispatch host' settings command t) :=
  (bears_twinCoupling h).coupled_dispatch (fun _ => rfl) settings command hst fun _ _ =>
    ⟨fun _ _ _ ho => congrArg RunOutcome.timed ho, fun _ _ _ ho => congrArg RunOutcome.delegated ho⟩

/-! ## What a step shows -/

/-- What a step writes to standard output for the user to look at: what the source writes while it
reads, that is the prompt, and the echo of the line that it gives. -/
def Shell.display (source : LineSource ι) (s : Shell σ ι) : List UInt8 :=
  Event.written .out (source.next s.session.prompt s.source).events ++
    (Feed.givenLine (source.next s.session.prompt s.source).result).flatMap fun line =>
      if s.session.echo then Utf8.encode ("COMMAND: ".toList ++ line) else []

/-- What a step writes to standard output as it carries its line out. -/
def Shell.output (host : Host σ) (settings : Settings) (source : LineSource ι) (s : Shell σ ι) :
    List UInt8 :=
  (Feed.givenLine (source.next s.session.prompt s.source).result).flatMap fun line =>
    Event.written .out
      (dispatch host settings (Command.parse line) ((s.reading source).record line)).events

/-- With the plain source, a step shows the prompt and the echo of its line. -/
lemma Shell.display_plain (s : Shell σ Feed) :
    s.display .plain = Utf8.encode s.session.prompt ++
      (Feed.givenLine s.source.next.1).flatMap fun line =>
        if s.session.echo then Utf8.encode ("COMMAND: ".toList ++ line) else [] := by
  have hwritten : Event.written .out (LineSource.plain.next s.session.prompt s.source).events =
      Utf8.encode s.session.prompt := List.append_nil _
  rw [display, hwritten]
  rfl

section
variable (source : LineSource ι) (s : Shell σ ι) (settings : Settings)

/-- A step starts a new line and shows the prompt. -/
lemma written_out_beginning :
    Event.written .out (beginning source s) = Utf8.encode ['\n'] ++
      Event.written .out (source.next s.session.prompt s.source).events := rfl

/-- Up to the end of its read, a step writes nothing to standard error. -/
lemma written_err_beginning : Event.written .err (beginning source s) = [] :=
  source.written_err_next s.session.prompt s.source

/-- A shell that declines writes nothing to standard output. -/
lemma written_out_declining (result : ReadResult) :
    Event.written .out (declining settings result) = [] := by
  unfold declining
  split
  · rfl
  · split_ifs <;> rfl
  · rfl

/-- A step that is given a line writes the echo of it to standard output, if it is on. -/
lemma written_out_accepting (session : Session) (line : Text) :
    Event.written .out (accepting session line) =
      if session.echo then Utf8.encode ("COMMAND: ".toList ++ line) else [] := by
  unfold accepting echoing
  split_ifs with hecho
  · exact List.append_nil _
  · rfl

/-- A step that is given a line writes nothing to standard error before it is dispatched. -/
lemma written_err_accepting (session : Session) (line : Text) :
    Event.written .err (accepting session line) = [] := by
  unfold accepting echoing
  split_ifs <;> rfl

/-- A step writes nothing to standard output once its line was dispatched. -/
lemma written_out_settling (result : Except Fault ExitCode) :
    Event.written .out (settling result) = [] := by
  cases result <;> rfl

end

/-- A step writes to standard output an end of line, what it shows, and what carrying its line out
writes there. -/
lemma written_out_step (host : Host σ) (settings : Settings) (source : LineSource ι)
    {s : Shell σ ι} (hs : s.Unlimited) :
    Event.written .out (step host settings source s).events =
      Utf8.encode ['\n'] ++ s.display source ++ s.output host settings source := by
  unfold Shell.display Shell.output
  rcases Feed.givenLine_cases (source.next s.session.prompt s.source).result with
    hnone | ⟨line, hline, hgiven⟩
  · rw [step_of_no_read host settings source hs hnone, hnone]
    simp only [Event.written_append, written_out_beginning, written_out_declining,
      List.flatMap_nil, List.append_nil]
  · rw [step_of_next_line host settings source hs hline, hgiven]
    simp only [Event.written_append, written_out_beginning, written_out_accepting,
      written_out_settling, List.flatMap_cons, List.flatMap_nil, List.append_nil,
      List.append_assoc]

/-- A step that is given a line writes to standard output an end of line, what its source writes,
the echo of the line if it is on, and what dispatching the line writes. -/
lemma written_out_step_of_line (host : Host σ) (settings : Settings) (source : LineSource ι)
    {s : Shell σ ι} (hs : s.Unlimited) {line : Text}
    (hline : (source.next s.session.prompt s.source).result = .ok (.line line)) :
    Event.written .out (step host settings source s).events =
      Utf8.encode ['\n'] ++ Event.written .out (source.next s.session.prompt s.source).events ++
        (if s.session.echo then Utf8.encode ("COMMAND: ".toList ++ line) else []) ++
        Event.written .out (dispatch host settings (Command.parse line)
          ((s.reading source).record line)).events := by
  have hgiven : Feed.givenLine (.ok (.line line)) = [line] := rfl
  rw [written_out_step host settings source hs, Shell.display, Shell.output, hline, hgiven,
    List.flatMap_singleton, List.flatMap_singleton]
  simp only [List.append_assoc]

/-- The shells before each of a number of steps. -/
def trail (host : Host σ) (settings : Settings) (source : LineSource ι) :
    ℕ → Shell σ ι → List (Shell σ ι)
  | 0, _ => []
  | n + 1, s => s :: trail host settings source n (step host settings source s).shell

@[simp]
lemma length_trail (host : Host σ) (settings : Settings) (source : LineSource ι) (n : ℕ)
    (s : Shell σ ι) : (trail host settings source n s).length = n := by
  induction n generalizing s with
  | zero => rfl
  | succ n ih => rw [trail, List.length_cons, ih]

/-- No step fails over streams that take everything. -/
lemma result_trail (host : Host σ) (settings : Settings) (source : LineSource ι) (n : ℕ)
    {s : Shell σ ι} (hs : s.Unlimited) :
    (trail host settings source n s).map (fun x => (step host settings source x).result) =
      List.replicate n (.ok ()) := by
  induction n generalizing s with
  | zero => rfl
  | succ n ih =>
    have hstep := kept_step host settings source hs
    rw [trail, List.map_cons, ih hstep.unlimited, hstep.result, List.replicate_succ]

/-- Standard output put together from what steps show and what they write otherwise, with an end of
line before each step. -/
def interleaved (displays outputs : List (List UInt8)) : List UInt8 :=
  (List.zipWith (fun display output => Utf8.encode ['\n'] ++ display ++ output) displays
    outputs).flatten

/-- Any number of steps write to standard output what each of them shows and what each of them
carries out. -/
lemma written_out_keepStepping (host : Host σ) (settings : Settings) (source : LineSource ι)
    (n : ℕ) {s : Shell σ ι} (hs : s.Unlimited) :
    Event.written .out (keepStepping host settings source n s).events =
      interleaved ((trail host settings source n s).map (Shell.display source))
        ((trail host settings source n s).map (Shell.output host settings source)) := by
  induction n generalizing s with
  | zero => rfl
  | succ n ih =>
    rw [keepStepping_succ, Outcome.after_events, Event.written_append,
      written_out_step host settings source hs, ih (kept_step host settings source hs).unlimited]
    rfl

/-! ## Twins, step by step -/

/-- The settings with another echo from the start. -/
def Settings.echoed (settings : Settings) (on : Bool) : Settings :=
  { settings with echo := on }

/-- Of the same line, two sessions show what they like, and else there is no difference before it is
dispatched. -/
lemma same_accepting (session session' : Session) (line : Text) :
    Event.Same (· = .err) (accepting session line) (accepting session' line) where
  runs := by
    unfold accepting echoing
    split_ifs <;> rfl
  changes := by
    unfold accepting echoing
    split_ifs <;> rfl
  written := by
    rintro _ rfl
    rw [written_err_accepting, written_err_accepting]

/-- A step goes together for twins whose prompts get the same input, but for what it shows. -/
lemma twins_step {R : σ → τ → Prop} {host : Host σ} {host' : Host τ}
    (h : Host.AnswerSame R host host') (settings : Settings) (on : Bool) (source : LineSource ι)
    {s : Shell σ ι} {t : Shell τ ι} (hst : s.Twins R t)
    (hagrees : source.Agrees s.session.prompt t.session.prompt) :
    (twinCoupling ι R (· = .err)).Coupled Eq (step host settings source s)
        (step host' (settings.echoed on) source t) ∧
      s.output host settings source = t.output host' (settings.echoed on) source := by
  have hs := hst.unlimited
  have ht := hst.unlimited'
  obtain ⟨hresult, hsource⟩ : (source.next s.session.prompt s.source).result =
        (source.next t.session.prompt t.source).result ∧
      (source.next s.session.prompt s.source).source =
        (source.next t.session.prompt t.source).source := hst.source ▸ hagrees s.source
  have hreading : (s.reading source).Twins R (t.reading source) :=
    ⟨hst.history, hst.leaving, hsource, hst.host, hs.reading source, ht.reading source⟩
  have hbeginning : Event.Same (· = .err) (beginning source s) (beginning source t) := by
    refine ⟨?_, ?_, ?_⟩
    · exact (source.runs_next _ _).trans (source.runs_next _ _).symm
    · exact (source.changes_next _ _).trans (source.changes_next _ _).symm
    · rintro _ rfl
      rw [written_err_beginning, written_err_beginning]
  unfold Shell.output
  rcases Feed.givenLine_cases (source.next s.session.prompt s.source).result with
    hnone | ⟨line, hline, hgiven⟩
  · rw [step_of_no_read host settings source hs hnone,
      step_of_no_read host' (settings.echoed on) source ht (hresult ▸ hnone), ← hresult,
      hnone]
    exact ⟨⟨hreading.withReplay _, hbeginning.append (.refl _), rfl⟩, rfl⟩
  · obtain ⟨hshells, hevents, hdispatched⟩ :
        (twinCoupling ι R fun _ => True).Coupled Eq
          (dispatch host settings (Command.parse line) ((s.reading source).record line))
          (dispatch host' settings (Command.parse line) ((t.reading source).record line)) :=
      twins_dispatch h settings (Command.parse line) (hreading.withChange (.record line))
    rw [step_of_next_line host settings source hs hline,
      step_of_next_line host' (settings.echoed on) source ht (hresult ▸ hline), ← hresult,
      hgiven]
    have haccepting := same_accepting s.session t.session line
    -- What the beginnings and the echoes write to standard output is not watched here.
    refine ⟨⟨hshells, ?_, rfl⟩, ?_⟩
    · refine ((hbeginning.append haccepting).append (hevents.mono fun _ _ => trivial)).append ?_
      rw [hdispatched]
      exact .refl _
    · rw [List.flatMap_singleton, List.flatMap_singleton]
      exact hevents.written .out trivial

/-- Any number of steps goes together for twins whose prompts get the same input, but for what they
show. -/
lemma twins_keepStepping {R : σ → τ → Prop} {host : Host σ} {host' : Host τ}
    (h : Host.AnswerSame R host host') (settings : Settings) (on : Bool) (source : LineSource ι)
    (n : ℕ) {s : Shell σ ι} {t : Shell τ ι} (hst : s.Twins R t)
    (hagrees : source.Agrees s.session.prompt t.session.prompt) :
    (twinCoupling ι R (· = .err)).Coupled Eq (keepStepping host settings source n s)
        (keepStepping host' (settings.echoed on) source n t) ∧
      (trail host settings source n s).map (Shell.output host settings source) =
        (trail host' (settings.echoed on) source n t).map
          (Shell.output host' (settings.echoed on) source) := by
  induction n generalizing s t with
  | zero => exact ⟨⟨hst, .refl _, rfl⟩, rfl⟩
  | succ n ih =>
    obtain ⟨⟨hshells, hevents, -⟩, houtput⟩ := twins_step h settings on source hst hagrees
    have huser := (kept_step host settings source hst.unlimited).user
    have huser' := (kept_step host' (settings.echoed on) source hst.unlimited').user
    obtain ⟨⟨hshells', hevents', hresult'⟩, houtputs⟩ := ih hshells <| by
      unfold Session.prompt
      rw [huser, huser']
      exact hagrees
    rw [keepStepping_succ, keepStepping_succ]
    refine ⟨⟨hshells', hevents.append hevents', hresult'⟩, ?_⟩
    rw [trail, trail, List.map_cons, List.map_cons, houtput, houtputs]

/-- **The echo only echoes.**  In a session over streams that take everything, any number of steps
record the lines that they are given, and the echo is then what the last of these has asked for that
asks for one, with what the settings say before that.  A step writes to standard output an end of
line, what its source writes, the line after `COMMAND: ` if the echo was on before the line was
dispatched, and what dispatching the line writes.

Another session that differs in the echo and in the user alone, on the same input and over a host
that gives the same answers, comes to the same history, asks to end at the same time, makes the same
calls, has the same result of each step and writes the same to standard error.  On standard output
the steps differ in what they show and in nothing else, and once a line has asked for an echo, the
echoes are the same too. -/
theorem keepStepping_echo (host : Host σ) (settings : Settings) (source : LineSource ι)
    {s : Shell σ ι} (hs : s.Unlimited) (hstart : s.session.echo = settings.echo) (n : ℕ) :
    let o := keepStepping host settings source n s
    let lines := source.lines s.session.prompt n s.source
    let asked := echoesAsked settings.recallDepth s.session.history lines
    o.shell.session.history.lines = s.session.history.lines ++ lines ∧
      o.shell.session.echo = asked.getLast?.getD settings.echo ∧
      (∀ line, (source.next o.shell.session.prompt o.shell.source).result = .ok (.line line) →
        Event.written .out (step host settings source o.shell).events =
          Utf8.encode ['\n'] ++
            Event.written .out (source.next o.shell.session.prompt o.shell.source).events ++
            (if o.shell.session.echo then Utf8.encode ("COMMAND: ".toList ++ line) else []) ++
            Event.written .out (dispatch host settings (Command.parse line)
              ((o.shell.reading source).record line)).events) ∧
      ∀ (τ : Type) (host' : Host τ) (R : σ → τ → Prop) (t : Shell τ ι) (on : Bool)
          (user : Option Text),
        Host.AnswerSame R host host' → R s.host t.host → t.source = s.source →
          t.session = { s.session with echo := on, user := user } → t.Unlimited →
          source.Agrees s.session.prompt t.session.prompt →
        let settings' := settings.echoed on
        let o' := keepStepping host' settings' source n t
        o.shell.session.history = o'.shell.session.history ∧
          o.shell.session.leaving = o'.shell.session.leaving ∧
          Event.runs o.events = Event.runs o'.events ∧
          (trail host settings source n s).map (fun x => (step host settings source x).result) =
            (trail host' settings' source n t).map
              (fun x => (step host' settings' source x).result) ∧
          Event.written .err o.events = Event.written .err o'.events ∧
          (∃ outputs, outputs.length = n ∧
            Event.written .out o.events =
              interleaved ((trail host settings source n s).map (Shell.display source)) outputs ∧
            Event.written .out o'.events =
              interleaved ((trail host' settings' source n t).map (Shell.display source))
                outputs) ∧
          (asked ≠ [] → o.shell.session.echo = o'.shell.session.echo) := by
  intro o lines asked
  obtain ⟨hunlimited, -, hlines, hecho⟩ := kept_keepStepping host settings source n hs
  refine ⟨hlines, hstart ▸ hecho, ?_, ?_⟩
  · exact fun line hline => written_out_step_of_line host settings source hunlimited hline
  · intro τ host' R t on user hhosts hR hsource hsession ht hagrees settings' o'
    have hhistory : t.session.history = s.session.history := by rw [hsession]
    have hst : s.Twins R t := ⟨hhistory.symm, by rw [hsession], hsource.symm, hR, hs, ht⟩
    obtain ⟨⟨hshells, hevents, -⟩, houtputs⟩ :=
      twins_keepStepping hhosts settings on source n hst hagrees
    obtain ⟨-, -, -, hecho'⟩ := kept_keepStepping host' settings' source n ht
    have hout := written_out_keepStepping host settings source n hs
    have hout' := written_out_keepStepping host' settings' source n ht
    refine ⟨hshells.history, hshells.leaving, hevents.runs, ?_, hevents.written .err rfl,
      ⟨_, ?_, hout, houtputs ▸ hout'⟩, ?_⟩
    · rw [result_trail host settings source n hs, result_trail host' settings' source n ht]
    · rw [List.length_map, length_trail]
    · intro hasked
      -- Both have been asked for the same echoes, so there is a last one and it is in force.
      have hsame : echoesAsked settings'.recallDepth t.session.history
          (source.lines t.session.prompt n t.source) = asked := by
        rw [← hagrees.lines_eq, hsource, hhistory]
        rfl
      obtain ⟨last, hlast⟩ := Option.isSome_iff_exists.mp (List.getLast?_isSome.mpr hasked)
      rw [hsame, hlast] at hecho'
      exact hecho.trans ((congrArg (Option.getD · _) hlast).trans hecho'.symm)

/-- The echo is switched off, on, and off again by a recall, and a bad flag does nothing to it; a
session that is not echoed from the start and has a user comes to the same. -/
theorem keepStepping_echo_recalled :
    let text := "set +v\nset 0\nset -v\n!1\nls\n".toList
    let s : Shell Unit Feed :=
      { session := Session.start Settings.standard History.empty none, host := (),
        source := [.chunk (Utf8.encode text)], out := none, err := none }
    let t : Shell Unit Feed :=
      { s with session := { s.session with echo := false, user := some "u".toList } }
    s.Unlimited ∧ t.Unlimited ∧ s.session.echo = Settings.standard.echo ∧
      Host.AnswerSame Eq Host.idle Host.idle ∧
      LineSource.plain.Agrees s.session.prompt t.session.prompt ∧
      (keepStepping Host.idle Settings.standard .plain 3 s).shell.session.echo = true ∧
      (keepStepping Host.idle Settings.standard .plain 4 s).shell.session.echo = false ∧
      (keepStepping Host.idle Settings.standard .plain 4 s).shell.session.history =
        (keepStepping Host.idle (Settings.standard.echoed false) .plain 4 t).shell.session.history ∧
      (keepStepping Host.idle Settings.standard .plain 4 s).shell.session.echo =
        (keepStepping Host.idle (Settings.standard.echoed false) .plain 4 t).shell.session.echo ∧
      Event.written .out (step Host.idle Settings.standard .plain
          (keepStepping Host.idle Settings.standard .plain 4 s).shell).events =
        Utf8.encode "\n[] $ ".toList := by
  intro text s t
  have hs : s.Unlimited := ⟨rfl, rfl⟩
  have ht : t.Unlimited := ⟨rfl, rfl⟩
  have hhosts : Host.AnswerSame Eq Host.idle Host.idle :=
    { run := fun _ _ _ h => h
      fileSize := fun _ _ _ h => ⟨rfl, h⟩
      timeOfDay := fun h => ⟨rfl, h⟩
      elapsed := fun h => ⟨rfl, h⟩
      outcome := fun _ _ _ _ => rfl }
  have hprompts := LineSource.agrees_plain s.session.prompt t.session.prompt
  obtain ⟨-, hthree, -⟩ := keepStepping_echo Host.idle Settings.standard .plain hs rfl 3
  obtain ⟨-, hfour, hnext, htwins⟩ := keepStepping_echo Host.idle Settings.standard .plain hs rfl 4
  obtain ⟨hhistory, -, -, -, -, -, hecho⟩ :=
    htwins Unit Host.idle Eq t false (some "u".toList) hhosts rfl rfl rfl ht hprompts
  have hout := hnext "ls\n".toList (by decide +kernel)
  refine ⟨hs, ht, rfl, hhosts, hprompts, hthree.trans ?_, hfour.trans ?_, hhistory, hecho ?_,
    hout.trans ?_⟩ <;> decide +kernel

end LineShell
