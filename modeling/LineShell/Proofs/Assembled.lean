import LineShell.Proofs.Loop

/-!
# Steps as assemblies

What the shell does on its own account, around the commands that it carries out, is put together
from a few moves too.  `Assembled can x` says that the action `x` is built, by doing one thing after
another, from commands whose result it looks at, log records, and the writes, flushes and changes
that `can` allows.  `assembled_answer` walks once through all that a step does after its read, and a
law of steps over any streams is then an induction over `Assembled`.

The law in this file is `Assembled.regular`: the input is left alone, the session is altered by the
reported changes and by nothing else, and each event is one that `can` allows.  From there the
events of a run account for its session and for its input (`accounted_run`).
-/

namespace LineShell

variable {σ ι α β : Type}

/-- The action of the shell is put together from moves that `can` allows, from commands composed of
such moves, and from what nobody notices. -/
inductive Assembled (can : Move → Prop) : {α : Type} → Action σ ι IoError α → Prop where
  | value {α : Type} (a : α) : Assembled can (pure a : Action σ ι IoError α)
  | bind {α β : Type} {x : Action σ ι IoError α} {f : α → Action σ ι IoError β} :
      Assembled can x → (∀ a, Assembled can (f a)) → Assembled can (x >>= f)
  | session : Assembled can (Action.session : Action σ ι IoError Session)
  | note (r : Record) : Assembled can (Action.note r : Action σ ι IoError Unit)
  | flush (h : can .flushes) : Assembled can (Action.flush : Action σ ι IoError Unit)
  | write {stream : Stream} (text : Text) (h : can (.prints stream)) :
      Assembled can (Action.write stream text : Action σ ι IoError Unit)
  | change {c : Change} (h : can (.alters c)) :
      Assembled can (Action.change c : Action σ ι IoError Unit)
  | attempt {α : Type} {x : Action σ ι Fault α} (hx : Composed can x) :
      Assembled can (Action.attempt x : Action σ ι IoError (Except Fault α))

/-- An action that is assembled from some moves is assembled from more. -/
lemma Assembled.mono {can can' : Move → Prop} {x : Action σ ι IoError α} (hx : Assembled can x)
    (h : ∀ m, can m → can' m) : Assembled can' x := by
  induction hx with
  | value a => exact .value a
  | bind _ _ ihx ihf => exact .bind ihx ihf
  | session => exact .session
  | note r => exact .note r
  | flush hm => exact .flush (h _ hm)
  | write text hm => exact .write text (h _ hm)
  | change hm => exact .change (h _ hm)
  | attempt hx => exact .attempt (hx.mono h)

/-! ## What all assembled actions keep -/

/-- What an action of the shell that does what `can` allows makes of a shell. -/
structure Regular (can : Move → Prop) (s : Shell σ ι) (o : Outcome σ ι IoError α) : Prop where
  /-- The input is left alone. -/
  source : o.shell.source = s.source
  /-- The session is altered by the reported changes and by nothing else. -/
  session : o.shell.session = Event.replay s.session o.events
  /-- The streams have what calls make of their room. -/
  rooms : s.Becomes o.shell
  /-- Nothing happens that is not allowed. -/
  events : ∀ e ∈ o.events, e.Allowed can

/-- One regular outcome after another. -/
lemma Regular.append {can : Move → Prop} {s : Shell σ ι} {x : Outcome σ ι IoError α}
    {y : Outcome σ ι IoError β} (hx : Regular can s x) (hy : Regular can x.shell y) :
    Regular can s (y.after x.events) where
  source := by
    rw [Outcome.after_shell, hy.source, hx.source]
  session := by
    rw [Outcome.after_shell, Outcome.after_events, Event.replay_append, ← hx.session, hy.session]
  rooms := hx.rooms.trans hy.rooms
  events e he := by
    rcases List.mem_append.mp he with he | he
    · exact hx.events e he
    · exact hy.events e he

/-- **What a step leaves alone.**  Every assembled action is regular, whatever the streams are. -/
theorem Assembled.regular {can : Move → Prop} {x : Action σ ι IoError α} (hx : Assembled can x)
    (s : Shell σ ι) : Regular can s (x s) := by
  induction hx generalizing s with
  | value a => exact ⟨rfl, rfl, .of_eq rfl rfl, by simp⟩
  | bind _ _ ihx ihf =>
    rename_i x f _ _
    rw [Action.bind_apply]
    have hx := ihx s
    cases (x s).result with
    | ok a => exact hx.append (ihf a _)
    | error e => exact ⟨hx.source, hx.session, hx.rooms, hx.events⟩
  | session => exact ⟨rfl, rfl, .of_eq rfl rfl, by simp⟩
  | note r => exact ⟨rfl, rfl, .of_eq rfl rfl, by simp [Event.Allowed]⟩
  | flush h =>
    have hrooms := Action.becomes_flush s
    rcases Action.flush_cases s with ⟨-, hflush⟩ | ⟨e, -, hflush⟩ <;> rw [hflush] at hrooms ⊢
    · exact ⟨rfl, rfl, hrooms, by simpa [Event.Allowed] using h⟩
    · exact ⟨rfl, rfl, hrooms, by simpa [Event.Allowed] using h⟩
  | @write stream text h =>
    have hrooms := Action.becomes_write stream text s
    rcases Action.write_cases stream text s with ⟨-, hwrite⟩ | ⟨e, -, hwrite⟩ <;>
      rw [hwrite] at hrooms ⊢
    · exact ⟨by simp, by simp [Event.replay, Event.changes], hrooms,
        by simpa [Event.Allowed] using h⟩
    · exact ⟨by simp, by simp [Event.replay, Event.changes], hrooms,
        by simpa [Event.Allowed] using h⟩
  | change h => exact ⟨rfl, rfl, .of_eq rfl rfl, by simpa [Event.Allowed] using h⟩
  | attempt hx =>
    have heffect := hx.effect s
    exact ⟨heffect.source, heffect.session, heffect.rooms, heffect.events⟩

/-! ## The parts of a step -/

/-- A report writes to standard error. -/
lemma assembled_report (r : Record) (f : Fault) :
    Assembled (· = .prints .err)
      (Action.note r >>= fun _ => report f : Action σ ι IoError Unit) :=
  .bind (.note r) fun _ => .write _ rfl

/-- An echo writes to standard output and flushes that. -/
lemma assembled_echoLine (line : Text) :
    Assembled (fun m => m = .prints .out ∨ m = .flushes)
      (echoLine line : Action σ ι IoError Unit) := by
  refine .bind .session fun session => ?_
  split_ifs
  · exact .bind (.write _ (Or.inl rfl)) fun _ => .flush (Or.inr rfl)
  · exact .flush (Or.inr rfl)

/-- The end of a step writes to standard error and flushes standard output. -/
lemma assembled_settle (result : Except Fault ExitCode) :
    Assembled (fun m => m = .prints .err ∨ m = .flushes)
      (settle result : Action σ ι IoError Unit) := by
  cases result with
  | ok code => exact .flush (Or.inr rfl)
  | error f =>
    exact .bind (.note _) fun _ => .bind (.write _ (Or.inl rfl)) fun _ => .flush (Or.inr rfl)

/-- What a step may do after its read: what commands may do, and to record a line. -/
def Move.OfStep (m : Move) : Prop :=
  m.OfCommand ∨ ∃ line, m = .alters (.record line)

/-- Writing and flushing are what steps may do. -/
lemma Move.ofStep_of_call {stream : Stream} {m : Move} (h : m = .prints stream ∨ m = .flushes) :
    m.OfStep := by
  rcases h with rfl | rfl <;> exact Or.inl trivial

/-- Entering a line is an assembly of what steps may do. -/
lemma assembled_enterLine (host : Host σ) (settings : Settings) (line : Text) :
    Assembled Move.OfStep (enterLine host settings line : Action σ ι IoError Unit) := by
  have hdispatch : Composed Move.OfStep
      (dispatch host settings (Command.parse line) : Action σ ι Fault ExitCode) :=
    (composed_dispatch host settings (Command.parse line)).mono fun _ => Or.inl
  exact .bind (.change (Or.inr ⟨line, rfl⟩)) fun _ => .bind (.attempt hdispatch) fun result =>
    (assembled_settle result).mono fun _ => Move.ofStep_of_call

/-- Obeying a line is an assembly of what steps may do. -/
lemma assembled_obey (host : Host σ) (settings : Settings) (line : Text) :
    Assembled Move.OfStep (obey host settings line : Action σ ι IoError Unit) := by
  have hobey : (obey host settings line : Action σ ι IoError Unit) =
      Action.note (.parsed (Command.parse line).base (Command.parse line).arguments) >>= fun _ =>
        echoLine line >>= fun _ => enterLine host settings line := by
    funext s
    rw [obey_apply]
    simp only [Action.bind_apply, Action.note_apply]
  rw [hobey]
  exact .bind (.note _) fun _ =>
    .bind ((assembled_echoLine line).mono fun _ => Move.ofStep_of_call) fun _ =>
      assembled_enterLine host settings line

/-- **Answering a read is an assembly of what steps may do.** -/
theorem assembled_answer (host : Host σ) (settings : Settings) (result : ReadResult) :
    Assembled Move.OfStep (answer host settings result : Action σ ι IoError Unit) := by
  have hreport : ∀ r f, Assembled Move.OfStep
      (Action.note r >>= fun _ => report f : Action σ ι IoError Unit) := by
    refine fun r f => (assembled_report r f).mono ?_
    rintro _ rfl
    exact Or.inl trivial
  rcases result with e | line | _
  · exact hreport _ _
  · exact assembled_obey host settings line
  · unfold answer
    split_ifs
    · exact .bind (.note _) fun _ => .change (Or.inl trivial)
    · exact hreport _ _

/-- A read leaves standard error as it is, and its calls make something of standard output. -/
lemma becomes_readLine {ε : Type} (source : LineSource ι) (s : Shell σ ι) :
    s.Becomes (Action.readLine source s : Outcome σ ι ε ReadResult).shell := by
  intro stream
  cases stream with
  | out => exact Reading.becomes_perform _ s.out
  | err => exact .refl s.err

/-- What a step makes of the streams is what its calls make of them. -/
theorem becomes_step (host : Host σ) (settings : Settings) (source : LineSource ι)
    (s : Shell σ ι) : s.Becomes (step host settings source s).shell := by
  rw [step_eq]
  refine Action.becomes_bind (Action.becomes_write .out ['\n'] s) fun _ s => ?_
  refine Action.becomes_bind (Action.becomes_flush s) fun _ s => ?_
  refine Action.becomes_bind (becomes_readLine source s) fun result s => ?_
  exact ((assembled_answer host settings result).regular s).rooms

/-- What any number of steps makes of the streams is what their calls make of them. -/
lemma becomes_steps (host : Host σ) (settings : Settings) (source : LineSource ι) (n : ℕ)
    (s : Shell σ ι) : s.Becomes (steps host settings source n s).shell := by
  induction n generalizing s with
  | zero => exact .of_eq rfl rfl
  | succ n ih =>
    cases hleaving : s.session.leaving with
    | true =>
      rw [steps_of_leaving host settings source _ hleaving]
      exact .of_eq rfl rfl
    | false =>
      rw [steps_succ host settings source n hleaving]
      exact Action.becomes_bind (becomes_step host settings source s) fun _ s => ih s

/-! ## The account that events give

The events of a run tell what has become of its session and of its input, whatever the streams are
and wherever the run ends: the session is what the reported changes make of it, and the input
is what as many reads leave of it as were reported.  `accounted_run` says so for the plain source of
lines.
-/

variable {ε : Type}

/-- The events of an outcome account for the session and for the input that it leaves. -/
structure Accounted (s : Shell σ Feed) (o : Outcome σ Feed ε α) : Prop where
  session : o.shell.session = Event.replay s.session o.events
  source : o.shell.source = s.source.after (Event.consultations o.events)

namespace Accounted

variable {s : Shell σ Feed}

/-- One account continues another. -/
lemma append {x : Outcome σ Feed ε α} {y : Outcome σ Feed ε β} (hx : Accounted s x)
    (hy : Accounted x.shell y) : Accounted s (y.after x.events) where
  session := by
    rw [Outcome.after_shell, Outcome.after_events, Event.replay_append, ← hx.session, hy.session]
  source := by
    rw [Outcome.after_shell, Outcome.after_events, Event.consultations_append, Feed.after_add,
      ← hx.source, hy.source]

/-- Actions done one after the other are accounted for if each of them is. -/
lemma bind {x : Action σ Feed ε α} {f : α → Action σ Feed ε β} (hx : ∀ s, Accounted s (x s))
    (hf : ∀ a s, Accounted s (f a s)) (s : Shell σ Feed) : Accounted s ((x >>= f) s) := by
  rw [Action.bind_apply]
  cases (x s).result with
  | ok a => exact (hx s).append (hf a _)
  | error e => exact ⟨(hx s).session, (hx s).source⟩

end Accounted

/-- An assembled action is accounted for: its changes are reported, and it reads nothing. -/
lemma Assembled.accounted {can : Move → Prop} {x : Action σ Feed IoError α} (hx : Assembled can x)
    (s : Shell σ Feed) : Accounted s (x s) := by
  have hregular := hx.regular s
  refine ⟨hregular.session, ?_⟩
  rw [hregular.source, Event.consultations_eq_zero hregular.events, Feed.after]

/-- A read is accounted for: it is reported, unless the prompt is refused or cannot be flushed. -/
lemma accounted_readLine (s : Shell σ Feed) :
    Accounted s (Action.readLine LineSource.plain s : Outcome σ Feed ε ReadResult) := by
  rcases Action.readLine_plain_cases ε s with
    ⟨room, -, hread⟩ | ⟨e, room, bytes, last, -, rfl | rfl, hread⟩ <;> rw [hread]
  · exact ⟨rfl, rfl⟩
  · exact ⟨rfl, rfl⟩
  · exact ⟨rfl, rfl⟩

/-- A step is accounted for. -/
lemma accounted_step (host : Host σ) (settings : Settings) (s : Shell σ Feed) :
    Accounted s (step host settings .plain s) := by
  have hbegin : Assembled (· = .prints .out)
      (Action.write .out ['\n'] : Action σ Feed IoError Unit) := .write _ rfl
  have hflush : Assembled (· = .flushes) (Action.flush : Action σ Feed IoError Unit) := .flush rfl
  refine Accounted.bind hbegin.accounted (fun _ => ?_) s
  refine Accounted.bind hflush.accounted fun _ => ?_
  exact Accounted.bind accounted_readLine fun result =>
    (assembled_answer host settings result).accounted

/-- Any number of steps are accounted for. -/
lemma accounted_steps (host : Host σ) (settings : Settings) (n : ℕ) (s : Shell σ Feed) :
    Accounted s (steps host settings .plain n s) := by
  induction n generalizing s with
  | zero => exact ⟨rfl, rfl⟩
  | succ n ih =>
    cases hleaving : s.session.leaving with
    | true =>
      rw [steps_of_leaving host settings .plain _ hleaving]
      exact ⟨rfl, rfl⟩
    | false =>
      rw [steps_succ host settings .plain n hleaving]
      exact Accounted.bind (accounted_step host settings) (fun _ => ih) s

/-- **The events account for a run**, whatever the streams are: for the session that it leaves and
for the input that it leaves. -/
theorem accounted_run (host : Host σ) (settings : Settings) (n : ℕ) (s : Shell σ Feed) :
    Accounted s (run host settings .plain n s) := by
  refine Accounted.bind (fun _ => ⟨rfl, rfl⟩) (fun session => ?_) s
  refine Accounted.bind (fun _ => ⟨rfl, rfl⟩) fun _ => ?_
  refine Accounted.bind (accounted_steps host settings n) fun progress s => ?_
  cases progress with
  | finished => exact ⟨rfl, rfl⟩
  | unfinished => exact ⟨rfl, rfl⟩

end LineShell
