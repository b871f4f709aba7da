import LineShell.Proofs.Stepping

/-!
# Output is flushed before control leaves the shell

A standard output may hold back what the shell writes until it is flushed, while a delegated command
writes to the same stream on its own, past what is held back.  `Terminal` is what somebody sees
behind such an output: the bytes that have appeared, each with its origin, and the bytes that are
held back.

Control leaves the shell where its source looks at the input and where a delegated command runs.
`Event.Carries` says of some events that nothing is held back wherever control leaves, and it says
what is known about the bytes held back before and after them.  Such facts are put together like the
events themselves, so each part of a step has one.  A command that hands nothing over may leave
bytes behind, and a command that prints nothing leaves none; only a timed command does both, and it
prints after its text was handed over.  The main statement is `keepStepping_flushed`.
-/

namespace LineShell

variable {σ ι α β : Type}

/-! ## What appears behind an output that holds bytes back -/

/-- A byte that has appeared on a stream, written by the shell itself or by a delegated command. -/
structure Mark where
  own : Bool
  stream : Stream
  byte : UInt8
deriving DecidableEq, Repr

/-- What is seen behind a standard output that holds bytes back until it is flushed. -/
structure Terminal where
  /-- The bytes that have appeared, in order. -/
  shown : List Mark
  /-- The bytes of the shell that are held back. -/
  held : List UInt8
deriving DecidableEq, Repr

namespace Event

/-- Control is outside the shell: its input is looked at, or a delegated command runs. -/
def Leaves : Event → Prop
  | .consulted => True
  | .ran _ _ => True
  | .printed _ _ => True
  | _ => False

/-- What a delegated command itself writes. -/
def marks : Event → List Mark
  | .printed stream bytes => bytes.map (Mark.mk false stream)
  | _ => []

end Event

namespace Terminal

/-- Nothing has appeared yet, and nothing is held back. -/
def blank : Terminal := ⟨[], []⟩

/-- What one event makes of a terminal.  What the shell writes to standard output is held back until
the next flush; what it writes to standard error, and what delegated commands write, appears at
once. -/
def take (t : Terminal) : Event → Terminal
  | .wrote .out bytes => { t with held := t.held ++ bytes }
  | .wrote .err bytes => { t with shown := t.shown ++ bytes.map (Mark.mk true .err) }
  | .flushed => ⟨t.shown ++ t.held.map (Mark.mk true .out), []⟩
  | .printed stream bytes => { t with shown := t.shown ++ bytes.map (Mark.mk false stream) }
  | _ => t

/-- What events make of a terminal, one after the other. -/
def after (t : Terminal) (events : List Event) : Terminal :=
  events.foldl take t

/-- The bytes of the shell that have appeared on a stream. -/
def own (t : Terminal) (stream : Stream) : List UInt8 :=
  (t.shown.filter fun mark => mark.own && mark.stream = stream).map Mark.byte

/-- Wherever control leaves the shell among the events, nothing is held back. -/
def Heeds : Terminal → List Event → Prop
  | _, [] => True
  | t, e :: events => (e.Leaves → t.held = []) ∧ (t.take e).Heeds events

variable {t : Terminal} {es fs : List Event}

@[simp]
lemma after_nil (t : Terminal) : t.after [] = t := rfl

@[simp]
lemma after_cons (t : Terminal) (e : Event) (es : List Event) :
    t.after (e :: es) = (t.take e).after es := rfl

@[simp]
lemma after_append (t : Terminal) (es fs : List Event) :
    t.after (es ++ fs) = (t.after es).after fs :=
  List.foldl_append

/-- Events after others are heeded where those leave off. -/
lemma heeds_append : t.Heeds (es ++ fs) ↔ t.Heeds es ∧ (t.after es).Heeds fs := by
  induction es generalizing t with
  | nil => simp [Heeds]
  | cons e es ih => rw [List.cons_append, Heeds, Heeds, after_cons, ih, and_assoc]

/-- A terminal that has shown something goes on as one that has shown nothing yet. -/
lemma after_eq (t : Terminal) (events : List Event) :
    t.after events = ⟨t.shown ++ (after ⟨[], t.held⟩ events).shown,
      (after ⟨[], t.held⟩ events).held⟩ := by
  induction events generalizing t with
  | nil => simp
  | cons e events ih =>
    rw [after_cons, after_cons, ih (t.take e), ih (take ⟨[], t.held⟩ e)]
    cases e with
    | wrote stream bytes => cases stream <;> simp [take]
    | _ => simp [take]

/-- What the shell has written has appeared, or is held back, in the order in which it was
written. -/
lemma own_after (events : List Event) (t : Terminal) :
    (t.after events).own .out ++ (t.after events).held =
        t.own .out ++ t.held ++ Event.written .out events ∧
      (t.after events).own .err = t.own .err ++ Event.written .err events := by
  induction events generalizing t with
  | nil => simp [Event.written]
  | cons e events ih =>
    obtain ⟨hout, herr⟩ := ih (t.take e)
    rw [after_cons, hout, herr]
    have hmarks : ∀ (own : Bool) (stream stream' : Stream) (bytes : List UInt8),
        ((bytes.map (Mark.mk own stream)).filter fun mark =>
          mark.own && mark.stream = stream').map Mark.byte =
            if own ∧ stream = stream' then bytes else [] := by
      intro own stream stream' bytes
      induction bytes with
      | nil => simp
      | cons b bytes ih => cases own <;> cases stream <;> cases stream' <;> simp_all
    cases e with
    | wrote stream bytes => cases stream <;> simp [take, own, Event.written, hmarks]
    | printed stream bytes => cases stream <;> simp [take, own, Event.written, hmarks]
    | _ => simp [take, own, Event.written, hmarks]

/-- Where nothing is held back, what the shell has written has appeared. -/
lemma own_eq_written {events : List Event} (h : (blank.after events).held = []) (stream : Stream) :
    (blank.after events).own stream = Event.written stream events := by
  obtain ⟨hout, herr⟩ := own_after events blank
  cases stream with
  | out =>
    rw [h, List.append_nil] at hout
    exact hout
  | err => exact herr

/-- Where control leaves the shell and nothing is held back, what comes later appears after all
that has appeared before. -/
lemma Heeds.after_eq {before rest : List Event} {e : Event} (h : t.Heeds (before ++ e :: rest))
    (he : e.Leaves) :
    (t.after before).held = [] ∧
      t.after (before ++ e :: rest) =
        ⟨(t.after before).shown ++ e.marks ++ (blank.after rest).shown,
          (blank.after rest).held⟩ := by
  have hheld := (heeds_append.mp h).2.1 he
  refine ⟨hheld, ?_⟩
  have htake : (t.after before).take e = ⟨(t.after before).shown ++ e.marks, []⟩ := by
    rw [← hheld]
    cases e with
    | wrote _ _ => exact he.elim
    | flushed => exact he.elim
    | printed _ _ => rfl
    | _ => simp [take, Event.marks]
  rw [after_append, after_cons, htake, Terminal.after_eq]
  rfl

end Terminal

/-! ## What events leave held back -/

/-- Nothing is held back. -/
def NoneHeld (held : List UInt8) : Prop := held = []

/-- Some bytes may be held back. -/
def AnyHeld (_ : List UInt8) : Prop := True

/-- If what is held back before the events is as `p` says, nothing is held back wherever control
leaves the shell, and what is held back after them is as `q` says. -/
def Event.Carries (p q : List UInt8 → Prop) (events : List Event) : Prop :=
  ∀ t : Terminal, p t.held → t.Heeds events ∧ q (t.after events).held

namespace Event.Carries

variable {p q r : List UInt8 → Prop} {es fs : List Event}

/-- No events carry over what is held back. -/
lemma nil : Carries p p [] :=
  fun _ ht => ⟨trivial, ht⟩

/-- Events go on where others leave off. -/
lemma append (h : Carries p q es) (h' : Carries q r fs) : Carries p r (es ++ fs) := by
  intro t ht
  obtain ⟨hes, hq⟩ := h t ht
  obtain ⟨hfs, hr⟩ := h' _ hq
  exact ⟨Terminal.heeds_append.mpr ⟨hes, hfs⟩, by rwa [Terminal.after_append]⟩

/-- Less may be known of what is held back in the end. -/
lemma weaken (h : Carries p q es) : Carries p AnyHeld es :=
  fun t ht => ⟨(h t ht).1, trivial⟩

/-- More may be known of what is held back at first. -/
lemma strengthen (h : Carries AnyHeld q es) : Carries p q es :=
  fun t _ => h t trivial

/-- Where the shell writes nothing to standard output, nothing comes to be held back. -/
lemma of_unwritten (h : ∀ e ∈ es, ∀ bytes, e ≠ .wrote .out bytes) :
    Carries NoneHeld NoneHeld es := by
  induction es with
  | nil => exact nil
  | cons e es ih =>
    obtain ⟨he, hes⟩ := List.forall_mem_cons.mp h
    intro t ht
    have hheld : (t.take e).held = [] := by
      cases e with
      | wrote stream bytes =>
        cases stream with
        | out => exact absurd rfl (he bytes)
        | err => exact ht
      | flushed => rfl
      | _ => exact ht
    obtain ⟨hheeds, hafter⟩ := ih hes (t.take e) hheld
    exact ⟨⟨fun _ => ht, hheeds⟩, hafter⟩

/-- An event during which control does not leave the shell may come first. -/
lemma cons {e : Event} (he : ¬ e.Leaves) (h : Carries AnyHeld q es) :
    Carries AnyHeld q (e :: es) := by
  intro t _
  obtain ⟨hheeds, hafter⟩ := h (t.take e) trivial
  exact ⟨⟨fun hleaves => absurd hleaves he, hheeds⟩, hafter⟩

/-- A flush leaves nothing held back for what comes after it. -/
lemma flush (h : Carries NoneHeld q es) : Carries AnyHeld q (.flushed :: es) := by
  intro t _
  obtain ⟨hheeds, hafter⟩ := h (t.take .flushed) rfl
  exact ⟨⟨False.elim, hheeds⟩, hafter⟩

/-- Where control does not leave the shell, it does not matter what is held back. -/
lemma of_staying (h : ∀ e ∈ es, ¬ e.Leaves) : Carries AnyHeld AnyHeld es := by
  induction es with
  | nil => exact nil
  | cons e es ih =>
    obtain ⟨he, hes⟩ := List.forall_mem_cons.mp h
    exact cons he (ih hes)

end Event.Carries

/-! ## Commands -/

/-- A command that hands nothing over does not let control leave the shell. -/
lemma Composed.staying {can : Move → Prop} {x : Action σ ι Fault α} (hx : Composed can x)
    (h : ∀ text, ¬ can (.hands text)) (s : Shell σ ι) : ∀ e ∈ (x s).events, ¬ e.Leaves := by
  induction hx generalizing s with
  | bind _ _ ihx ihf =>
    rename_i x f _ _
    rw [Action.bind_apply]
    cases (x s).result with
    | error e => exact ihx s
    | ok a =>
      intro e he
      rcases List.mem_append.mp he with he | he
      · exact ihx s e he
      · exact ihf a _ e he
  | @print stream text hm =>
    rcases Action.print_cases stream text s with ⟨-, hprint⟩ | ⟨e, -, hprint⟩ <;>
      simp [hprint, Event.Leaves]
  | drain hm =>
    rcases Action.drain_cases s with ⟨-, hdrain⟩ | ⟨e, -, hdrain⟩ <;> simp [hdrain, Event.Leaves]
  | hand host hm => exact absurd hm (h _)
  | _ => simp [Event.Leaves]

/-- A command that prints nothing on standard output leaves nothing held back. -/
lemma Composed.carries {can : Move → Prop} {x : Action σ ι Fault α} (hx : Composed can x)
    (h : ¬ can (.prints .out)) (s : Shell σ ι) : Event.Carries NoneHeld NoneHeld (x s).events := by
  refine .of_unwritten fun e he bytes hwrote => h ?_
  have hallowed := (hx.effect s).events e he
  rw [hwrote] at hallowed
  exact hallowed

/-- What one action after another leaves held back. -/
lemma carries_bind {p q : List UInt8 → Prop} {x : Action σ ι Fault α} {f : α → Action σ ι Fault β}
    (hx : ∀ s, Event.Carries p q (x s).events)
    (hf : ∀ a s, Event.Carries q AnyHeld (f a s).events) (s : Shell σ ι) :
    Event.Carries p AnyHeld ((x >>= f) s).events := by
  rw [Action.bind_apply]
  cases (x s).result with
  | ok a => exact (hx s).append (hf a _)
  | error e => exact (hx s).weaken

/-- What is done with nothing held back and without handing over may leave bytes behind. -/
lemma Composed.carries_staying {can : Move → Prop} {x : Action σ ι Fault α} (hx : Composed can x)
    (h : ∀ text, ¬ can (.hands text)) (s : Shell σ ι) :
    Event.Carries NoneHeld AnyHeld (x s).events :=
  (Event.Carries.of_staying (hx.staying h s)).strengthen

/-- A timed command hands its text over before it prints. -/
lemma carries_time (host : Host σ) (text : Text) (s : Shell σ ι) :
    Event.Carries NoneHeld AnyHeld (Builtin.time host text s).events := by
  have hhand : Composed (· = .hands text) (Action.hand host text : Action σ ι Fault RunOutcome) :=
    .hand host rfl
  refine carries_bind (q := NoneHeld) (fun s => .nil) (fun start => carries_bind (q := NoneHeld)
    (hhand.carries (by rintro ⟨⟩)) ?_) s
  intro outcome
  let can : Move → Prop := fun m => m = .prints .out ∨ m = .raises .notRun
  have hstays : ∀ t, ¬ can (.hands t) := by
    rintro t (h | h) <;> cases h
  refine Composed.carries_staying (?_ : Composed can _) hstays
  refine .bind (.ask _) fun finish => .bind (.print _ (Or.inl rfl)) fun _ => ?_
  cases outcome with
  | ok code => exact .bind (.note _) fun _ => .value 0
  | error e => exact .bind (.note _) fun _ => .fail (Or.inr rfl)

/-- A command that is no recall, begun with nothing held back, lets control leave the shell only
while nothing is held back. -/
lemma carries_performHere (host : Host σ) {c : Command} (hc : ¬ c.IsRecall) (s : Shell σ ι) :
    Event.Carries NoneHeld AnyHeld (performHere host c s).events := by
  have hcomposed : Composed c.Does (performHere host c : Action σ ι Fault ExitCode) :=
    composed_performHere host hc
  by_cases htime : c.verb = .time
  · have hperform : performHere host c s =
        (Builtin.time host (Command.joined c.arguments) s).after
          [.noted (.builtinBegins c.base)] := by
      unfold performHere perform
      rw [htime]
      rfl
    have hnote : Event.Carries NoneHeld NoneHeld [.noted (.builtinBegins c.base)] :=
      .of_unwritten (by simp)
    rw [hperform]
    exact hnote.append (carries_time host _ s)
  · -- Any other command either hands nothing over or prints nothing.
    by_cases hhands : ∃ text, c.Does (.hands text)
    · obtain ⟨text, hdoes⟩ := hhands
      refine (hcomposed.carries (fun hprints => ?_) s).weaken
      rcases hdoes.hands with ⟨hverb, -⟩ | ⟨hverb, -⟩ | ⟨hverb, -⟩
      · exact htime hverb
      · simp [Command.Does, hverb] at hprints
      · simp [Command.Does, hverb] at hprints
    · exact hcomposed.carries_staying (fun text hdoes => hhands ⟨text, hdoes⟩) s

/-! ## Steps -/

/-- Entries that are passed are flushed one by one. -/
lemma carries_passing (depth : ℕ) (entries : List (ℤ × Text)) :
    Event.Carries NoneHeld NoneHeld (passing depth entries) := by
  induction entries generalizing depth with
  | nil => exact .nil
  | cons entry entries ih =>
    have hshown : Event.Carries AnyHeld NoneHeld (passing depth [entry]) :=
      .cons not_false (.cons not_false (.flush .nil))
    exact hshown.strengthen.append (ih (depth + 1))

/-- A command, recalls and all, lets control leave the shell only while nothing is held back. -/
lemma carries_dispatch (host : Host σ) (settings : Settings) {s : Shell σ ι} (hout : s.out = none)
    (c : Command) :
    Event.Carries NoneHeld AnyHeld (dispatch host settings c s).events := by
  rcases hresolve : c.resolve s.session.history settings.recallDepth settings.recallDepth with
    ⟨entries, f | c'⟩
  · rw [dispatch_of_resolve_error host settings hout hresolve]
    exact (carries_passing 0 entries).weaken
  · obtain ⟨hc', hdispatch⟩ := dispatch_of_resolve_here host settings hout hresolve
    rw [hdispatch]
    exact (carries_passing 0 entries).append (carries_performHere host hc' s)

/-- A step flushes what it writes before its read. -/
lemma carries_opening (session : Session) : Event.Carries AnyHeld NoneHeld (opening session) := by
  have hline : Event.Carries AnyHeld NoneHeld [.wrote .out (Utf8.encode ['\n']), .flushed] :=
    .cons not_false (.flush .nil)
  have hprompt : Event.Carries AnyHeld NoneHeld
      [.wrote .out (Utf8.encode session.prompt), .flushed, .consulted] :=
    .cons not_false (.flush (.of_unwritten (by simp)))
  exact hline.append hprompt.strengthen

/-- A step flushes its echo before it carries out its line. -/
lemma carries_accepting (session : Session) (line : Text) :
    Event.Carries NoneHeld NoneHeld (accepting session line) := by
  have hecho : Event.Carries NoneHeld AnyHeld
      (.noted (.parsed (Command.parse line).base (Command.parse line).arguments) ::
        echoing session line) := by
    refine (Event.Carries.of_staying ?_).strengthen
    unfold echoing
    split_ifs <;> simp [Event.Leaves]
  exact hecho.append (.flush (.of_unwritten (by simp)))

/-- A step flushes what its command has written. -/
lemma carries_settling (result : Except Fault ExitCode) :
    Event.Carries AnyHeld NoneHeld (settling result) := by
  cases result with
  | ok code => exact .flush .nil
  | error f => exact .cons not_false (.cons not_false (.flush .nil))

/-- **A step leaves nothing held back**, and lets control leave the shell only while nothing is. -/
lemma carries_step (host : Host σ) (settings : Settings) {s : Shell σ Feed} (hs : s.Unlimited) :
    Event.Carries AnyHeld NoneHeld (step host settings .plain s).events := by
  rcases Feed.givenLine_cases s.source.next.1 with hnone | ⟨line, hline, -⟩
  · rcases step_of_no_line host settings hs hnone with hstep | ⟨record, hstep⟩ <;> rw [hstep]
    · exact (carries_opening s.session).append (.of_unwritten (by simp))
    · exact (carries_opening s.session).append (.of_unwritten (by simp))
  · rw [step_of_line host settings hs hline]
    have hdispatch := carries_dispatch host settings (hs.advance.record line).out
      (Command.parse line)
    exact (((carries_opening s.session).append (carries_accepting s.session line)).append
      hdispatch).append (carries_settling _)

/-- Steps one after the other leave nothing held back. -/
lemma carries_keepStepping (host : Host σ) (settings : Settings) (n : ℕ) {s : Shell σ Feed}
    (hs : s.Unlimited) :
    Event.Carries NoneHeld NoneHeld (keepStepping host settings .plain n s).events := by
  induction n generalizing s with
  | zero => exact .nil
  | succ n ih =>
    rw [keepStepping_succ]
    have hturn := turn_step host settings hs
    exact (carries_step host settings hs).strengthen.append (ih hturn.unlimited)

/-- Wherever control leaves the shell among the events, all that the shell has written before has
appeared, and all that it writes later appears later; and nothing is held back in the end. -/
structure Event.Flushed (events : List Event) : Prop where
  /-- Nothing is held back after the last event. -/
  held_end : (Terminal.blank.after events).held = []
  /-- Nothing is held back where control leaves the shell. -/
  held : ∀ before e rest, events = before ++ e :: rest → e.Leaves →
    (Terminal.blank.after before).held = []
  /-- What the shell has written before has appeared there, and it makes up what appears first. -/
  order : ∀ before e rest, events = before ++ e :: rest → e.Leaves →
    (∀ stream, (Terminal.blank.after before).own stream = Event.written stream before) ∧
      (∀ stream, (Terminal.blank.after rest).own stream = Event.written stream rest) ∧
      (Terminal.blank.after events).shown =
        (Terminal.blank.after before).shown ++ e.marks ++ (Terminal.blank.after rest).shown

/-- Events that carry nothing over are flushed. -/
lemma Event.Carries.flushes {events : List Event} (h : Carries NoneHeld NoneHeld events) :
    Flushed events := by
  obtain ⟨hheeds, hend⟩ := h .blank rfl
  refine ⟨hend, ?_, ?_⟩
  · rintro before e rest rfl he
    exact (hheeds.after_eq he).1
  · rintro before e rest rfl he
    obtain ⟨hheld, hafter⟩ := hheeds.after_eq he
    have hrest : (Terminal.blank.after rest).held = [] := by
      rw [hafter] at hend
      exact hend
    rw [hafter]
    exact ⟨Terminal.own_eq_written hheld, Terminal.own_eq_written hrest, rfl⟩

/-- **Output is flushed before control leaves the shell.**  Take any number of steps over streams
that take everything, one after the other or in a run, and let standard output hold back what is
written to it until it is flushed.  Wherever the input is looked at and wherever a command is handed
over, nothing is held back, and nothing is when the steps are done.  So what a delegated command
writes appears after all that the shell has written before, and before all that it writes later. -/
theorem keepStepping_flushed (host : Host σ) (settings : Settings) {s : Shell σ Feed}
    (hs : s.Unlimited) (n : ℕ) :
    Event.Flushed (keepStepping host settings .plain n s).events ∧
      Event.Flushed (run host settings .plain n s).events := by
  refine ⟨(carries_keepStepping host settings n hs).flushes, ?_⟩
  obtain ⟨m, -, -, hevents⟩ := exists_run_eq_keepStepping host settings .plain n s
  have hclosing : Event.Carries NoneHeld NoneHeld (closing (steps host settings .plain n s)) := by
    refine .of_unwritten ?_
    unfold closing
    split <;> simp
  have hstarted : Event.Carries NoneHeld NoneHeld
      [.noted (.sessionStarted s.session.user settings)] := .of_unwritten (by simp)
  rw [hevents]
  exact ((hstarted.append (carries_keepStepping host settings m hs)).append hclosing).flushes

/-- A timed command behind two recalls, on a host whose commands write a letter each.  The echo and
the recalled lines have appeared when it runs, and the time it took appears after its letter. -/
theorem keepStepping_flushed_recalled :
    let host : Host Unit := { Host.idle with run := fun _ s => (⟨.ok 0, [(.out, [0x78])]⟩, s) }
    let s : Shell Unit Feed :=
      { session := Session.start Settings.standard ⟨["time ls\n".toList, "!1\n".toList]⟩ none,
        host := (), source := [.chunk (Utf8.encode "!2\n".toList)], out := none, err := none }
    let events := (keepStepping host Settings.standard .plain 1 s).events
    let first := Utf8.encode "\n[] $ COMMAND: !2\n!1\ntime ls\n".toList
    let last := Utf8.encode "\nELAPSED: 0us\n".toList
    s.Unlimited ∧ ∃ e, events = events.take 18 ++ e :: events.drop 19 ∧ e.Leaves ∧
      (Terminal.blank.after (events.take 18)).held = [] ∧
      (Terminal.blank.after events).shown = first.map (Mark.mk true .out) ++
        [⟨false, .out, 0x78⟩] ++ last.map (Mark.mk true .out) := by
  intro host s events first last
  have hs : s.Unlimited := ⟨rfl, rfl⟩
  -- The letter is the event after the first eighteen.
  have hletter : events[18]?.map Event.marks = some [⟨false, .out, 0x78⟩] := by decide +kernel
  obtain ⟨e, he, hmarks⟩ := Option.map_eq_some_iff.mp hletter
  have hleaves : e.Leaves := by
    cases e with
    | printed _ _ => trivial
    | _ => cases hmarks
  have hsplit : events = events.take 18 ++ e :: events.drop 19 := by
    obtain ⟨hlt, hget⟩ := List.getElem?_eq_some_iff.mp he
    rw [← hget, List.getElem_cons_drop, List.take_append_drop]
  obtain ⟨⟨-, hheld, horder⟩, -⟩ := keepStepping_flushed host Settings.standard hs 1
  obtain ⟨-, -, hshown⟩ := horder _ _ _ hsplit hleaves
  have hfirst : (Terminal.blank.after (events.take 18)).shown =
      first.map (Mark.mk true .out) := by decide +kernel
  have hlast : (Terminal.blank.after (events.drop 19)).shown =
      last.map (Mark.mk true .out) := by decide +kernel
  rw [hfirst, hlast, hmarks] at hshown
  exact ⟨hs, e, hsplit, hleaves, hheld _ _ _ hsplit hleaves, hshown⟩

end LineShell
