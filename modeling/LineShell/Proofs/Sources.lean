import LineShell.Proofs.Composed
import LineShell.Proofs.Reading

/-!
# Steps over any source of lines

A step takes a line and obeys it, and obeying a line has parts that are done one after the other
(`obey_apply`): the echo, the record, the dispatch and the report of a fault.

A source is asked for a line with the prompt of the session, and what it does then is a dialogue
with standard output and its input.  Over a standard output that takes everything this comes to one
outcome for each prompt and state of the source, `LineSource.next`, and to a step it matters only
through that: through the result, the state that the source is left in, and the bytes that it has
written, which are its way to show the prompt.

Over streams that take everything, a step that is given a line records and dispatches it
(`step_of_next_line`), and any other step does what `declining` says (`step_of_no_read`).
-/

namespace LineShell

variable {σ ι : Type}

/-! ## What a read may do -/

/-- What a read makes of the room of standard output. -/
lemma Reading.becomes_perform (r : Reading ι) (room : Room) :
    room.Becomes (r.perform room).room := by
  induction r generalizing room with
  | done result source => exact .refl room
  | write text next ih => exact (room.becomes_offer _).trans (ih _ _)
  | flush next ih => exact room.becomes_flush.trans (ih _ _)
  | consult next ih => exact ih room

/-- A source that writes to a standard output that takes everything leaves it as it is. -/
lemma Reading.room_perform (r : Reading ι) : (r.perform none).room = none :=
  (r.becomes_perform none).eq_none

/-- The event concerns standard output or the input. -/
def Event.OfRead : Event → Prop
  | .wrote stream _ => stream = .out
  | .refused stream => stream = .out
  | .flushed => True
  | .unflushed => True
  | .consulted => True
  | _ => False

/-- A write to standard output concerns that. -/
lemma Event.ofRead_ofWrite (answer : Room.Answer) : ∀ e ∈ ofWrite .out answer, e.OfRead := by
  rcases answer with ⟨taken, _ | _, left⟩ <;> simp [ofWrite, OfRead]

/-- A flush concerns standard output. -/
lemma Event.ofRead_ofFlush (answer : Room.Answer) : (ofFlush answer).OfRead := by
  rcases answer with ⟨taken, _ | _, left⟩ <;> trivial

/-- A read only writes to standard output, flushes it and looks at the input. -/
lemma Reading.ofRead_perform (r : Reading ι) (room : Room) :
    ∀ e ∈ (r.perform room).events, e.OfRead := by
  induction r generalizing room with
  | done result source => exact fun e he => absurd he List.not_mem_nil
  | write text next ih =>
    intro e he
    rcases List.mem_append.mp he with he | he
    · exact Event.ofRead_ofWrite _ e he
    · exact ih _ _ e he
  | flush next ih =>
    intro e he
    rcases List.mem_append.mp he with he | he
    · rw [List.mem_singleton.mp he]
      exact Event.ofRead_ofFlush _
    · exact ih _ _ e he
  | consult next ih =>
    intro e he
    rcases List.mem_append.mp he with he | he
    · rw [List.mem_singleton.mp he]
      trivial
    · exact ih _ e he

namespace LineSource

/-- What comes of a read over a standard output that takes everything. -/
def next (source : LineSource ι) (prompt : Text) (i : ι) : Reading.Outcome ι :=
  (source.read prompt i).perform none

/-- The lines that a number of reads give, in order. -/
def lines (source : LineSource ι) (prompt : Text) : ℕ → ι → List Text
  | 0, _ => []
  | n + 1, i =>
    Feed.givenLine (source.next prompt i).result ++
      lines source prompt n (source.next prompt i).source

/-- The results of reads one after the other, each with a prompt of its own. -/
def results (source : LineSource ι) : List Text → ι → List ReadResult
  | [], _ => []
  | prompt :: prompts, i =>
    (source.next prompt i).result :: results source prompts (source.next prompt i).source

/-- What reads one after the other leave of a source, each with a prompt of its own. -/
def after (source : LineSource ι) : List Text → ι → ι
  | [], i => i
  | prompt :: prompts, i => after source prompts (source.next prompt i).source

/-- Two prompts get the same input from the source: the same results, one after the other. -/
def Agrees (source : LineSource ι) (prompt prompt' : Text) : Prop :=
  ∀ i, (source.next prompt i).result = (source.next prompt' i).result ∧
    (source.next prompt i).source = (source.next prompt' i).source

/-- Each read has a result. -/
@[simp]
lemma length_results (source : LineSource ι) (prompts : List Text) (i : ι) :
    (source.results prompts i).length = prompts.length := by
  induction prompts generalizing i with
  | nil => rfl
  | cons prompt prompts ih => rw [results, List.length_cons, ih, List.length_cons]

/-- The plain source takes the next line from its input whatever the prompt is. -/
lemma next_plain (prompt : Text) (feed : Feed) :
    plain.next prompt feed =
      ⟨feed.next.1, feed.next.2, none, [.wrote .out (Utf8.encode prompt), .flushed, .consulted]⟩ :=
  rfl

/-- The plain source gives the reads of its input, one for each prompt. -/
lemma results_plain (prompts : List Text) (feed : Feed) :
    plain.results prompts feed = feed.results prompts.length := by
  induction prompts generalizing feed with
  | nil => rfl
  | cons prompt prompts ih =>
    rw [results, ih, next_plain]
    rfl

/-- The plain source is left with what its reads leave of its input, one for each prompt. -/
lemma after_plain (prompts : List Text) (feed : Feed) :
    plain.after prompts feed = feed.after prompts.length := by
  induction prompts generalizing feed with
  | nil => rfl
  | cons prompt prompts ih =>
    rw [after, ih, next_plain]
    rfl

/-- The plain source gives every prompt the same input. -/
lemma agrees_plain (prompt prompt' : Text) : plain.Agrees prompt prompt' :=
  fun _ => ⟨rfl, rfl⟩

/-- Prompts that get the same input get the same lines. -/
lemma Agrees.lines_eq {source : LineSource ι} {prompt prompt' : Text}
    (h : source.Agrees prompt prompt') (n : ℕ) (i : ι) :
    source.lines prompt n i = source.lines prompt' n i := by
  induction n generalizing i with
  | zero => rfl
  | succ n ih =>
    obtain ⟨hresult, hsource⟩ := h i
    rw [lines, lines, hresult, hsource, ih]

section
variable (source : LineSource ι) (prompt : Text) (i : ι)

/-- A read hands nothing to the system shell. -/
lemma runs_next : Event.runs (source.next prompt i).events = [] := by
  refine List.filterMap_eq_nil_iff.mpr fun e he => ?_
  have hread := Reading.ofRead_perform _ _ e he
  cases e <;> first | rfl | exact hread.elim

/-- A read alters nothing in the session. -/
lemma changes_next : Event.changes (source.next prompt i).events = [] := by
  refine List.filterMap_eq_nil_iff.mpr fun e he => ?_
  have hread := Reading.ofRead_perform _ _ e he
  cases e <;> first | rfl | exact hread.elim

/-- A read writes nothing to standard error. -/
lemma written_err_next : Event.written .err (source.next prompt i).events = [] := by
  refine List.flatMap_eq_nil_iff.mpr fun e he => ?_
  have hread := Reading.ofRead_perform _ _ e he
  cases e with
  | wrote stream bytes =>
    have hout : stream = .out := hread
    rw [hout]
    rfl
  | _ => rfl

end

end LineSource

/-! ## The parts of a step -/

/-- A step starts a new line, reads a line, and answers to what it has read. -/
lemma step_eq (host : Host σ) (settings : Settings) (source : LineSource ι) :
    step host settings source = (Action.write .out ['\n'] >>= fun _ => Action.flush >>= fun _ =>
      Action.readLine source >>= answer host settings) := rfl

/-- Echoes a line, in a session that wants it, and flushes the echo. -/
def echoLine (line : Text) : Action σ ι IoError Unit := do
  let session ← Action.session
  if session.echo then Action.write .out (echoMark ++ line)
  Action.flush

/-- Ends a step after its line was dispatched: a fault is reported. -/
def settle : Except Fault ExitCode → Action σ ι IoError Unit
  | .ok _ => Action.flush
  | .error f => do
    Action.note (.failed f)
    report f
    Action.flush

/-- Records a line and carries it out. -/
def enterLine (host : Host σ) (settings : Settings) (line : Text) : Action σ ι IoError Unit := do
  Action.change (.record line)
  let result ← Action.attempt (dispatch host settings (Command.parse line))
  settle result

/-- An echo is written if the session wants it, and flushed. -/
lemma echoLine_apply (line : Text) (s : Shell σ ι) :
    echoLine line s =
      if s.session.echo then (Action.write .out (echoMark ++ line) >>= fun _ => Action.flush) s
      else Action.flush s := by
  unfold echoLine
  rw [Action.bind_apply, Action.session_apply]
  simp only [Outcome.after_nil]
  split_ifs <;> rfl

/-- Obeying a line is to echo it and then to record it and carry it out. -/
lemma obey_apply (host : Host σ) (settings : Settings) (line : Text) (s : Shell σ ι) :
    obey host settings line s =
      ((echoLine line >>= fun _ => enterLine host settings line) s).after
        [.noted (.parsed (Command.parse line).base (Command.parse line).arguments)] := by
  have hobey : (obey host settings line : Action σ ι IoError Unit) =
      Action.note (.parsed (Command.parse line).base (Command.parse line).arguments) >>= fun _ =>
        echoLine line >>= fun _ => enterLine host settings line := by
    unfold obey echoLine
    simp only [Command.parse_raw, Action.bind_assoc]
    refine congrArg _ (funext fun _ => congrArg _ (funext fun session => ?_))
    split_ifs
    · rw [Action.bind_assoc]
      rfl
    · rfl
  rw [hobey]
  exact Action.bind_apply _ _ s

/-! ## Steps over streams that take everything -/

/-- The shell after a line has joined its history. -/
def Shell.record (line : Text) (s : Shell σ ι) : Shell σ ι :=
  { s with session := s.session.apply (.record line) }

/-- Recording a line leaves the streams alone. -/
lemma Shell.Unlimited.record {s : Shell σ ι} (hs : s.Unlimited) (line : Text) :
    (s.record line).Unlimited :=
  ⟨hs.out, hs.err⟩

/-- The echo of a line, in a session that wants it. -/
def echoing (session : Session) (line : Text) : List Event :=
  if session.echo then [.wrote .out (Utf8.encode (echoMark ++ line))] else []

/-- The events of a step from the end of its read to the dispatch of its line. -/
def accepting (session : Session) (line : Text) : List Event :=
  .noted (.parsed (Command.parse line).base (Command.parse line).arguments) ::
    echoing session line ++ [.flushed, .changed (.record line)]

/-- The events of a step after its line was dispatched. -/
def settling : Except Fault ExitCode → List Event
  | .ok _ => [.flushed]
  | .error f => [.noted (.failed f), .wrote .err (Utf8.encode f.report), .flushed]

@[simp]
lemma consultations_accepting (session : Session) (line : Text) :
    Event.consultations (accepting session line) = 0 := by
  unfold accepting echoing
  split <;> rfl

@[simp]
lemma consultations_settling (result : Except Fault ExitCode) :
    Event.consultations (settling result) = 0 := by
  cases result <;> rfl

@[simp]
lemma texts_accepting (session : Session) (line : Text) :
    Event.texts (accepting session line) = [] := by
  unfold accepting echoing
  split <;> rfl

@[simp]
lemma texts_settling (result : Except Fault ExitCode) : Event.texts (settling result) = [] := by
  cases result <;> rfl

/-- Dispatching a command leaves streams that take everything as they are. -/
lemma unlimited_dispatch (host : Host σ) (settings : Settings) {s : Shell σ ι} (hs : s.Unlimited)
    (command : Command) : (dispatch host settings command s).shell.Unlimited :=
  ((composed_dispatch host settings command).effect s).rooms.unlimited hs

/-- An echo on a stream that takes everything. -/
lemma echoLine_of_unlimited {s : Shell σ ι} (hs : s.Unlimited) (line : Text) :
    echoLine line s = ⟨.ok (), s, echoing s.session line ++ [.flushed]⟩ := by
  have hflush := Action.flush_of_unlimited hs
  rw [echoLine_apply]
  unfold echoing
  split_ifs
  · simp [Action.write_of_unlimited hs, hflush]
  · exact hflush

/-- A report on a stream that takes everything ends the step as well as any. -/
lemma settle_of_unlimited {s : Shell σ ι} (hs : s.Unlimited) (result : Except Fault ExitCode) :
    settle result s = ⟨.ok (), s, settling result⟩ := by
  have hflush := Action.flush_of_unlimited hs
  cases result with
  | ok code => exact hflush
  | error f => simp [settle, settling, report, Action.write_of_unlimited hs, hflush]

/-- A line is echoed, recorded and dispatched, and a fault is reported. -/
lemma obey_of_unlimited (host : Host σ) (settings : Settings) {s : Shell σ ι} (hs : s.Unlimited)
    (line : Text) :
    obey host settings line s =
      let o := dispatch host settings (Command.parse line) (s.record line)
      ⟨.ok (), o.shell, accepting s.session line ++ o.events ++ settling o.result⟩ := by
  have hsettle := settle_of_unlimited
    (unlimited_dispatch host settings (hs.record line) (Command.parse line))
  rw [obey_apply, Action.bind_apply, echoLine_of_unlimited hs]
  unfold Shell.record at hsettle ⊢
  simp [enterLine, accepting, hsettle]

/-- Changes that record nothing leave the history as it is. -/
lemma Event.history_replay (session : Session) {events : List Event}
    (h : ∀ line, .record line ∉ changes events) :
    (replay session events).history = session.history := by
  refine replay_congr Session.history (fun c hc _ => ?_) session
  cases c with
  | record line => exact absurd hc (h line)
  | echo on => rfl
  | leave => rfl

/-- Dispatching a command leaves the history as it is. -/
lemma history_dispatch (host : Host σ) (settings : Settings) (command : Command) (s : Shell σ ι) :
    (dispatch host settings command s).shell.session.history = s.session.history := by
  have heffect := (composed_dispatch host settings command).effect s
  rw [heffect.session]
  exact Event.history_replay _ fun line hline => Event.can_of_mem_changes heffect.events hline

/-! ## Steps over a source -/

/-- The shell after a read from its source. -/
def Shell.reading (source : LineSource ι) (s : Shell σ ι) : Shell σ ι :=
  { s with source := (source.next s.session.prompt s.source).source }

/-- Reading leaves the streams alone. -/
lemma Shell.Unlimited.reading {s : Shell σ ι} (hs : s.Unlimited) (source : LineSource ι) :
    (s.reading source).Unlimited :=
  ⟨hs.out, hs.err⟩

/-- Reading a line over a standard output that takes everything. -/
lemma readLine_of_unlimited {ε : Type} (source : LineSource ι) {s : Shell σ ι}
    (hs : s.Unlimited) :
    (Action.readLine source s : Outcome σ ι ε ReadResult) =
      ⟨.ok (source.next s.session.prompt s.source).result, s.reading source,
        (source.next s.session.prompt s.source).events⟩ := by
  unfold Action.readLine
  simp only [hs.out, LineSource.next, Shell.reading, Reading.room_perform]

/-- Reading a line over streams that take everything leaves them as they are. -/
lemma unlimited_readLine {ε : Type} (source : LineSource ι) {s : Shell σ ι} (hs : s.Unlimited) :
    (Action.readLine source s : Outcome σ ι ε ReadResult).shell.Unlimited := by
  rw [readLine_of_unlimited source hs]
  exact hs.reading source

/-- The events of a step up to the end of its read. -/
def beginning (source : LineSource ι) (s : Shell σ ι) : List Event :=
  .wrote .out (Utf8.encode ['\n']) :: .flushed ::
    (source.next s.session.prompt s.source).events

/-- What a step does without a line. -/
def declining (settings : Settings) : ReadResult → List Event
  | .error e => [.noted (.readFailed e), .wrote .err (Utf8.encode Fault.unread.report)]
  | .ok .ended =>
    if settings.leaveAtEnd then [.noted .endedAndLeaving, .changed .leave]
    else [.noted .ended, .wrote .err (Utf8.encode Fault.unread.report)]
  | .ok (.line _) => []

/-- A shell that declines asks its session to end, or leaves it as it was. -/
lemma replay_declining (settings : Settings) (result : ReadResult) (session : Session) :
    Event.replay session (declining settings result) = session ∨
      Event.replay session (declining settings result) = { session with leaving := true } := by
  rcases result with e | line | _
  · exact Or.inl rfl
  · exact Or.inl rfl
  · unfold declining
    split_ifs
    · exact Or.inr rfl
    · exact Or.inl rfl

/-- Without a line, a shell declines. -/
lemma answer_of_no_line (host : Host σ) (settings : Settings) {s : Shell σ ι} (hs : s.Unlimited)
    {result : ReadResult} (hnone : Feed.givenLine result = []) :
    answer host settings result s =
      ⟨.ok (), { s with session := Event.replay s.session (declining settings result) },
        declining settings result⟩ := by
  have hreport := Action.write_of_unlimited hs .err Fault.unread.report
  rcases result with e | line | _
  · simp [answer, report, hreport, declining, Event.replay, Event.changes]
  · simp [Feed.givenLine] at hnone
  · cases hleave : settings.leaveAtEnd with
    | true => simp [answer, hleave, declining, Event.replay, Event.changes]
    | false => simp [answer, hleave, report, hreport, declining, Event.replay, Event.changes]

/-- A step begins, reads from its source, and answers to what it was given. -/
lemma step_of_source (host : Host σ) (settings : Settings) (source : LineSource ι)
    {s : Shell σ ι} (hs : s.Unlimited) :
    step host settings source s =
      (answer host settings (source.next s.session.prompt s.source).result
        (s.reading source)).after (beginning source s) := by
  unfold step beginning
  simp [Action.write_of_unlimited hs, Action.flush_of_unlimited hs,
    readLine_of_unlimited source hs]

/-- A step that is given no line by its source declines. -/
lemma step_of_no_read (host : Host σ) (settings : Settings) (source : LineSource ι)
    {s : Shell σ ι} (hs : s.Unlimited)
    (hnone : Feed.givenLine (source.next s.session.prompt s.source).result = []) :
    let events := declining settings (source.next s.session.prompt s.source).result
    step host settings source s =
      ⟨.ok (), { s.reading source with session := Event.replay s.session events },
        beginning source s ++ events⟩ := by
  rw [step_of_source host settings source hs,
    answer_of_no_line host settings (hs.reading source) hnone]
  rfl

/-- A step that is given a line by its source records the line and dispatches it. -/
lemma step_of_next_line (host : Host σ) (settings : Settings) (source : LineSource ι)
    {s : Shell σ ι} (hs : s.Unlimited) {line : Text}
    (hline : (source.next s.session.prompt s.source).result = .ok (.line line)) :
    let o := dispatch host settings (Command.parse line) ((s.reading source).record line)
    step host settings source s =
      ⟨.ok (), o.shell,
        beginning source s ++ accepting s.session line ++ o.events ++ settling o.result⟩ := by
  have hanswer : answer host settings (.ok (.line line)) (s.reading source) =
      obey host settings line (s.reading source) := rfl
  rw [step_of_source host settings source hs, hline, hanswer,
    obey_of_unlimited host settings (hs.reading source)]
  simp [Shell.reading]

/-- A step that is given a line by any source records the line and dispatches it. -/
lemma step_of_read (host : Host σ) (settings : Settings) (source : LineSource ι) {s : Shell σ ι}
    (hs : s.Unlimited) {line : Text}
    (hline : (Action.readLine source s : Outcome σ ι IoError ReadResult).result =
      .ok (.ok (.line line))) :
    let read : Outcome σ ι IoError ReadResult := Action.readLine source s
    let o := dispatch host settings (Command.parse line) (read.shell.record line)
    step host settings source s =
      ⟨.ok (), o.shell, .wrote .out (Utf8.encode ['\n']) :: .flushed :: read.events ++
        accepting read.shell.session line ++ o.events ++ settling o.result⟩ := by
  have hread := readLine_of_unlimited (ε := IoError) source hs
  rw [hread] at hline ⊢
  exact step_of_next_line host settings source hs (Except.ok.inj hline)

end LineShell
