import LineShell.Proofs.Assembled
import LineShell.Proofs.Resolution

/-!
# What the history records

Every line that is read joins the history as it was read, before it is carried out, so nothing that
comes of it keeps it out, and nothing else ever joins.  Over input that is bytes and nothing else
this gives the whole history of a run, however the bytes are cut into chunks (`history_run`): what
was there before, and then one line for each segment that was read.  Nothing is removed, so a number
once valid keeps its meaning.

A line joins the history after its echo, though.  Where standard output refuses the echo, or cannot
be flushed before the record, the step ends there, and the line is in no history.
`Shell.pendingRead` is the read that a step makes, and `Session.echoTo` is what becomes of the echo
of a line.  The statement `step_records` says what becomes of the history in a step, whatever the
source gives and whatever the streams do.
-/

namespace LineShell

variable {σ ι : Type}

/-! ## The history of a run -/

/-- The lines before a number of steps are the first ones after it. -/
lemma lines_prefix_steps (host : Host σ) (settings : Settings) (n : ℕ) {s : Shell σ Feed}
    (hs : s.Unlimited) :
    s.session.history.lines <+:
      (steps host settings .plain n s).shell.session.history.lines := by
  obtain ⟨-, -, -, hlines⟩ := run_reads host settings n hs
  rw [run_shell] at hlines
  exact ⟨_, hlines.symm⟩

/-- **The history is the input.**  After a run over streams that take everything and over input that
is bytes and nothing else, the history is what it was before, and then the line of each segment of
the input that was read, in order.  The segments that were not read are still to come, one segment
was read for each step unless the session has ended, and what a number of the history counts does
not change any more. -/
theorem history_run (host : Host σ) (settings : Settings) {s : Shell σ Feed} (hs : s.Unlimited)
    {chunks : List (List UInt8)} (hsource : s.source = chunks.map .chunk) (n : ℕ) :
    let o := run host settings .plain n s
    let reads := Event.consultations o.events
    o.shell.session.history.lines = s.session.history.lines ++
        ((Feed.segments chunks.flatten).take reads).map Line.ofBytes ∧
      o.shell.source.bytes = ((Feed.segments chunks.flatten).drop reads).flatten ∧
      reads ≤ n ∧ (o.shell.session.leaving = false → reads = n) ∧
      ∀ k i line, o.shell.session.history.get? i = some line →
        (run host settings .plain (n + k) s).shell.session.history.get? i = some line := by
  intro o reads
  obtain ⟨hle, hall, hafter, hlines⟩ := run_reads host settings n hs
  obtain ⟨hsegments, chunks', hchunks', hrest⟩ := Feed.lines_chunks reads chunks
  rw [hsource] at hafter hlines
  refine ⟨?_, ?_, hle, hall, ?_⟩
  · rw [← hsegments]
    exact hlines
  · rw [← hrest, ← Feed.bytes_chunks, ← hchunks']
    exact congrArg Feed.bytes hafter
  · intro k i line hline
    obtain ⟨⟨progress, hok⟩, hunlimited⟩ := unlimited_steps host settings n hs
    have hmore := lines_prefix_steps host settings k hunlimited
    rw [run_shell, steps_add, Action.bind_apply, hok]
    exact History.get?_mono hmore (by rw [← run_shell]; exact hline)

/-- A blank line and a recall that fails are recorded as they were typed, after the line that was
there before, whatever chunks they come in. -/
theorem history_run_in_pieces :
    let chunks : List (List UInt8) := [[0x6C], [0x73, 0x0A, 0x0A, 0x21], [0x39, 0x0A, 0x65]]
    let s : Shell Unit Feed :=
      { session := Session.start Settings.standard ⟨["pwd\n".toList]⟩ none, host := (),
        source := chunks.map .chunk, out := none, err := none }
    s.Unlimited ∧ s.source = chunks.map .chunk ∧
      (run Host.idle Settings.standard .plain 3 s).shell.session.history.lines =
        ["pwd\n".toList, "ls\n".toList, "\n".toList, "!9\n".toList] := by
  intro chunks s
  have hs : s.Unlimited := ⟨rfl, rfl⟩
  obtain ⟨hlines, -, -, hall, -⟩ := history_run Host.idle Settings.standard hs rfl 3
  have hstaying :
      (run Host.idle Settings.standard .plain 3 s).shell.session.leaving = false := by
    decide +kernel
  have hsegments : (Feed.segments chunks.flatten).take 3 = [[0x6C, 0x73, 0x0A], [0x0A],
      [0x21, 0x39, 0x0A]] := by decide
  rw [hall hstaying, hsegments] at hlines
  exact ⟨hs, rfl, hlines.trans (by decide)⟩

/-! ## A step up to its answer -/

/-- Offers bytes to a stream and then flushes it. -/
def Room.deliver (room : Room) (bytes : List UInt8) : Room.Answer :=
  match (room.offer bytes).result with
  | .ok _ => (room.offer bytes).left.flush
  | .error _ => room.offer bytes

/-- To write a text and then to flush is to deliver the text. -/
lemma Action.write_flush_apply (text : Text) (s : Shell σ ι) :
    let answer := (s.room .out).deliver (Utf8.encode text)
    let o := (write .out text >>= fun _ => flush : Action σ ι IoError Unit) s
    o.result = answer.result ∧ o.shell = s.setRoom .out answer.left := by
  intro answer o
  have ho : o = (write .out text >>= fun _ => flush : Action σ ι IoError Unit) s := rfl
  rw [bind_apply] at ho
  unfold answer Room.deliver
  rcases write_cases .out text s with ⟨hresult, hwrite⟩ | ⟨e, hresult, hwrite⟩
  · rw [hwrite] at ho
    rw [ho, hresult]
    exact ⟨rfl, rfl⟩
  · rw [hwrite] at ho
    rw [ho, hresult]
    exact ⟨hresult.symm, rfl⟩

/-- The read that the next step makes.  It makes none if standard output does not take the newline
before it or cannot be flushed then. -/
def Shell.pendingRead (source : LineSource ι) (s : Shell σ ι) : Option (Reading.Outcome ι) :=
  let answer := s.out.deliver (Utf8.encode ['\n'])
  match answer.result with
  | .ok _ => some ((source.read s.session.prompt s.source).perform answer.left)
  | .error _ => none

/-- The shell as a read leaves it. -/
def Shell.afterRead (read : Reading.Outcome ι) (s : Shell σ ι) : Shell σ ι :=
  { s with source := read.source, out := read.room }

section
variable (host : Host σ) (settings : Settings) {source : LineSource ι} {s : Shell σ ι}

/-- A step delivers a newline, reads a line, and answers to what it has read. -/
lemma step_eq_deliver : step host settings source =
    ((Action.write .out ['\n'] >>= fun _ => Action.flush : Action σ ι IoError Unit) >>= fun _ =>
      Action.readLine source >>= answer host settings) := by
  rw [step_eq, Action.bind_assoc]

/-- A step that makes no read fails and leaves the session alone. -/
lemma step_of_no_pendingRead (hread : s.pendingRead source = none) :
    (∃ e, (step host settings source s).result = .error e) ∧
      (step host settings source s).shell.session = s.session := by
  obtain ⟨hresult, hshell⟩ := Action.write_flush_apply ['\n'] s
  unfold Shell.pendingRead at hread
  rw [step_eq_deliver, Action.bind_apply, hresult, hshell]
  cases hanswer : ((s.room .out).deliver (Utf8.encode ['\n'])).result with
  | ok _ =>
    have hanswer' : (s.out.deliver (Utf8.encode ['\n'])).result = .ok () := hanswer
    simp [hanswer'] at hread
  | error e => exact ⟨⟨e, rfl⟩, Shell.session_setRoom s .out _⟩

/-- A step answers to the result of the read that it makes. -/
lemma step_of_pendingRead {read : Reading.Outcome ι} (hread : s.pendingRead source = some read) :
    ∃ events, step host settings source s =
      (answer host settings read.result (s.afterRead read)).after events := by
  obtain ⟨hresult, hshell⟩ := Action.write_flush_apply ['\n'] s
  unfold Shell.pendingRead at hread
  rw [step_eq_deliver, Action.bind_apply, hresult, hshell]
  cases hanswer : ((s.room .out).deliver (Utf8.encode ['\n'])).result with
  | ok _ =>
    have hanswer' : (s.out.deliver (Utf8.encode ['\n'])).result = .ok () := hanswer
    simp only [hanswer', Option.some.injEq] at hread
    have hrest : (Action.readLine source >>= answer host settings : Action σ ι IoError Unit)
        (s.setRoom .out ((s.room .out).deliver (Utf8.encode ['\n'])).left) =
          (answer host settings read.result (s.afterRead read)).after read.events := by
      rw [← hread]
      exact Action.bind_apply _ _ _
    exact ⟨_, (congrArg (Outcome.after _) hrest).trans (Outcome.after_after _ _ _)⟩
  | error e =>
    have hanswer' : (s.out.deliver (Utf8.encode ['\n'])).result = .error e := hanswer
    simp [hanswer'] at hread

end

/-! ## From the answer on -/

section
variable (host : Host σ) (settings : Settings)

/-- Without a line, an answer is assembled of reports and of a request to leave. -/
lemma assembled_answer_of_no_line {result : ReadResult} (hnone : Feed.givenLine result = []) :
    Assembled (fun m => m = .prints .err ∨ m = .alters .leave)
      (answer host settings result : Action σ ι IoError Unit) := by
  rcases result with e | line | _
  · exact (assembled_report _ _).mono fun _ => Or.inl
  · cases hnone
  · unfold answer
    split_ifs
    · exact .bind (.note _) fun _ => .change (Or.inr rfl)
    · exact (assembled_report _ _).mono fun _ => Or.inl

/-- Without a line, an answer leaves the history alone. -/
lemma history_answer_of_no_line {result : ReadResult} (hnone : Feed.givenLine result = [])
    (s : Shell σ ι) :
    (answer host settings result s).shell.session.history = s.session.history := by
  have hregular := (assembled_answer_of_no_line host settings hnone).regular s
  rw [hregular.session]
  refine Event.history_replay _ fun line hline => ?_
  rcases Event.can_of_mem_changes hregular.events hline with h | h <;> cases h

/-- The end of a step leaves the session alone. -/
lemma session_settle (result : Except Fault ExitCode) (s : Shell σ ι) :
    (settle result s).shell.session = s.session := by
  have hregular := (assembled_settle result).regular s
  have hchanges : Event.changes (settle result s).events = [] :=
    List.eq_nil_iff_forall_not_mem.mpr fun c hc => by
      rcases Event.can_of_mem_changes hregular.events hc with h | h <;> cases h
  rw [hregular.session, Event.replay, hchanges]
  rfl

/-- A line that is carried out joins the history, whatever comes of it. -/
lemma history_enterLine (line : Text) (s : Shell σ ι) :
    (enterLine host settings line s).shell.session.history = s.session.history.append line := by
  have henter : (enterLine host settings line s).shell.session =
      (dispatch host settings (Command.parse line) (s.record line)).shell.session := by
    simp only [enterLine, Action.bind_apply, Action.change_apply, Action.attempt_apply,
      Outcome.after_shell, session_settle]
    rfl
  rw [henter, history_dispatch]
  rfl

end

/-- What becomes of the echo of a line on a standard output of this room, if the session wants one,
and of the flush after it. -/
def Session.echoTo (session : Session) (room : Room) (line : Text) : Room.Answer :=
  if session.echo then room.deliver (Utf8.encode (echoMark ++ line)) else room.flush

/-- Where standard output fails for want of room only, it is the echo alone that may fail, and it
does so exactly if there is no room for all of it. -/
lemma Session.result_echoTo_iff (session : Session) {room : Room} (hroom : room.Limited)
    (line : Text) :
    (session.echoTo room line).result = .ok () ↔
      (session.echo = true → ∀ n, room = some (.upTo n) →
        (Utf8.encode (echoMark ++ line)).length ≤ n) := by
  unfold echoTo Room.deliver
  cases session.echo with
  | true =>
    rw [if_pos rfl]
    rcases hroom.offer_cases (Utf8.encode (echoMark ++ line)) with
      ⟨hfits, hok⟩ | ⟨n, hn, hless, hanswer⟩
    · have hleft := (room.becomes_offer (Utf8.encode (echoMark ++ line))).limited hroom
      rw [hok]
      exact iff_of_true (congrArg Room.Answer.result hleft.flush_eq) fun _ => hfits
    · rw [hanswer]
      refine iff_of_false (by rintro ⟨⟩) fun hfits => ?_
      exact absurd (hfits rfl n hn) (Nat.not_le_of_lt hless)
  | false => exact iff_of_true (congrArg Room.Answer.result hroom.flush_eq) (by rintro ⟨⟩)

/-- An echo comes out as the room of standard output says, and leaves the session alone. -/
lemma result_echoLine (line : Text) (s : Shell σ ι) :
    (echoLine line s).result = (s.session.echoTo s.out line).result ∧
      (echoLine line s).shell.session = s.session := by
  rw [echoLine_apply]
  unfold Session.echoTo
  split_ifs
  · obtain ⟨hresult, hshell⟩ := Action.write_flush_apply (echoMark ++ line) s
    exact ⟨hresult, by rw [hshell, Shell.session_setRoom]⟩
  · exact ⟨rfl, Shell.session_setRoom s .out _⟩

/-- A line that is obeyed joins the history if its echo succeeds.  Otherwise that is all. -/
lemma obey_cases (host : Host σ) (settings : Settings) (line : Text) (s : Shell σ ι) :
    (s.session.echoTo s.out line).result = .ok () ∧
        (obey host settings line s).shell.session.history = s.session.history.append line ∨
      ∃ e, (s.session.echoTo s.out line).result = .error e ∧
        (obey host settings line s).result = .error e ∧
        (obey host settings line s).shell.session = s.session := by
  obtain ⟨hresult, hsession⟩ := result_echoLine line s
  rw [obey_apply, Action.bind_apply, hresult]
  cases hecho : (s.session.echoTo s.out line).result with
  | ok _ =>
    refine Or.inl ⟨rfl, ?_⟩
    rw [Outcome.after_shell, Outcome.after_shell, history_enterLine, hsession]
  | error e => exact Or.inr ⟨e, rfl, rfl, hsession⟩

/-- **When a line joins the history.**  Whatever a source gives, a command does and the streams do,
a line that a step has read joins the history, unless the echo that the session wants is refused or
the flush after it fails.  In that case the step fails for that reason, and the session is as it
was.  A step that has read no line leaves the history alone. -/
theorem step_records (host : Host σ) (settings : Settings) (source : LineSource ι)
    (s : Shell σ ι) :
    let o := step host settings source s
    (∀ read line, s.pendingRead source = some read → read.result = .ok (.line line) →
        ((s.session.echoTo read.room line).result = .ok () →
          o.shell.session.history.lines = s.session.history.lines ++ [line]) ∧
        ∀ e, (s.session.echoTo read.room line).result = .error e →
          o.result = .error e ∧ o.shell.session = s.session) ∧
      ((∀ read line, s.pendingRead source = some read → read.result ≠ .ok (.line line)) →
        o.shell.session.history = s.session.history) := by
  intro o
  refine ⟨fun read line hread hline => ?_, fun hnone => ?_⟩
  · obtain ⟨events, hstep⟩ := step_of_pendingRead host settings hread
    have ho : o = (obey host settings line (s.afterRead read)).after events := by
      rw [hline] at hstep
      exact hstep
    have hroom : (s.afterRead read).session.echoTo (s.afterRead read).out line =
        s.session.echoTo read.room line := rfl
    rw [ho]
    rcases obey_cases host settings line (s.afterRead read) with
      ⟨hecho, hhistory⟩ | ⟨e, hecho, hresult, hsession⟩ <;> rw [hroom] at hecho <;> rw [hecho]
    · exact ⟨fun _ => congrArg History.lines hhistory, by rintro e ⟨⟩⟩
    · refine ⟨by rintro ⟨⟩, ?_⟩
      rintro _ ⟨⟩
      exact ⟨hresult, hsession⟩
  · cases hread : s.pendingRead source with
    | none => exact congrArg Session.history (step_of_no_pendingRead host settings hread).2
    | some read =>
      obtain ⟨events, hstep⟩ := step_of_pendingRead host settings hread
      have ho : o = (answer host settings read.result (s.afterRead read)).after events := hstep
      rw [ho, Outcome.after_shell]
      rcases Feed.givenLine_cases read.result with hgiven | ⟨line, hline, -⟩
      · exact history_answer_of_no_line host settings hgiven _
      · exact absurd hline (hnone read line hread)

/-- An echo that just fits, on a standard output that takes the newline before the read and then
the echo to the last byte; and an echo that is taken and cannot be flushed, on one that has complied
until then. -/
theorem step_records_last_byte :
    let line := "set x\n".toList
    let source : LineSource Unit := .always (.ok (.line line))
    let session := Session.start Settings.standard History.empty none
    let s : Shell Unit Unit :=
      { session, host := (), source := (), out := some (.upTo 16), err := some (.upTo 0) }
    let replies : ℕ → Reply := fun k => if k = 3 then .fails 0 ⟨"no device".toList⟩ else .complies
    let t : Shell Unit Unit := { s with out := some (.replying replies) }
    let o := step Host.idle Settings.standard source s
    let p := step Host.idle Settings.standard source t
    ((session.echoTo (some (.upTo 15)) line).result = .ok () ∧
        o.shell.session.history.lines = [line] ∧ o.result = .error .refused) ∧
      p.result = .error ⟨"no device".toList⟩ ∧ p.shell.session = session := by
  intro line source session s replies t o p
  have hecho : (session.echoTo (some (.upTo 15)) line).result = .ok () := by
    refine (session.result_echoTo_iff (Room.limited_upTo 15) line).mpr fun _ n hn => ?_
    rw [← Manner.upTo.inj (Option.some.inj hn)]
    decide
  have hread : s.pendingRead source = some ⟨.ok (.line line), (), some (.upTo 15), []⟩ := rfl
  obtain ⟨hrecords, -⟩ := step_records Host.idle Settings.standard source s
  have hlines := (hrecords _ _ hread rfl).1 hecho
  have hread' : t.pendingRead source =
      some ⟨.ok (.line line), (), some (.replying fun k => replies (k + 1 + 1)), []⟩ := rfl
  obtain ⟨hrecords', -⟩ := step_records Host.idle Settings.standard source t
  have hlost := (hrecords' _ _ hread' rfl).2 ⟨"no device".toList⟩ rfl
  exact ⟨⟨hecho, hlines, by decide +kernel⟩, hlost⟩

/-- A line whose echo is refused is not recorded, though it was read. -/
theorem step_loses_line :
    ¬ ∀ (source : LineSource Unit) (s : Shell Unit Unit) (read : Reading.Outcome Unit)
        (line : Text), s.pendingRead source = some read → read.result = .ok (.line line) →
      (step Host.idle Settings.standard source s).shell.session.history.lines =
        s.session.history.lines ++ [line] := by
  intro hrecords
  have hlines := hrecords (.always (.ok (.line "ls\n".toList)))
    { session := Session.start Settings.standard History.empty none, host := (), source := (),
      out := some (.upTo 1), err := none }
    ⟨.ok (.line "ls\n".toList), (), some (.upTo 0), []⟩ "ls\n".toList rfl rfl
  revert hlines
  decide +kernel

end LineShell
