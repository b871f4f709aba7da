import LineShell.Proofs.Assembled

/-!
# Stopping at a refused write

A stream that has no room for a write stops the shell.  Some refusals make a step fail at once, and
some are swallowed: a prompt that is refused is a failed read, and a write that is refused to a
command is the fault of the command, and both are only reported.  But then standard output takes
nothing any more, and the newline that begins the next step is refused as well.

Streams are limited in this file: they refuse a write for want of room only, and their flushes
succeed.  `Outcome.Heeds` is what a step does about a refused write, and `heeds_step` follows a step
along its parts to show that it does so.  `run_stops_at_refusal` is what comes of it for runs: a run
fails if and only if some write is refused, and between that write and its end it does nothing but
report.
-/

namespace LineShell

variable {σ α β : Type}

/-! ## After a refused write -/

/-- Events in which nothing is done but making log records, flushing and writing to standard
error. -/
structure Event.Quiet (events : List Event) : Prop where
  texts : Event.texts events = []
  reads : Event.consultations events = 0
  changes : Event.changes events = []
  out : Event.written .out events = []

/-- Quiet events after quiet events are quiet. -/
lemma Event.Quiet.append {es fs : List Event} (hes : Quiet es) (hfs : Quiet fs) :
    Quiet (es ++ fs) where
  texts := by rw [texts_append, hes.texts, hfs.texts, List.append_nil]
  reads := by rw [consultations_append, hes.reads, hfs.reads]
  changes := by rw [changes_append, hes.changes, hfs.changes, List.append_nil]
  out := by rw [written_append, hes.out, hfs.out, List.append_nil]

/-- The first refused write of an outcome is one to `stream`, after the events `pre`; and the events
`post` after it are quiet and show no more than one report. -/
structure Outcome.RefusedAt (o : Outcome σ Feed IoError α) (pre : List Event) (stream : Stream)
    (post : List Event) : Prop where
  events : o.events = pre ++ .refused stream :: post
  before : Event.Accepted pre
  quiet : Event.Quiet post
  /-- No more than one report appears on standard error. -/
  report : ∃ f : Fault, (f = .unread ∨ f = .io .refused) ∧
    Event.written .err post <+: Utf8.encode f.report
  /-- If standard error has refused, then nothing appears on it any more, and this is the end. -/
  err : stream = .err → Event.written .err post = [] ∧ o.result = .error .refused

namespace Outcome

variable {o : Outcome σ Feed IoError α}

/-- Accepted writes before an outcome leave its first refused write where it is. -/
lemma RefusedAt.after {pre : List Event} {stream : Stream} {post : List Event}
    (h : o.RefusedAt pre stream post) {events : List Event} (hevents : Event.Accepted events) :
    (o.after events).RefusedAt (events ++ pre) stream post where
  events := by rw [after_events, h.events, List.append_assoc]
  before := (Event.accepted_append _ _).mpr ⟨hevents, h.before⟩
  quiet := h.quiet
  report := h.report
  err := h.err

/-- A refused write that is the end of an outcome is the first one. -/
lemma RefusedAt.of_last {pre : List Event} {stream : Stream}
    (hevents : o.events = pre ++ [.refused stream]) (hpre : Event.Accepted pre)
    (hresult : o.result = .error .refused) : o.RefusedAt pre stream [] where
  events := hevents
  before := hpre
  quiet := ⟨rfl, rfl, rfl, rfl⟩
  report := ⟨.unread, Or.inl rfl, List.nil_prefix⟩
  err _ := ⟨rfl, hresult⟩

/-- What a step does about a refused write, in a session that is `leaving` or not: no write is
refused, or the step fails, or it leaves a standard output that takes nothing any more. -/
def Heeds (leaving : Bool) (o : Outcome σ Feed IoError Unit) : Prop :=
  (Event.Accepted o.events ∧ o.result = .ok ()) ∨
    ∃ pre stream post, o.RefusedAt pre stream post ∧
      (o.result = .error .refused ∨
        o.result = .ok () ∧ o.shell.out = some (.upTo 0) ∧ o.shell.session.leaving = leaving)

/-- Accepted writes before an outcome do not alter what it does about a refused one. -/
lemma Heeds.after {leaving : Bool} {o : Outcome σ Feed IoError Unit} (h : o.Heeds leaving)
    {events : List Event} (hevents : Event.Accepted events) : (o.after events).Heeds leaving := by
  rcases h with ⟨haccepted, hresult⟩ | ⟨pre, stream, post, hrefused, hend⟩
  · exact Or.inl ⟨(Event.accepted_append _ _).mpr ⟨hevents, haccepted⟩, hresult⟩
  · exact Or.inr ⟨_, stream, post, hrefused.after hevents, hend⟩

/-- No write is refused, or the first one that is refused is the end, with its failure as the
result; and the session is no more leaving than before, over streams that are still limited. -/
def Strict (s : Shell σ Feed) (o : Outcome σ Feed IoError α) : Prop :=
  (o.shell.Limited ∧ o.shell.session.leaving = s.session.leaving) ∧
    ((Event.Accepted o.events ∧ ∃ a, o.result = .ok a) ∨
      ∃ pre stream, o.events = pre ++ [.refused stream] ∧ Event.Accepted pre ∧
        o.result = .error .refused)

/-- An end at the first refused write heeds it. -/
lemma Strict.heeds {s : Shell σ Feed} {o : Outcome σ Feed IoError Unit} (h : o.Strict s)
    (leaving : Bool) : o.Heeds leaving := by
  rcases h.2 with ⟨haccepted, _, hresult⟩ | ⟨pre, stream, hevents, hpre, hresult⟩
  · exact Or.inl ⟨haccepted, hresult⟩
  · exact Or.inr ⟨pre, stream, [], .of_last hevents hpre hresult, Or.inl hresult⟩

end Outcome

/-! ## The parts of a step -/

section
variable {s : Shell σ Feed}

/-- A write is the end if it is refused. -/
lemma strict_write (stream : Stream) (text : Text) (hs : s.Limited) :
    (Action.write stream text s).Strict s := by
  have hlimited := (Action.becomes_write stream text s).limited hs
  rcases Action.write_cases_of_limited (hs.room stream) text with
    ⟨-, hwrite⟩ | ⟨n, -, -, hwrite⟩ <;> rw [hwrite] at hlimited ⊢
  · refine ⟨⟨hlimited, by simp⟩, Or.inl ⟨?_, (), rfl⟩⟩
    simp [Event.isFailure]
  · refine ⟨⟨hlimited, by simp⟩, Or.inr ⟨[.wrote stream _], stream, rfl, ?_, rfl⟩⟩
    simp [Event.isFailure]

/-- An action that makes one event of another kind writes nothing that could be refused. -/
lemma strict_of_event {e : Event} (he : e.isFailure = false) {a : α} {s' : Shell σ Feed}
    (hs' : s'.Limited) (hleaving : s'.session.leaving = s.session.leaving) :
    (⟨.ok a, s', [e]⟩ : Outcome σ Feed IoError α).Strict s :=
  ⟨⟨hs', hleaving⟩, Or.inl ⟨by simp [he], a, rfl⟩⟩

/-- A flush fails for no reason here. -/
lemma strict_flush (hs : s.Limited) : (Action.flush s).Strict s := by
  rw [Action.flush_of_limited (hs.room .out)]
  exact strict_of_event rfl hs rfl

/-- An action that ends at a refused write, and then one that heeds it. -/
lemma heeds_bind {x : Action σ Feed IoError α} {f : α → Action σ Feed IoError Unit}
    (hx : (x s).Strict s)
    (hf : ∀ a s', s'.Limited → s'.session.leaving = s.session.leaving →
      (f a s').Heeds s.session.leaving) :
    ((x >>= f) s).Heeds s.session.leaving := by
  obtain ⟨⟨hlimited, hleaving⟩,
    ⟨haccepted, a, hresult⟩ | ⟨pre, stream, hevents, hpre, hresult⟩⟩ := hx
  · rw [Action.bind_apply, hresult]
    exact (hf a _ hlimited hleaving).after haccepted
  · rw [Action.bind_apply, hresult]
    exact Or.inr ⟨pre, stream, [], .of_last hevents hpre rfl, Or.inl rfl⟩

/-- Two actions that end at a refused write do so together. -/
lemma strict_bind {x : Action σ Feed IoError α} {f : α → Action σ Feed IoError β}
    (hx : (x s).Strict s) (hf : ∀ a {s'}, s'.Limited → (f a s').Strict s') :
    ((x >>= f) s).Strict s := by
  obtain ⟨⟨hlimited, hleaving⟩,
    ⟨haccepted, a, hresult⟩ | ⟨pre, stream, hevents, hpre, hresult⟩⟩ := hx
  · obtain ⟨⟨hlimited', hleaving'⟩, hrest⟩ := hf a hlimited
    rw [Action.bind_apply, hresult]
    refine ⟨⟨hlimited', hleaving'.trans hleaving⟩, ?_⟩
    rcases hrest with ⟨haccepted', hresult'⟩ | ⟨pre, stream, hevents, hpre, hresult'⟩
    · exact Or.inl ⟨(Event.accepted_append _ _).mpr ⟨haccepted, haccepted'⟩, hresult'⟩
    · refine Or.inr ⟨(x s).events ++ pre, stream, ?_, ?_, hresult'⟩
      · rw [Outcome.after_events, hevents, List.append_assoc]
      · exact (Event.accepted_append _ _).mpr ⟨haccepted, hpre⟩
  · rw [Action.bind_apply, hresult]
    exact ⟨⟨hlimited, hleaving⟩, Or.inr ⟨pre, stream, hevents, hpre, rfl⟩⟩

/-- An echo is the end if it is refused. -/
lemma strict_echoLine (line : Text) (hs : s.Limited) : (echoLine line s).Strict s := by
  rw [echoLine_apply]
  split_ifs
  · exact strict_bind (strict_write .out _ hs) fun _ {_} => strict_flush
  · exact strict_flush hs

/-- A report is the end if it is refused. -/
lemma strict_report (r : Record) (f : Fault) (hs : s.Limited) :
    ((Action.note r >>= fun _ => report f) s).Strict s :=
  strict_bind (strict_of_event rfl hs rfl) fun _ {_} => strict_write .err f.report

/-- Settling a result is over if its report is refused. -/
lemma strict_settle (result : Except Fault ExitCode) (hs : s.Limited) :
    (settle result s).Strict s := by
  cases result with
  | ok code => exact strict_flush hs
  | error f =>
    refine strict_bind (strict_of_event rfl hs rfl) fun _ {_} hs' => ?_
    exact strict_bind (strict_write .err f.report hs') fun _ {_} => strict_flush

end

/-- A report is not empty. -/
lemma length_report_pos (f : Fault) : 0 < (Utf8.encode f.report).length := by
  have hlength : (Utf8.encode "Error: ".toList).length = 7 := by decide
  unfold Fault.report
  simp only [Utf8.encode_append, List.length_append, hlength]
  omega

/-- A report after a refused write.  If standard error has refused, then the report is refused
before its first byte; if standard output has, then the report may be taken, and standard output
still takes nothing. -/
lemma report_of_room_zero {s : Shell σ Feed} (hs : s.Limited) {stream : Stream}
    (hroom : s.room stream = some (.upTo 0)) (f : Fault) :
    (stream = .out ∧ ∃ s' : Shell σ Feed, s'.Limited ∧ s'.out = some (.upTo 0) ∧
      s'.session = s.session ∧
      report f s = ⟨.ok (), s', [.wrote .err (Utf8.encode f.report)]⟩) ∨
    ∃ bytes s', bytes <+: Utf8.encode f.report ∧ (stream = .err → bytes = []) ∧
      report f s = ⟨.error .refused, s', [.wrote .err bytes, .refused .err]⟩ := by
  have hlimited := (Action.becomes_write .err f.report s).limited hs
  rcases Action.write_cases_of_limited (hs.room .err) f.report with
    ⟨hfits, hwrite⟩ | ⟨n, hn, -, hwrite⟩
  · left
    cases stream with
    | out =>
      rw [hwrite] at hlimited
      exact ⟨rfl, _, hlimited, hroom, rfl, hwrite⟩
    | err => exact absurd (hfits 0 hroom) (Nat.not_le.mpr (length_report_pos f))
  · right
    refine ⟨_, _, List.take_prefix n _, ?_, hwrite⟩
    rintro rfl
    rw [hroom] at hn
    rw [← Manner.upTo.inj (Option.some.inj hn), List.take_zero]

/-- A refused write that is only reported is heeded, whatever quiet events the step ends with. -/
lemma heeds_reported {s : Shell σ Feed} (hs : s.Limited) {stream : Stream}
    (hroom : s.room stream = some (.upTo 0)) {before : List Event}
    (hbefore : Event.Accepted before) (r : Record) {f : Fault}
    (hf : f = .unread ∨ f = .io .refused) (last : Action σ Feed IoError Unit) {tail : List Event}
    (hlast : ∀ s : Shell σ Feed, s.Limited → last s = ⟨.ok (), s, tail⟩)
    (hquiet : Event.Quiet tail) (herr : Event.written .err tail = []) :
    (((report f >>= fun _ => last) s).after (before ++ [.refused stream, .noted r])).Heeds
      s.session.leaving := by
  right
  rw [Action.bind_apply]
  rcases report_of_room_zero hs hroom f with
    ⟨rfl, s', hs', hout, hsession, hreport⟩ | ⟨bytes, s', hbytes, hnone, hreport⟩ <;>
      rw [hreport]
  · -- The report is taken, and nothing but standard output remembers the refusal.
    have hquiet' : Event.Quiet ([.noted r, .wrote .err (Utf8.encode f.report)] ++ tail) :=
      Event.Quiet.append ⟨rfl, rfl, rfl, rfl⟩ hquiet
    simp only [hlast s' hs']
    refine ⟨before, .out, _, ⟨by simp, hbefore, hquiet', ⟨f, hf, ?_⟩, by rintro ⟨⟩⟩, Or.inr ?_⟩
    · rw [Event.written_append, herr, List.append_nil]
      simp [Event.written]
    · exact ⟨rfl, hout, congrArg Session.leaving hsession⟩
  · refine ⟨before, stream, [.noted r, .wrote .err bytes, .refused .err],
      ⟨by simp, hbefore, ⟨rfl, rfl, rfl, rfl⟩, ⟨f, hf, ?_⟩, ?_⟩, Or.inl rfl⟩
    · simpa [Event.written] using hbytes
    · intro herr
      exact ⟨by simp [Event.written, hnone herr], rfl⟩

/-! ## Steps -/

section
variable (host : Host σ) (settings : Settings) {s : Shell σ Feed}

/-- A write that is refused to a command is heeded after its report. -/
lemma heeds_dispatch (command : Command) (hs : s.Limited) :
    ((Action.attempt (dispatch host settings command) >>= settle) s).Heeds s.session.leaving := by
  have heffect := (composed_dispatch host settings command).effect s
  have hlimited := heffect.rooms.limited hs
  rw [Action.bind_apply, Action.attempt_apply]
  rcases (composed_dispatch host settings command).stops s with
    haccepted | ⟨before, last, e, hevents, hbefore, -, hresult, hrefused⟩
  · exact ((strict_settle _ hlimited).heeds _).after haccepted
  · obtain ⟨rfl, stream, rfl, hroom⟩ := hrefused hs
    have hchanges := atomic_dispatch host settings command s _ hresult
    have hsession : (dispatch host settings command s).shell.session = s.session := by
      rw [heffect.session, Event.replay, hchanges]
      rfl
    have hsettle : ∀ (f : Fault) (s : Shell σ Feed), settle (.error f) s =
        ((report f >>= fun _ => Action.flush) s).after [.noted (.failed f)] := by
      intro f s
      exact Action.bind_apply _ _ s
    have hreported := heeds_reported hlimited hroom hbefore (.failed (.io .refused)) (Or.inr rfl)
      Action.flush (fun s hs => Action.flush_of_limited (hs.room .out)) ⟨rfl, rfl, rfl, rfl⟩ rfl
    rw [hsession] at hreported
    simp only [hresult, hevents, hsettle, Outcome.after_after, List.append_assoc,
      List.singleton_append]
    exact hreported

/-- Obeying a line heeds a refused write. -/
lemma heeds_obey (line : Text) (hs : s.Limited) :
    (obey host settings line s).Heeds s.session.leaving := by
  have henter : ∀ s : Shell σ Feed, s.Limited →
      (enterLine host settings line s).Heeds s.session.leaving := by
    intro s hs
    refine heeds_bind (strict_of_event rfl ⟨hs.out, hs.err⟩ rfl) fun _ s' hs' hleaving =>
      hleaving ▸ ?_
    exact heeds_dispatch host settings (Command.parse line) hs'
  rw [obey_apply]
  refine (heeds_bind (strict_echoLine line hs) fun _ s' hs' hleaving =>
    hleaving ▸ henter s' hs').after ?_
  simp [Event.isFailure]

/-- Answering a read heeds a refused write. -/
lemma heeds_answer (result : ReadResult) (hs : s.Limited) :
    (answer host settings result s).Heeds s.session.leaving := by
  rcases result with e | line | _
  · exact (strict_report _ .unread hs).heeds _
  · exact heeds_obey host settings line hs
  · unfold answer
    split_ifs
    · exact Or.inl ⟨by simp [Event.isFailure], by simp⟩
    · exact (strict_report .ended .unread hs).heeds _

/-- **A step heeds a refused write**, wherever it happens. -/
lemma heeds_step (hs : s.Limited) : (step host settings .plain s).Heeds s.session.leaving := by
  refine heeds_bind (strict_write .out ['\n'] hs) fun _ s hs hleaving => hleaving ▸ ?_
  refine heeds_bind (strict_flush hs) fun _ s hs hleaving => hleaving ▸ ?_
  rw [Action.bind_apply]
  rcases Action.readLine_plain_cases_of_limited IoError hs.out with
    ⟨room, hroom, hread⟩ | ⟨bytes, hread⟩
  · have hs' : ({ s with source := s.source.next.2, out := room } : Shell σ Feed).Limited :=
      ⟨hroom.limited hs.out, hs.err⟩
    rw [hread]
    refine (heeds_answer host settings _ hs').after ?_
    simp [Event.isFailure]
  · -- A prompt that is refused is a failed read, which is only reported.
    have hanswer : ∀ s : Shell σ Feed, answer host settings (.error .refused) s =
        ((report .unread >>= fun _ => pure ()) s).after [.noted (.readFailed .refused)] := by
      intro s
      rw [Action.bind_pure_unit]
      exact Action.bind_apply _ _ s
    have hfull : ({ s with out := some (.upTo 0) } : Shell σ Feed).Limited :=
      ⟨Room.limited_upTo 0, hs.err⟩
    have hroom : ({ s with out := some (.upTo 0) } : Shell σ Feed).room .out =
        some (.upTo 0) := rfl
    have hbefore : Event.Accepted [.wrote .out bytes] := by
      simp [Event.isFailure]
    have hreported := heeds_reported hfull hroom hbefore (.readFailed .refused) (Or.inl rfl)
      (pure ()) (fun _ _ => rfl) ⟨rfl, rfl, rfl, rfl⟩ rfl
    rw [hread]
    simp only [hanswer, Outcome.after_after]
    exact hreported

end

/-! ## Runs -/

/-- Where standard output takes nothing any more, a step that begins is refused. -/
lemma steps_of_full (host : Host σ) (settings : Settings) (n : ℕ) {s : Shell σ Feed}
    (hleaving : s.session.leaving = false) (hout : s.out = some (.upTo 0)) :
    steps host settings .plain (n + 1) s =
      ⟨.error .refused, s, [.wrote .out [], .refused .out]⟩ := by
  have hoffer : (s.room .out).offer (Utf8.encode ['\n']) =
      ⟨[], .error .refused, s.room .out⟩ := by
    change s.out.offer _ = ⟨[], .error .refused, s.out⟩
    rw [hout]
    rfl
  have hwrite : Action.write .out ['\n'] s =
      ⟨.error .refused, s, [.wrote .out [], .refused .out]⟩ := by
    unfold Action.write
    rw [hoffer]
    simp only [Shell.setRoom_room]
    rfl
  rw [steps_succ host settings .plain n hleaving, step, Action.bind_apply, Action.bind_apply,
    hwrite]

/-- Where standard output takes nothing any more, any number of steps are quiet. -/
lemma quiet_steps_of_full (host : Host σ) (settings : Settings) (n : ℕ) {s : Shell σ Feed}
    (hleaving : s.session.leaving = false) (hout : s.out = some (.upTo 0)) :
    Event.Quiet (steps host settings .plain n s).events ∧
      Event.written .err (steps host settings .plain n s).events = [] := by
  cases n with
  | zero => exact ⟨⟨rfl, rfl, rfl, rfl⟩, rfl⟩
  | succ n =>
    rw [steps_of_full host settings n hleaving hout]
    exact ⟨⟨rfl, rfl, rfl, rfl⟩, rfl⟩

/-- What a number of steps do about a refused write: there is none and they do not fail, or after
the first one they are quiet, and one more step would have failed if they have not. -/
lemma steps_heed (host : Host σ) (settings : Settings) (n : ℕ) {s : Shell σ Feed}
    (hs : s.Limited) :
    (Event.Accepted (steps host settings .plain n s).events ∧
        ∃ progress, (steps host settings .plain n s).result = .ok progress) ∨
      ∃ pre stream post, (steps host settings .plain n s).RefusedAt pre stream post ∧
        (steps host settings .plain (n + 1) s).result = .error .refused := by
  induction n generalizing s with
  | zero => exact Or.inl ⟨Event.accepted_nil, _, rfl⟩
  | succ n ih =>
    cases hleaving : s.session.leaving with
    | true =>
      rw [steps_of_leaving host settings .plain _ hleaving]
      exact Or.inl ⟨Event.accepted_nil, _, rfl⟩
    | false =>
      rw [steps_succ host settings .plain n hleaving, steps_succ host settings .plain _ hleaving,
        Action.bind_apply, Action.bind_apply]
      have hlimited := (becomes_step host settings .plain s).limited hs
      rcases heeds_step host settings hs with
        ⟨haccepted, hok⟩ | ⟨pre, stream, post, hrefused, herror | ⟨hok, hout, hstaying⟩⟩
      · rw [hok]
        rcases ih hlimited with
          ⟨haccepted', hresult⟩ | ⟨pre, stream, post, hrefused, hnext⟩
        · exact Or.inl ⟨(Event.accepted_append _ _).mpr ⟨haccepted, haccepted'⟩, hresult⟩
        · exact Or.inr ⟨_, stream, post, hrefused.after haccepted, hnext⟩
      · rw [herror]
        exact Or.inr ⟨pre, stream, post, ⟨hrefused.events, hrefused.before, hrefused.quiet,
          hrefused.report, fun herr => ⟨(hrefused.err herr).1, rfl⟩⟩, rfl⟩
      · -- The refusal was swallowed, so it was one of standard output, and the next step finds out.
        rw [hleaving] at hstaying
        obtain ⟨hquiet, hnone⟩ := quiet_steps_of_full host settings n hstaying hout
        rw [hok]
        refine Or.inr ⟨pre, stream, post ++ _, ⟨?_, hrefused.before, hrefused.quiet.append hquiet,
          ?_, ?_⟩, ?_⟩
        · rw [Outcome.after_events, hrefused.events, List.append_assoc, List.cons_append]
        · rw [Event.written_append, hnone, List.append_nil]
          exact hrefused.report
        · intro herr
          have herror := (hrefused.err herr).2
          rw [hok] at herror
          cases herror
        · rw [Outcome.after_result, steps_of_full host settings n hstaying hout]

/-- What a run does about a refused write is what its steps do. -/
lemma run_heeds (host : Host σ) (settings : Settings) (n : ℕ) {s : Shell σ Feed}
    (hs : s.Limited) :
    (Event.Accepted (run host settings .plain n s).events ∧
        ∃ progress, (run host settings .plain n s).result = .ok progress) ∨
      ∃ pre stream post, (run host settings .plain n s).RefusedAt pre stream post ∧
        (run host settings .plain (n + 1) s).result = .error .refused := by
  have hclosing : Event.Quiet (closing (steps host settings .plain n s)) ∧
      Event.written .err (closing (steps host settings .plain n s)) = [] ∧
      Event.Accepted (closing (steps host settings .plain n s)) := by
    unfold closing
    split
    · exact ⟨⟨rfl, rfl, rfl, rfl⟩, rfl, by simp [Event.isFailure]⟩
    · exact ⟨⟨rfl, rfl, rfl, rfl⟩, rfl, Event.accepted_nil⟩
  obtain ⟨hquiet, hnone, haccepted⟩ := hclosing
  rw [run_result, run_apply]
  rcases steps_heed host settings n hs with ⟨hsteps, hresult⟩ | ⟨pre, stream, post, hrefused, hnext⟩
  · refine Or.inl ⟨?_, hresult⟩
    simp [Event.isFailure, hsteps, haccepted]
  · refine Or.inr ⟨.noted (.sessionStarted s.session.user settings) :: pre, stream, post ++ _,
      ⟨?_, ?_, hrefused.quiet.append hquiet, ?_, ?_⟩,
      (run_result host settings .plain (n + 1) s).trans hnext⟩
    · simp [hrefused.events]
    · exact (Event.accepted_cons _ _).mpr ⟨rfl, hrefused.before⟩
    · rw [Event.written_append, hnone, List.append_nil]
      exact hrefused.report
    · intro herr
      rw [Event.written_append, hnone, List.append_nil]
      exact hrefused.err herr

/-- A refused write is a call that fails. -/
lemma Event.Accepted.isRefusal_eq_false {events : List Event} (h : Accepted events) :
    ∀ e ∈ events, e.isRefusal = false := by
  intro e he
  have hnone := h e he
  cases e with
  | refused stream => cases hnone
  | _ => rfl

/-- Events have only one first refused write. -/
lemma Event.first_refusal_unique {pre pre' post post' : List Event} {stream stream' : Stream}
    (h : pre ++ .refused stream :: post = pre' ++ .refused stream' :: post')
    (hpre : ∀ e ∈ pre, e.isRefusal = false) (hpre' : ∀ e ∈ pre', e.isRefusal = false) :
    pre = pre' ∧ stream = stream' ∧ post = post' := by
  induction pre generalizing pre' with
  | nil =>
    cases pre' with
    | nil =>
      obtain ⟨hevent, hpost⟩ := List.cons.inj h
      exact ⟨rfl, Event.refused.inj hevent, hpost⟩
    | cons e rest =>
      have he := (List.cons.inj h).1
      have haccepted := hpre' e List.mem_cons_self
      rw [← he] at haccepted
      cases haccepted
  | cons e rest ih =>
    cases pre' with
    | nil =>
      have he := (List.cons.inj h).1
      have haccepted := hpre e List.mem_cons_self
      rw [he] at haccepted
      cases haccepted
    | cons e' rest' =>
      obtain ⟨he, hrest⟩ := List.cons.inj h
      obtain ⟨hsame, hstream, hpost⟩ := ih hrest (fun e he => hpre e (List.mem_cons_of_mem _ he))
        fun e he => hpre' e (List.mem_cons_of_mem _ he)
      exact ⟨by rw [he, hsame], hstream, hpost⟩

/-- **A refused write stops the shell.**  Whatever number of bytes the streams have room for, a run
fails only if a write is refused, and if one is refused the run fails, if need be with its next
step.

After the first refused write nothing is handed to the system shell, the session and the input stay
as they are, and nothing appears on standard output.  If it was standard output that refused, no
more than one report appears on standard error.  If it was standard error, nothing appears any more,
and the run has failed with the same step. -/
theorem run_stops_at_refusal (host : Host σ) (settings : Settings) {s : Shell σ Feed}
    (hs : s.Limited) (n : ℕ) :
    ((∃ e, (run host settings .plain n s).result = .error e) →
        ∃ stream, .refused stream ∈ (run host settings .plain n s).events) ∧
      ((∃ stream, .refused stream ∈ (run host settings .plain n s).events) →
        (run host settings .plain (n + 1) s).result = .error .refused) ∧
      ∀ pre stream post,
        (run host settings .plain n s).events = pre ++ .refused stream :: post →
        (∀ event ∈ pre, event.isRefusal = false) →
          Event.texts post = [] ∧
          Event.consultations post = 0 ∧
          (run host settings .plain n s).shell.source =
            s.source.after (Event.consultations pre) ∧
          Event.changes post = [] ∧
          (run host settings .plain n s).shell.session = Event.replay s.session pre ∧
          Event.written .out post = [] ∧
          (stream = .out → ∃ f : Fault, (f = .unread ∨ f = .io .refused) ∧
            Event.written .err post <+: Utf8.encode f.report) ∧
          (stream = .err → Event.written .err post = [] ∧
            (run host settings .plain n s).result = .error .refused) := by
  rcases run_heeds host settings n hs with
    ⟨haccepted, progress, hok⟩ | ⟨pre, stream, post, hrefused, hnext⟩
  · -- No write is refused: all that is said about a refused one is void.
    have hnone : ∀ stream, .refused stream ∉ (run host settings .plain n s).events := by
      intro stream hmem
      cases haccepted _ hmem
    refine ⟨?_, ?_, ?_⟩
    · rintro ⟨e, herror⟩
      rw [hok] at herror
      cases herror
    · rintro ⟨stream, hmem⟩
      exact absurd hmem (hnone stream)
    · intro pre stream post hevents
      refine absurd ?_ (hnone stream)
      rw [hevents]
      exact List.mem_append_right _ List.mem_cons_self
  · refine ⟨?_, fun _ => hnext, ?_⟩
    · intro _
      refine ⟨stream, ?_⟩
      rw [hrefused.events]
      exact List.mem_append_right _ List.mem_cons_self
    · intro pre' stream' post' hevents hpre'
      obtain ⟨rfl, rfl, rfl⟩ := Event.first_refusal_unique (hrefused.events.symm.trans hevents)
        hrefused.before.isRefusal_eq_false hpre'
      have haccount := accounted_run host settings n s
      have hsession : Event.replay s.session (run host settings .plain n s).events =
          Event.replay s.session pre := by
        rw [hrefused.events, Event.replay_append]
        have hchanges : Event.changes (.refused stream :: post) = [] := hrefused.quiet.changes
        rw [Event.replay, hchanges]
        rfl
      have hreads : Event.consultations (run host settings .plain n s).events =
          Event.consultations pre := by
        have hpost : Event.consultations (.refused stream :: post) = 0 := hrefused.quiet.reads
        rw [hrefused.events, Event.consultations_append, hpost, Nat.add_zero]
      refine ⟨hrefused.quiet.texts, hrefused.quiet.reads, ?_, hrefused.quiet.changes, ?_,
        hrefused.quiet.out, fun _ => hrefused.report, hrefused.err⟩
      · rw [haccount.source, hreads]
      · rw [haccount.session, hsession]

/-- A recall whose line does not fit on standard output: the step goes on, the next one fails. -/
theorem run_stops_at_refusal_swallowed :
    let settings : Settings := { Settings.standard with echo := false }
    let s : Shell Unit Feed :=
      { session := Session.start settings ⟨["ls\n".toList]⟩ none, host := (),
        source := [.chunk (Utf8.encode "!1\n".toList)], out := some (.upTo 7), err := none }
    s.Limited ∧ (∃ stream, .refused stream ∈ (run Host.idle settings .plain 1 s).events) ∧
      (run Host.idle settings .plain 1 s).result.isOk = true ∧
      (run Host.idle settings .plain 2 s).result = .error .refused := by
  intro settings s
  have hs : s.Limited := ⟨Room.limited_upTo _, Room.limited_none⟩
  have hany : (run Host.idle settings .plain 1 s).events.any Event.isRefusal = true := by
    decide +kernel
  have hrefused : ∃ stream, .refused stream ∈ (run Host.idle settings .plain 1 s).events := by
    obtain ⟨e, hmem, he⟩ := List.any_eq_true.mp hany
    cases e with
    | refused stream => exact ⟨stream, hmem⟩
    | _ => cases he
  have hok : (run Host.idle settings .plain 1 s).result.isOk = true := by decide +kernel
  exact ⟨hs, hrefused, hok, (run_stops_at_refusal Host.idle settings hs 1).2.1 hrefused⟩

end LineShell
