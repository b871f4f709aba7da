import LineShell.Proofs.Assembled
import LineShell.Proofs.Stepping

/-!
# When a session ends

A run goes on until the session is asked to end or a step fails.  Three things bring that about.

* A line that was read comes down to `exit`, by itself or through recalls.  `AskToLeave` says this
  of the lines that are read, and over streams that take everything nothing else ends a session
  whose settings let it go on at the end of its input (`leaving_steps_iff`).
* The input is over, and the settings say that the session ends there.  This takes no more reads
  than the input has stops, and two (`leaving_steps_of_leaveAtEnd`).
* Standard output is full.  Room in a stream never grows, and each step begins with a newline, so
  there are no more steps than the room has bytes, and one (`not_lasts_of_room`).

The main statement `run_ends` puts these together and says what becomes of a run that none of them
ends.
-/

namespace LineShell

variable {σ ι ε α β : Type}

/-! ## Lines that ask the session to end -/

/-- Changes without a request to leave make no session leaving. -/
lemma Event.leaving_replay (session : Session) {events : List Event}
    (h : .leave ∉ changes events) : (replay session events).leaving = session.leaving := by
  refine replay_congr Session.leaving (fun c hc _ => ?_) session
  cases c with
  | record line => rfl
  | echo on => rfl
  | leave => exact absurd hc h

/-- One name asks the session to end. -/
lemma Command.verb_eq_leave_iff {c : Command} : c.verb = .leave ↔ c.base = "exit".toList :=
  verb_eq_iff rfl

/-- A command that is no recall makes a session leaving exactly if it is `exit`. -/
lemma leaving_performHere (host : Host σ) {c : Command} (hc : ¬ c.IsRecall) (s : Shell σ ι) :
    (performHere host c s).shell.session.leaving = true ↔
      s.session.leaving = true ∨ c.base = "exit".toList := by
  by_cases hexit : c.base = "exit".toList
  · have hverb := Command.verb_eq_leave_iff.mpr hexit
    simp [performHere, perform, hverb, builtin, Builtin.leave, Session.apply, hexit]
  · have heffect := (composed_performHere host hc).effect s
    have hleave : .leave ∉ Event.changes (performHere host c s).events := by
      intro hmem
      rcases (Event.can_of_mem_changes heffect.events hmem).alters with ⟨hverb, -⟩ | ⟨-, on, hecho⟩
      · exact hexit (Command.verb_eq_leave_iff.mp hverb)
      · cases hecho
    rw [heffect.session, Event.leaving_replay _ hleave, or_iff_left hexit]

/-- Dispatching a command makes a session leaving exactly if the command comes down to `exit`. -/
lemma leaving_dispatch (host : Host σ) (settings : Settings) {s : Shell σ ι} (hs : s.Unlimited)
    (command : Command) :
    (dispatch host settings command s).shell.session.leaving = true ↔ s.session.leaving = true ∨
      ∃ c, (command.resolve s.session.history settings.recallDepth settings.recallDepth).2 =
        .ok c ∧ c.base = "exit".toList := by
  rcases hresolve : command.resolve s.session.history settings.recallDepth settings.recallDepth
    with ⟨entries, f | c⟩
  · rw [dispatch_of_resolve_error host settings hs.out hresolve]
    simp
  · obtain ⟨hc, hdispatch⟩ := dispatch_of_resolve_here host settings hs.out hresolve
    rw [hdispatch, Outcome.after_shell, leaving_performHere host hc]
    simp

/-- One of the lines comes down to `exit`, where each joins the history before it is carried out. -/
def AskToLeave (depth : ℕ) : History → List Text → Prop
  | _, [] => False
  | h, line :: lines =>
    (∃ c, ((Command.parse line).resolve (h.append line) depth depth).2 = .ok c ∧
      c.base = "exit".toList) ∨ AskToLeave depth (h.append line) lines

/-- Lines after others ask to leave against the history that has the others. -/
lemma askToLeave_append (depth : ℕ) (h : History) (lines further : List Text) :
    AskToLeave depth h (lines ++ further) ↔
      AskToLeave depth h lines ∨ AskToLeave depth ⟨h.lines ++ lines⟩ further := by
  induction lines generalizing h with
  | nil => simp [AskToLeave]
  | cons line lines ih =>
    rw [List.cons_append, AskToLeave, AskToLeave, ih, History.lines_append, List.append_assoc,
      List.singleton_append, or_assoc]

/-- What a read gives asks to leave exactly if it is a line that comes down to `exit`. -/
lemma askToLeave_givenLine (depth : ℕ) (h : History) (result : ReadResult) :
    AskToLeave depth h (Feed.givenLine result) ↔
      ∃ line c, result = .ok (.line line) ∧
        ((Command.parse line).resolve (h.append line) depth depth).2 = .ok c ∧
          c.base = "exit".toList := by
  rcases result with e | line | _ <;> simp [Feed.givenLine, AskToLeave]

/-- **What makes a session leaving in one step**, over any source: the input ends and the settings
say that the session ends there, or the line comes down to `exit`. -/
lemma leaving_step_of_source (host : Host σ) (settings : Settings) (source : LineSource ι)
    {s : Shell σ ι} (hs : s.Unlimited) :
    let result := (source.next s.session.prompt s.source).result
    (step host settings source s).shell.session.leaving = true ↔
      s.session.leaving = true ∨ (result = .ok .ended ∧ settings.leaveAtEnd = true) ∨
        AskToLeave settings.recallDepth s.session.history (Feed.givenLine result) := by
  intro result
  rcases hread : result with e | line | _
  · rw [step_of_no_read host settings source hs (congrArg Feed.givenLine hread)]
    have hdeclines : declining settings result =
        [.noted (.readFailed e), .wrote .err (Utf8.encode Fault.unread.report)] := by
      rw [hread, declining]
    change (Event.replay s.session (declining settings result)).leaving = true ↔ _
    rw [hdeclines]
    simp [Event.replay, Event.changes, Feed.givenLine, AskToLeave]
  · rw [step_of_next_line host settings source hs hread]
    refine (leaving_dispatch host settings ((hs.reading source).record line) _).trans ?_
    rw [askToLeave_givenLine]
    simp [Shell.record, Shell.reading, Session.apply]
  · rw [step_of_no_read host settings source hs (congrArg Feed.givenLine hread)]
    change (Event.replay s.session (declining settings result)).leaving = true ↔ _
    rw [hread, declining]
    cases settings.leaveAtEnd <;>
      simp [Event.replay, Event.changes, Feed.givenLine, AskToLeave, Session.apply]

/-- A step makes a session leaving exactly if its line asks for that, where the end of the input
does not end the session. -/
lemma leaving_step (host : Host σ) {settings : Settings} (hsettings : settings.leaveAtEnd = false)
    {s : Shell σ Feed} (hs : s.Unlimited) :
    (step host settings .plain s).shell.session.leaving = true ↔
      s.session.leaving = true ∨
        AskToLeave settings.recallDepth s.session.history (Feed.givenLine s.source.next.1) := by
  refine (leaving_step_of_source host settings .plain hs).trans ?_
  simp [LineSource.next_plain, hsettings]

/-! ## Runs over streams that take everything -/

section
variable (host : Host σ)

/-- Steps over streams that take everything have been enough exactly if the session is to end. -/
lemma result_steps (settings : Settings) (n : ℕ) {s : Shell σ Feed} (hs : s.Unlimited) :
    (steps host settings .plain n s).result =
      .ok (if (steps host settings .plain n s).shell.session.leaving then .finished
        else .unfinished) := by
  induction n generalizing s with
  | zero => rfl
  | succ n ih =>
    cases hleaving : s.session.leaving with
    | true => simp [steps_of_leaving host settings .plain _ hleaving, hleaving]
    | false =>
      have hturn := turn_step host settings hs
      rw [steps_succ host settings .plain n hleaving, Action.bind_apply, hturn.result]
      exact ih hturn.unlimited

/-- One more step comes after the others, while the session goes on. -/
lemma steps_succ_last (settings : Settings) (n : ℕ) {s : Shell σ Feed} (hs : s.Unlimited)
    (hstaying : (steps host settings .plain n s).shell.session.leaving = false) :
    (steps host settings .plain (n + 1) s).shell =
        (step host settings .plain (steps host settings .plain n s).shell).shell ∧
      (steps host settings .plain (n + 1) s).events = (steps host settings .plain n s).events ++
        (step host settings .plain (steps host settings .plain n s).shell).events := by
  have hresult : (steps host settings .plain n s).result = .ok .unfinished := by
    simp [result_steps host settings n hs, hstaying]
  have hturn := turn_step host settings (unlimited_steps host settings n hs).2
  have hone := steps_succ host settings .plain 0 hstaying
  rw [Action.bind_apply, hturn.result] at hone
  have hlast : steps host settings .plain (n + 1) s =
      (steps host settings .plain 1 (steps host settings .plain n s).shell).after
        (steps host settings .plain n s).events := by
    have hadd := steps_add host settings .plain n 1 s
    rwa [Action.bind_apply, hresult] at hadd
  rw [hlast, hone]
  simp

/-- A run whose session goes on is its steps, after a log record. -/
lemma run_of_staying (settings : Settings) (n : ℕ) {s : Shell σ Feed} (hs : s.Unlimited)
    (hstaying : (steps host settings .plain n s).shell.session.leaving = false) :
    run host settings .plain n s =
      ⟨.ok .unfinished, (steps host settings .plain n s).shell,
        .noted (.sessionStarted s.session.user settings) ::
          (steps host settings .plain n s).events⟩ := by
  have hresult := result_steps host settings n hs
  rw [hstaying] at hresult
  simp [run_apply, closing, hresult]

/-- A session that was asked to end before some steps is so after more of them. -/
lemma leaving_steps_succ (settings : Settings) (n : ℕ) {s : Shell σ Feed} (hs : s.Unlimited)
    (hleaving : (steps host settings .plain n s).shell.session.leaving = true) :
    (steps host settings .plain (n + 1) s).shell.session.leaving = true := by
  rw [steps_add host settings .plain n 1, Action.bind_apply, result_steps host settings n hs,
    steps_of_leaving host settings .plain 1 hleaving]
  exact hleaving

/-- **What ends a session that goes on at the end of its input**: one of the lines that it reads
asks for that. -/
lemma leaving_steps_iff {settings : Settings} (hsettings : settings.leaveAtEnd = false) (n : ℕ)
    {s : Shell σ Feed} (hs : s.Unlimited) :
    (steps host settings .plain n s).shell.session.leaving = true ↔ s.session.leaving = true ∨
      AskToLeave settings.recallDepth s.session.history
        (s.source.lines (Event.consultations (steps host settings .plain n s).events)) := by
  obtain ⟨-, -, -, hiff⟩ := steps_induction host settings
    (P := fun _ s events s' => s'.session.leaving = true ↔ s.session.leaving = true ∨
      AskToLeave settings.recallDepth s.session.history
        (s.source.lines (Event.consultations events)))
    (fun s => by simp [Event.consultations, Feed.lines, AskToLeave])
    (by
      rintro m s events s' hs - hrest
      have hturn := turn_step host settings hs
      rw [hrest, leaving_step host hsettings hs, Event.consultations_append, hturn.reads,
        Nat.add_comm 1, Feed.lines, askToLeave_append, hturn.source, ← hturn.lines, or_assoc])
    n hs
  exact hiff

/-- A session that ends with its input has done so after two reads more than the input has stops. -/
lemma leaving_steps_of_leaveAtEnd {settings : Settings} (hsettings : settings.leaveAtEnd = true)
    {s : Shell σ Feed} (hs : s.Unlimited) :
    (steps host settings .plain (s.source.stops + 2) s).shell.session.leaving = true := by
  cases hleaving : (steps host settings .plain (s.source.stops + 1) s).shell.session.leaving with
  | true => exact leaving_steps_succ host settings _ hs hleaving
  | false =>
    obtain ⟨-, hall, hsource, -⟩ := run_reads host settings (s.source.stops + 1) hs
    rw [run_shell, consultations_run] at hall hsource
    rw [hall hleaving, Feed.after_eq_nil (Nat.lt_succ_self _)] at hsource
    have hread : (steps host settings .plain (s.source.stops + 1) s).shell.source.next.1 =
        .ok .ended := by
      rw [hsource]
      rfl
    rw [(steps_succ_last host settings _ hs hleaving).1,
      step_of_ended_leaving host (unlimited_steps host settings _ hs).2 hread hsettings]
    rfl

end

/-! ## Sessions that go on -/

/-- After so many steps, none of which has failed, the session still goes on. -/
def Lasts (host : Host σ) (settings : Settings) (source : LineSource ι) (n : ℕ) (s : Shell σ ι) :
    Prop :=
  (steps host settings source n s).result = .ok .unfinished

section
variable {host : Host σ} {settings : Settings} {source : LineSource ι}

/-- A run is unfinished as long as its session lasts. -/
lemma run_result_eq_unfinished_iff {n : ℕ} {s : Shell σ ι} :
    (run host settings source n s).result = .ok .unfinished ↔ Lasts host settings source n s := by
  rw [run_result]
  rfl

/-- Steps are finished only when the session was asked to end. -/
lemma leaving_of_finished {n : ℕ} {s : Shell σ ι}
    (h : (steps host settings source n s).result = .ok .finished) :
    (steps host settings source n s).shell.session.leaving = true := by
  induction n generalizing s with
  | zero =>
    rw [steps_zero] at h ⊢
    cases hleaving : s.session.leaving with
    | true => rfl
    | false => simp [hleaving] at h
  | succ n ih =>
    cases hleaving : s.session.leaving with
    | true => rwa [steps_of_leaving host settings source _ hleaving]
    | false =>
      rw [steps_succ host settings source n hleaving, Action.bind_apply] at h ⊢
      cases hresult : (step host settings source s).result with
      | error e => simp [hresult] at h
      | ok _ =>
        rw [hresult] at h
        exact ih h

/-- Without steps a session goes on if nobody has asked it to end. -/
lemma lasts_zero_iff {s : Shell σ ι} :
    Lasts host settings source 0 s ↔ s.session.leaving = false := by
  unfold Lasts
  rw [steps_zero]
  cases s.session.leaving <;> simp

/-- A session goes on after a step and some more if it goes on after these. -/
lemma lasts_succ_iff {n : ℕ} {s : Shell σ ι} :
    Lasts host settings source (n + 1) s ↔ s.session.leaving = false ∧
      (step host settings source s).result = .ok () ∧
        Lasts host settings source n (step host settings source s).shell := by
  unfold Lasts
  cases hleaving : s.session.leaving with
  | true => simp [steps_of_leaving host settings source _ hleaving]
  | false =>
    rw [steps_succ host settings source n hleaving, Action.bind_apply]
    cases (step host settings source s).result <;> simp

/-- A session goes on after some steps and some more if it does so after each of them. -/
lemma lasts_add_iff {n k : ℕ} {s : Shell σ ι} :
    Lasts host settings source (n + k) s ↔ Lasts host settings source n s ∧
      Lasts host settings source k (steps host settings source n s).shell := by
  unfold Lasts
  rw [steps_add, Action.bind_apply]
  rcases hresult : (steps host settings source n s).result with e | _ | _
  · simp
  · have hleaving : (steps host settings source n s).shell.session.leaving = true :=
      leaving_of_finished hresult
    simp [steps_of_leaving host settings source k hleaving]
  · simp

/-- A session that goes on has gone on before. -/
lemma Lasts.of_le {k n : ℕ} {s : Shell σ ι} (h : Lasts host settings source n s) (hk : k ≤ n) :
    Lasts host settings source k s := by
  obtain ⟨m, rfl⟩ := Nat.exists_eq_add_of_le hk
  exact (lasts_add_iff.mp h).1

/-- What each step leaves less of ends the session. -/
lemma not_lasts_of_decreasing {L : ℕ → Shell σ ι → Prop}
    (hstep : ∀ {k s}, L k s → (step host settings source s).result = .ok () →
      ∃ k' < k, L k' (step host settings source s).shell)
    {k n : ℕ} {s : Shell σ ι} (hleft : L k s) (hn : k < n) :
    ¬ Lasts host settings source n s := by
  induction n generalizing s k with
  | zero => exact absurd hn (Nat.not_lt_zero k)
  | succ n ih =>
    intro hlasts
    obtain ⟨-, hresult, hrest⟩ := lasts_succ_iff.mp hlasts
    obtain ⟨k', hless, hleft'⟩ := hstep hleft hresult
    exact ih hleft' (by omega) hrest

end

/-! ## Room in the streams -/

/-- A step that does not fail leaves less room in standard output than there was. -/
lemma out_step (host : Host σ) (settings : Settings) (source : LineSource ι) {s : Shell σ ι}
    {room : ℕ} (hroom : s.out = some (.upTo room))
    (hresult : (step host settings source s).result = .ok ()) :
    ∃ room' < room, (step host settings source s).shell.out = some (.upTo room') := by
  have hrest : ∀ s : Shell σ ι, s.Becomes ((Action.flush >>= fun _ =>
      Action.readLine source >>= answer host settings : Action σ ι IoError Unit) s).shell := by
    intro s
    refine Action.becomes_bind (Action.becomes_flush s) fun _ s => ?_
    refine Action.becomes_bind (becomes_readLine source s) fun result s => ?_
    exact ((assembled_answer host settings result).regular s).rooms
  have hlimited : (s.room .out).Limited := by
    change s.out.Limited
    rw [hroom]
    exact Room.limited_upTo room
  have hlength : (Utf8.encode ['\n']).length = 1 := by decide
  rw [step_eq, Action.bind_apply] at hresult ⊢
  rcases Action.write_cases_of_limited hlimited ['\n'] with
    ⟨hfits, hwrite⟩ | ⟨_, -, -, hwrite⟩
  · rw [hwrite]
    have hone := hfits room hroom
    have hleft : ((s.room .out).offer (Utf8.encode ['\n'])).left = some (.upTo (room - 1)) := by
      have hroom' : s.room .out = some (.upTo room) := hroom
      rw [hroom', Room.offer_upTo, if_pos hone, hlength]
    have hout := hrest (s.setRoom .out (some (.upTo (room - 1)))) .out
    rw [Shell.room_setRoom] at hout
    obtain ⟨room', hless, hroom'⟩ := hout.exists_upTo
    rw [hleft]
    exact ⟨room', by omega, hroom'⟩
  · rw [hwrite] at hresult
    cases hresult

/-- **A full standard output ends the run.**  More steps than it has room for bytes are always
enough. -/
lemma not_lasts_of_room (host : Host σ) (settings : Settings) (source : LineSource ι)
    {s : Shell σ ι} {room n : ℕ} (hroom : s.out = some (.upTo room)) (hn : room < n) :
    ¬ Lasts host settings source n s :=
  not_lasts_of_decreasing (L := fun room s => s.out = some (.upTo room))
    (fun hroom hresult => out_step host settings source hroom hresult) hroom hn

/-! ## The end of a run -/

lemma report_unread : Fault.unread.report = "Error: could not get command\n".toList := by
  decide

/-- A step over input that is used up shows a newline and the prompt and reports that there was no
line, and it alters nothing, if the end of the input does not end the session. -/
lemma step_of_usedUp (host : Host σ) {settings : Settings} (hsettings : settings.leaveAtEnd = false)
    {s : Shell σ Feed} (hs : s.Unlimited) (hsource : s.source.UsedUp) :
    step host settings .plain s =
      ⟨.ok (), { s with source := [] }, opening s.session ++
        [.noted .ended, .wrote .err (Utf8.encode Fault.unread.report)]⟩ := by
  have hread : s.source.next.1 = .ok .ended := by rw [hsource.next_eq]
  have hshell : s.advance = { s with source := [] } := by
    unfold Shell.advance
    rw [hsource.next_eq]
  rw [step_of_ended_staying host hs hread hsettings, hshell]

/-- **When a run ends.**  A session that goes on at first and may end with its input does end, after
no more steps than the input has newlines and interruptions, and two.  Whatever the settings and
the input, a standard output with room for `room` bytes ends it after `room + 1` steps.  A session
that does not end with its input is ended by a line that it reads and that comes down to `exit`, and
by nothing else; without such a line the input is used up in the end, and from then on each step
shows a newline and the prompt, reports that there was no line, and alters nothing. -/
theorem run_ends (host : Host σ) (settings : Settings) {s : Shell σ Feed}
    (hstaying : s.session.leaving = false) :
    (settings.leaveAtEnd = true → s.Unlimited →
      let o := run host settings .plain
        (s.source.bytes.count Feed.newline + s.source.interruptions + 2) s
      o.result = .ok .finished ∧ o.shell.session.leaving = true) ∧
    (∀ room, s.out = some (.upTo room) →
      (run host settings .plain (room + 1) s).result ≠ .ok .unfinished) ∧
    (settings.leaveAtEnd = false → s.Unlimited →
      ((∃ n, (run host settings .plain n s).result ≠ .ok .unfinished) ↔
        ∃ n, AskToLeave settings.recallDepth s.session.history
          (s.source.lines (Event.consultations (run host settings .plain n s).events))) ∧
      ((∀ n, (run host settings .plain n s).result = .ok .unfinished) →
        (∀ n, s.source.readBound ≤ n → (run host settings .plain n s).shell.source.UsedUp) ∧
        ∀ n, (run host settings .plain n s).shell.source.UsedUp →
          let o := run host settings .plain n s
          run host settings .plain (n + 1) s =
            ⟨.ok .unfinished, { o.shell with source := [] }, o.events ++
              [.wrote .out (Utf8.encode ['\n']), .flushed,
                .wrote .out (Utf8.encode o.shell.session.prompt), .flushed, .consulted,
                .noted .ended,
                .wrote .err (Utf8.encode "Error: could not get command\n".toList)]⟩)) := by
  refine ⟨?_, ?_, ?_⟩
  · intro hsettings hs o
    have hleaving := leaving_steps_of_leaveAtEnd host hsettings hs
    have hresult := result_steps host settings (s.source.stops + 2) hs
    rw [if_pos hleaving] at hresult
    refine ⟨(run_result ..).trans hresult, ?_⟩
    have hshell : o.shell = (steps host settings .plain (s.source.stops + 2) s).shell :=
      run_shell ..
    rw [hshell, hleaving]
  · intro room hroom
    rw [run_result]
    exact not_lasts_of_room host settings .plain hroom (Nat.lt_succ_self room)
  · intro hsettings hs
    have hresult : ∀ n, (run host settings .plain n s).result = .ok .unfinished ↔
        (steps host settings .plain n s).shell.session.leaving = false := by
      intro n
      rw [run_result, result_steps host settings n hs]
      cases (steps host settings .plain n s).shell.session.leaving <;> simp
    refine ⟨exists_congr fun n => ?_, fun hall => ?_⟩
    · rw [Ne, hresult, Bool.not_eq_false, consultations_run, leaving_steps_iff host hsettings n hs]
      simp [hstaying]
    · have hgoing := fun n => (hresult n).mp (hall n)
      refine ⟨fun n hn => ?_, fun n hsource => ?_⟩
      · obtain ⟨-, hreads, hsource, -⟩ := run_reads host settings n hs
        have hleaving : (run host settings .plain n s).shell.session.leaving = false := by
          rw [run_shell, hgoing]
        rw [hsource, hreads hleaving, Feed.after_eq_nil hn]
        exact ⟨rfl, rfl⟩
      · intro o
        have hshell : o.shell = (steps host settings .plain n s).shell := run_shell ..
        have hevents : o.events = .noted (.sessionStarted s.session.user settings) ::
            (steps host settings .plain n s).events :=
          congrArg Outcome.events (run_of_staying host settings n hs (hgoing n))
        have hs' : o.shell.Unlimited := hshell ▸ (unlimited_steps host settings n hs).2
        obtain ⟨hlast, hfurther⟩ := steps_succ_last host settings n hs (hgoing n)
        rw [← hshell, step_of_usedUp host hsettings hs' hsource] at hlast hfurther
        rw [run_of_staying host settings (n + 1) hs (hgoing (n + 1)), hlast, hfurther, hevents,
          report_unread]
        rfl

/-- If none of the lines of an input asks to leave, no line that is ever read does. -/
lemma not_askToLeave_of_usedUp {depth : ℕ} {h : History} {feed : Feed} {n : ℕ}
    (hused : (feed.after n).UsedUp) (hnot : ¬ AskToLeave depth h (feed.lines n)) (k : ℕ) :
    ¬ AskToLeave depth h (feed.lines k) := by
  intro hasks
  have hmore : AskToLeave depth h (feed.lines (k + n)) := by
    rw [Feed.lines_add, askToLeave_append]
    exact Or.inl hasks
  rw [Nat.add_comm, Feed.lines_add, hused.lines_eq, List.append_nil] at hmore
  exact hnot hmore

/-- Four runs: a recall of an `exit` in the history, on a line without a newline after a failed read
and a momentary end of the input, which ends its run; input without such a line, in a session that
ends with its input, over a standard output that takes forty bytes, and in a session that goes on
for ever. -/
theorem run_ends_recalled :
    let shell (source : Feed) (out : Room) : Shell Unit Feed :=
      { session := Session.start Settings.standard ⟨["exit\n".toList]⟩ none
        host := (), source, out, err := none }
    let leaving : Settings := { Settings.standard with leaveAtEnd := true }
    let recalling := shell [.chunk (Utf8.encode "ls\nl".toList), .failure .refused, .pause,
      .chunk (Utf8.encode "!1".toList)] none
    let ending := shell [.chunk (Utf8.encode "ls\nl".toList), .failure .refused, .pause] none
    let narrow := shell [.chunk (Utf8.encode "ls\n".toList)] (some (.upTo 40))
    let lasting := shell [.chunk (Utf8.encode "ls\n".toList)] none
    (∃ n, (run Host.idle Settings.standard .plain n recalling).result ≠ .ok .unfinished) ∧
      (run Host.idle leaving .plain 5 ending).result = .ok .finished ∧
      (run Host.idle Settings.standard .plain 41 narrow).result ≠ .ok .unfinished ∧
      (∀ n, (run Host.idle Settings.standard .plain n lasting).result = .ok .unfinished) ∧
      let o := run Host.idle Settings.standard .plain 2 lasting
      o.shell.source.UsedUp ∧
        (run Host.idle Settings.standard .plain 3 lasting).events = o.events ++
          [.wrote .out (Utf8.encode ['\n']), .flushed, .wrote .out (Utf8.encode "[] $ ".toList),
            .flushed, .consulted, .noted .ended,
            .wrote .err (Utf8.encode "Error: could not get command\n".toList)] := by
  intro shell leaving recalling ending narrow lasting
  obtain ⟨-, -, hrecalls⟩ :=
    run_ends Host.idle Settings.standard (show recalling.session.leaving = false from rfl)
  obtain ⟨hends, -, -⟩ := run_ends Host.idle leaving (show ending.session.leaving = false from rfl)
  obtain ⟨-, hfull, -⟩ :=
    run_ends Host.idle Settings.standard (show narrow.session.leaving = false from rfl)
  obtain ⟨-, -, hlasts⟩ :=
    run_ends Host.idle Settings.standard (show lasting.session.leaving = false from rfl)
  obtain ⟨hiff, hforever⟩ := hlasts rfl ⟨rfl, rfl⟩
  have hread : lasting.source.next = (.ok (.line "ls\n".toList), [.chunk []]) := by decide +kernel
  have hnot : ¬ AskToLeave 32 lasting.session.history (lasting.source.lines 1) := by
    rw [Feed.lines, hread]
    rintro (⟨c, hc, hexit⟩ | hnone)
    · have hcommand : ((Command.parse "ls\n".toList).resolve
          (lasting.session.history.append "ls\n".toList) 32 32).2 =
            .ok (Command.parse "ls\n".toList) := by decide +kernel
      rw [← Except.ok.inj (hcommand.symm.trans hc)] at hexit
      exact absurd hexit (by decide)
    · exact hnone
  have hall : ∀ n, (run Host.idle Settings.standard .plain n lasting).result =
      .ok .unfinished := by
    by_contra hends
    obtain ⟨n, hasks⟩ := hiff.mp (not_forall.mp hends)
    have hafter : (lasting.source.after 1).UsedUp := by
      rw [Feed.after, hread]
      exact ⟨rfl, rfl⟩
    exact not_askToLeave_of_usedUp hafter hnot _ hasks
  obtain ⟨hused, hsame⟩ := hforever hall
  have hprompt : (run Host.idle Settings.standard .plain 2 lasting).shell.session.prompt =
      "[] $ ".toList := by
    decide +kernel
  have hlast := congrArg Outcome.events (hsame 2 (hused 2 (by decide)))
  rw [hprompt] at hlast
  refine ⟨(hrecalls rfl ⟨rfl, rfl⟩).1.mpr ⟨4, ?_⟩, (hends rfl ⟨rfl, rfl⟩).1, hfull 40 rfl, hall,
    hused 2 (by decide), hlast⟩
  have hlines : recalling.source.lines (Event.consultations
      (run Host.idle Settings.standard .plain 4 recalling).events) =
        ["ls\n".toList, "!1".toList] := by
    decide +kernel
  rw [hlines]
  exact Or.inr (Or.inl ⟨Command.parse "exit\n".toList, by decide +kernel, by decide +kernel⟩)

end LineShell
