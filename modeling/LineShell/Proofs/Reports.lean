import LineShell.Proofs.Echo

/-!
# Reports

Over streams that take everything no step fails, whatever its source gives, its command does and the
host answers.  What goes wrong is reported on standard error instead, and a `Complaint` is one such
report.  `Shell.Complains` says when a shell has which one to make, and by the main statement
`step_reports` its next step writes that complaint to standard error and nothing else.

A fault that a recall brings about, or the command behind any number of recalls, gets to the end of
the step unreported and is reported there (`settling`).  Only `size` writes to standard error by
itself, and then it does not fail (`written_err_dispatch`).
-/

namespace LineShell

variable {σ ι : Type}

/-! ## Complaints -/

/-- What a step may have to report to the user. -/
inductive Complaint where
  /-- No line could be read. -/
  | unread
  /-- The line of the step ended in a fault. -/
  | failed (fault : Fault)
  /-- The system did not tell the size of a file. -/
  | unsized (path : Text) (e : OsError)

/-- The line on standard error that a complaint is. -/
def Complaint.text : Complaint → Text
  | .unread => "Error: could not get command\n".toList
  | .failed fault => "Error: ".toList ++ fault.message ++ ['\n']
  | .unsized path e => path ++ ": ".toList ++ e.message ++ ['\n']

/-- The shell has the complaint to make in its next step: there is no line to read, though the
settings do not say that the session ends there; or dispatching the line that is read ends in the
fault; or the line comes down to `size`, and the system does not tell the size of its file. -/
def Shell.Complains (host : Host σ) (settings : Settings) (source : LineSource ι)
    (s : Shell σ ι) : Complaint → Prop
  | .unread =>
    let result := (source.next s.session.prompt s.source).result
    (∃ e, result = .error e) ∨ result = .ok .ended ∧ settings.leaveAtEnd = false
  | .failed fault =>
    ∃ line, (source.next s.session.prompt s.source).result = .ok (.line line) ∧
      (dispatch host settings (Command.parse line) ((s.reading source).record line)).result =
        .error fault
  | .unsized path e =>
    ∃ line c, (source.next s.session.prompt s.source).result = .ok (.line line) ∧
      ((Command.parse line).resolve (s.session.history.append line) settings.recallDepth
        settings.recallDepth).2 = .ok c ∧
      c.base = "size".toList ∧ c.firstArgument = path ∧ (host.fileSize path s.host).1 = .error e

/-! ## What commands write to standard error -/

/-- One command prints on standard error. -/
lemma Command.Does.prints_err {c : Command} (h : c.Does (.prints .err)) :
    c.base = "size".toList := by
  refine (Command.verb_eq_iff (v := .size) rfl).mp ?_
  unfold Command.Does at h
  split at h <;> simp_all

/-- Only `size` writes to standard error. -/
lemma written_err_performHere (host : Host σ) {c : Command} (hc : ¬ c.IsRecall)
    (hsize : c.base ≠ "size".toList) (s : Shell σ ι) :
    Event.written .err (performHere host c s).events = [] := by
  have heffect := (composed_performHere host hc).effect s
  refine List.flatMap_eq_nil_iff.mpr fun e he => ?_
  cases e with
  | wrote stream bytes =>
    cases stream with
    | out => rfl
    | err => exact absurd (Command.Does.prints_err (heffect.events _ he)) hsize
  | _ => rfl

/-- A `size` succeeds, and writes to standard error what the system says when it does not tell the
size of the file. -/
lemma performHere_size (host : Host σ) {c : Command} (hsize : c.base = "size".toList)
    {s : Shell σ ι} (hs : s.Unlimited) :
    (∃ code, (performHere host c s).result = .ok code) ∧
      Event.written .err (performHere host c s).events =
        match (host.fileSize c.firstArgument s.host).1 with
        | .ok _ => []
        | .error e => Utf8.encode (Complaint.unsized c.firstArgument e).text := by
  have hverb : c.verb = .size := (Command.verb_eq_iff rfl).mpr hsize
  have hs' : Shell.Unlimited { s with host := (host.fileSize c.firstArgument s.host).2 } :=
    ⟨hs.out, hs.err⟩
  unfold performHere perform
  simp only [hverb, builtin_apply, Builtin.size, Action.bind_apply,
    Action.print_of_room_none (hs.room _), Action.ask_apply]
  cases (host.fileSize c.firstArgument s.host).1 with
  | ok bytes =>
    simp only [Action.bind_apply, Action.print_of_room_none (hs'.room _), Action.pure_apply]
    exact ⟨⟨_, rfl⟩, rfl⟩
  | error e =>
    simp only [Action.bind_apply, Action.print_of_room_none (hs'.room _), Action.pure_apply]
    exact ⟨⟨_, rfl⟩, List.append_nil _⟩

/-- Passing entries writes nothing to standard error. -/
lemma written_err_passing (depth : ℕ) (entries : List (ℤ × Text)) :
    Event.written .err (passing depth entries) = [] := by
  induction entries generalizing depth with
  | nil => rfl
  | cons entry entries ih => exact ih (depth + 1)

/-- **What dispatching a command writes to standard error**: what the system says when the command
comes down to `size` and it does not tell the size of the file.  Then the dispatch succeeds, and in
all other cases nothing is written. -/
lemma written_err_dispatch (host : Host σ) (settings : Settings) {s : Shell σ ι} (hs : s.Unlimited)
    (command : Command) :
    let o := dispatch host settings command s
    let behind := (command.resolve s.session.history settings.recallDepth settings.recallDepth).2
    (∃ c e, behind = .ok c ∧ c.base = "size".toList ∧
        (host.fileSize c.firstArgument s.host).1 = .error e ∧ (∃ code, o.result = .ok code) ∧
        Event.written .err o.events =
          Utf8.encode (Complaint.unsized c.firstArgument e).text) ∨
      (∀ c e, behind = .ok c → c.base = "size".toList →
          (host.fileSize c.firstArgument s.host).1 ≠ .error e) ∧
        Event.written .err o.events = [] := by
  intro o behind
  rcases hresolve : command.resolve s.session.history settings.recallDepth settings.recallDepth
    with ⟨entries, f | c⟩
  · have ho : o = ⟨.error f, s, passing 0 entries⟩ :=
      dispatch_of_resolve_error host settings hs.out hresolve
    have hbehind : behind = .error f := congrArg Prod.snd hresolve
    right
    rw [ho, hbehind]
    refine ⟨?_, written_err_passing 0 entries⟩
    intro c e hc
    cases hc
  · obtain ⟨hc, hdispatch⟩ := dispatch_of_resolve_here host settings hs.out hresolve
    have ho : o = (performHere host c s).after (passing 0 entries) := hdispatch
    have hbehind : behind = .ok c := congrArg Prod.snd hresolve
    rw [ho, hbehind, Outcome.after_events, Event.written_append, written_err_passing,
      List.nil_append, Outcome.after_result]
    by_cases hsize : c.base = "size".toList
    · obtain ⟨hok, hwritten⟩ := performHere_size host hsize hs
      cases hanswer : (host.fileSize c.firstArgument s.host).1 with
      | ok bytes =>
        rw [hanswer] at hwritten
        right
        refine ⟨fun c' e hc' _ => ?_, hwritten⟩
        rw [← Except.ok.inj hc', hanswer]
        exact fun h => by cases h
      | error e =>
        rw [hanswer] at hwritten
        exact Or.inl ⟨c, e, rfl, hsize, hanswer, hok, hwritten⟩
    · right
      refine ⟨fun c' e hc' hsize' => ?_, written_err_performHere host hc hsize s⟩
      rw [← Except.ok.inj hc'] at hsize'
      exact absurd hsize' hsize

/-- No command fails for want of a line to read. -/
lemma unread_ne_dispatch (host : Host σ) (settings : Settings) (command : Command)
    (s : Shell σ ι) : (dispatch host settings command s).result ≠ .error .unread := by
  intro hunread
  rcases ((composed_dispatch host settings command).effect s).fault _ hunread with h | ⟨⟨_, h⟩, -⟩
  · exact h
  · cases h

/-! ## What steps write to standard error -/

/-- A step reports the fault in which its dispatch has ended. -/
lemma written_err_settling (result : Except Fault ExitCode) :
    Event.written .err (settling result) =
      match result with
      | .ok _ => []
      | .error f => Utf8.encode (Complaint.failed f).text := by
  cases result with
  | ok code => rfl
  | error f => exact List.append_nil _

/-- Without a line, a step reports that there was none, unless the session ends there. -/
lemma complaint_of_no_line (host : Host σ) (settings : Settings) (source : LineSource ι)
    {s : Shell σ ι} (hs : s.Unlimited)
    (hnone : Feed.givenLine (source.next s.session.prompt s.source).result = []) :
    ∃ complaint : Option Complaint,
      (∀ c, complaint = some c ↔ s.Complains host settings source c) ∧
        Event.written .err (step host settings source s).events =
          complaint.elim [] fun c => Utf8.encode c.text := by
  have hunread : Event.written .err [.wrote .err (Utf8.encode Fault.unread.report)] =
      Utf8.encode Complaint.unread.text := List.append_nil _
  rw [step_of_no_read host settings source hs hnone, Event.written_append, written_err_beginning,
    List.nil_append]
  rcases hread : (source.next s.session.prompt s.source).result with e | line | _
  · refine ⟨some .unread, fun c => ?_, hunread⟩
    cases c <;> simp [Shell.Complains, hread]
  · simp [hread, Feed.givenLine] at hnone
  · cases hleave : settings.leaveAtEnd with
    | true =>
      refine ⟨none, fun c => ?_, ?_⟩
      · cases c <;> simp [Shell.Complains, hread, hleave]
      · rw [declining, if_pos hleave]
        rfl
    | false =>
      refine ⟨some .unread, fun c => ?_, ?_⟩
      · cases c <;> simp [Shell.Complains, hread, hleave]
      · rw [declining, if_neg (Bool.eq_false_iff.mp hleave)]
        exact hunread

/-- With a line, a shell has no complaint but about that line. -/
lemma complains_of_line (host : Host σ) (settings : Settings) (source : LineSource ι)
    {s : Shell σ ι} {line : Text}
    (hline : (source.next s.session.prompt s.source).result = .ok (.line line))
    (complaint : Complaint) :
    let s' := (s.reading source).record line
    s.Complains host settings source complaint ↔
      match complaint with
      | .unread => False
      | .failed fault => (dispatch host settings (Command.parse line) s').result = .error fault
      | .unsized path e =>
        ∃ c, ((Command.parse line).resolve s'.session.history settings.recallDepth
            settings.recallDepth).2 = .ok c ∧
          c.base = "size".toList ∧ c.firstArgument = path ∧
            (host.fileSize path s'.host).1 = .error e := by
  intro s'
  have hothers : ∀ line', (source.next s.session.prompt s.source).result = .ok (.line line') →
      line' = line := by
    intro line' hline'
    cases hline'.symm.trans hline
    rfl
  cases complaint with
  | unread => simp [Shell.Complains, hline]
  | failed fault =>
    constructor
    · rintro ⟨line', hline', hfault⟩
      rwa [hothers line' hline'] at hfault
    · exact fun hfault => ⟨line, hline, hfault⟩
  | unsized path e =>
    constructor
    · rintro ⟨line', c, hline', hc⟩
      rw [hothers line' hline'] at hc
      exact ⟨c, hc⟩
    · rintro ⟨c, hc⟩
      exact ⟨line, c, hline, hc⟩

/-- With a line, a step reports the fault in which the dispatch of the line ends, or the file whose
size the line has asked for in vain. -/
lemma complaint_of_line (host : Host σ) (settings : Settings) (source : LineSource ι)
    {s : Shell σ ι} (hs : s.Unlimited) {line : Text}
    (hline : (source.next s.session.prompt s.source).result = .ok (.line line)) :
    ∃ complaint : Option Complaint,
      (∀ c, complaint = some c ↔ s.Complains host settings source c) ∧
        Event.written .err (step host settings source s).events =
          complaint.elim [] fun c => Utf8.encode c.text := by
  rw [step_of_next_line host settings source hs hline]
  simp only [Event.written_append, written_err_beginning, written_err_accepting,
    List.nil_append, written_err_settling, complains_of_line host settings source hline]
  have hdispatch := written_err_dispatch host settings ((hs.reading source).record line)
    (Command.parse line)
  rcases hdispatch with ⟨c, e, hbehind, hsize, hanswer, ⟨code, hok⟩, hwritten⟩ | ⟨hnone, hwritten⟩
  · refine ⟨some (.unsized c.firstArgument e), fun complaint => ?_, ?_⟩
    · cases complaint with
      | unread => simp
      | failed fault => simp [hok]
      | unsized path e' =>
        simp only [hbehind, Option.some.injEq, Complaint.unsized.injEq, Except.ok.injEq]
        constructor
        · rintro ⟨rfl, rfl⟩
          exact ⟨c, rfl, hsize, rfl, hanswer⟩
        · rintro ⟨_, rfl, -, rfl, hanswer'⟩
          exact ⟨rfl, Except.error.inj (hanswer.symm.trans hanswer')⟩
    · rw [hwritten, hok]
      exact List.append_nil _
  · rw [hwritten, List.nil_append]
    -- Without a file that was asked for in vain, the one thing to report is a fault.
    have hsized : ∀ path e, ¬ ∃ c, ((Command.parse line).resolve
        ((s.reading source).record line).session.history settings.recallDepth
          settings.recallDepth).2 = .ok c ∧ c.base = "size".toList ∧ c.firstArgument = path ∧
        (host.fileSize path ((s.reading source).record line).host).1 = .error e := by
      rintro _ e ⟨c, hbehind, hsize, rfl, hanswer⟩
      exact hnone c e hbehind hsize hanswer
    cases hresult : (dispatch host settings (Command.parse line)
      ((s.reading source).record line)).result with
    | ok code =>
      refine ⟨none, fun complaint => ?_, rfl⟩
      cases complaint with
      | unread => simp
      | failed fault => simp
      | unsized path e => exact iff_of_false (fun h => by cases h) (hsized path e)
    | error f =>
      refine ⟨some (.failed f), fun complaint => ?_, rfl⟩
      cases complaint with
      | unread => simp
      | failed fault => simp
      | unsized path e => exact iff_of_false (fun h => by cases h) (hsized path e)

/-- **What a step reports.**  Over streams that take everything a step succeeds, whatever comes of
its read and of its command.  It has one complaint to make or none, and writes that to standard
error and nothing else.  That there was no line to read is never a fault of a command.  A line that
was carried out with an exit code, whatever that is, is not complained about unless it has asked in
vain for the size of a file.  And the session is asked to end only by the end of the input, if the
settings say so, or by a line that comes down to `exit`. -/
theorem step_reports (host : Host σ) (settings : Settings) (source : LineSource ι)
    {s : Shell σ ι} (hs : s.Unlimited) :
    let result := (source.next s.session.prompt s.source).result
    let o := step host settings source s
    o.result = .ok () ∧
      (∃ complaint : Option Complaint,
        (∀ c, complaint = some c ↔ s.Complains host settings source c) ∧
          Event.written .err o.events = complaint.elim [] fun c => Utf8.encode c.text) ∧
      (∀ fault, s.Complains host settings source (.failed fault) → fault ≠ .unread) ∧
      (∀ line code, result = .ok (.line line) →
        (dispatch host settings (Command.parse line) ((s.reading source).record line)).result =
          .ok code →
        (∀ path e, ¬ s.Complains host settings source (.unsized path e)) →
          Event.written .err o.events = []) ∧
      (o.shell.session.leaving = true ↔ s.session.leaving = true ∨
        (result = .ok .ended ∧ settings.leaveAtEnd = true) ∨
          ∃ line c, result = .ok (.line line) ∧
            ((Command.parse line).resolve (s.session.history.append line) settings.recallDepth
              settings.recallDepth).2 = .ok c ∧ c.base = "exit".toList) := by
  intro result o
  have hleaving := leaving_step_of_source host settings source hs
  simp only [askToLeave_givenLine] at hleaving
  have hcomplaint : o.result = .ok () ∧ ∃ complaint : Option Complaint,
      (∀ c, complaint = some c ↔ s.Complains host settings source c) ∧
        Event.written .err o.events = complaint.elim [] fun c => Utf8.encode c.text := by
    rcases Feed.givenLine_cases result with hnone | ⟨line, hline, -⟩
    · refine ⟨?_, complaint_of_no_line host settings source hs hnone⟩
      exact congrArg Outcome.result (step_of_no_read host settings source hs hnone)
    · refine ⟨?_, complaint_of_line host settings source hs hline⟩
      exact congrArg Outcome.result (step_of_next_line host settings source hs hline)
  obtain ⟨hok, complaint, hiff, hwritten⟩ := hcomplaint
  refine ⟨hok, ⟨complaint, hiff, hwritten⟩, ?_, fun line code hline hcode hsize => ?_, hleaving⟩
  · rintro fault ⟨line, -, hfault⟩ rfl
    exact unread_ne_dispatch host settings _ _ hfault
  have hnone : complaint = none := by
    refine Option.eq_none_iff_forall_ne_some.mpr fun c hc => ?_
    have hcomplains := (hiff c).mp hc
    cases c with
    | unread =>
      rcases hcomplains with ⟨e, he⟩ | ⟨hended, -⟩
      · cases he.symm.trans hline
      · cases hended.symm.trans hline
    | failed fault =>
      obtain ⟨line', hline', hfault⟩ := hcomplains
      cases hline'.symm.trans hline
      cases hfault.symm.trans hcode
    | unsized path e => exact hsize path e hcomplains
  rw [hwritten, hnone]
  rfl

/-- A recalled `size` of a file that is not there is complained about once, and by the system's own
text. -/
theorem step_reports_recalled_size :
    let s : Shell Unit Feed :=
      { session := Session.start Settings.standard ⟨["size gone.txt\n".toList]⟩ none, host := (),
        source := [.chunk (Utf8.encode "!1\n".toList)], out := none, err := none }
    let o := step Host.idle Settings.standard .plain s
    o.result = .ok () ∧
      Event.written .err o.events =
        Utf8.encode "gone.txt: No such file or directory\n".toList := by
  intro s o
  have hs : s.Unlimited := ⟨rfl, rfl⟩
  obtain ⟨hok, ⟨complaint, hiff, hwritten⟩, -⟩ :=
    step_reports Host.idle Settings.standard .plain hs
  have hcomplains : s.Complains Host.idle Settings.standard .plain
      (.unsized "gone.txt".toList ⟨some 2, "No such file or directory".toList⟩) := by
    refine ⟨"!1\n".toList, Command.parse "size gone.txt\n".toList, ?_, ?_, ?_, ?_, rfl⟩
    · decide +kernel
    · decide +kernel
    · decide +kernel
    · decide +kernel
  rw [(hiff _).mpr hcomplains] at hwritten
  exact ⟨hok, hwritten⟩

end LineShell
