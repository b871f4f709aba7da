import LineShell.Proofs.Fitting
import LineShell.Proofs.Results

/-!
# The shape of what is stored and handed over

Whatever the input is and whatever the streams do, a step does one of two things: it leaves the
history alone and hands nothing over, or a line that it reads joins the history and the texts that
it hands over are those of the command behind the line (`Handling`, `handling_step`).  So every line
of the history has been read, and every text comes from a line of the history.

The main statement `keepStepping_shape` reads off what shape they have after any number of steps.
-/

namespace LineShell

variable {σ ι ε α β : Type}

/-! ## The command behind a text -/

/-- The command behind a line of the history is that of a line of the history. -/
lemma Command.exists_line_of_resolve {h : History} {limit left : ℕ} {c c' : Command}
    (hc : ∃ line ∈ h.lines, c = parse line) (hc' : (c.resolve h limit left).2 = .ok c') :
    ∃ line ∈ h.lines, c' = parse line := by
  fun_induction resolve h limit left c with
  | case1 => cases hc'
  | case2 => cases hc'
  | case3 => cases hc'
  | case4 c index hbase n left hn line hline further ih =>
    obtain ⟨-, -, hentry⟩ := History.get?_eq_some_iff.mp hline
    exact ih ⟨line, List.mem_of_getElem? hentry, rfl⟩ hc'
  | case5 left c hbase => exact Except.ok.inj hc' ▸ hc

/-- **A text comes from the command behind the recalls**, whatever the streams do. -/
theorem does_of_mem_texts (host : Host σ) (limit left : ℕ) (c : Command) {s : Shell σ ι}
    {text : Text} (htext : text ∈ Event.texts (dispatchWithin host limit left c s).events) :
    ∃ c', (c.resolve s.session.history limit left).2 = .ok c' ∧ c'.Does (.hands text) := by
  obtain ⟨shown, hshown, hcases⟩ := dispatchWithin_cases host limit left c s
  have hsilent : Event.texts shown = [] := by
    rw [Event.texts_eq_map_runs, hshown.runs, List.map_nil]
  rcases hcases with ⟨c', room, hc', hc, hperform⟩ | ⟨f, s', -, -, hfault⟩
  · rw [hperform, Outcome.after_events, Event.texts_append, hsilent, List.nil_append] at htext
    have heffect := (composed_performHere host hc).effect (s.setRoom .out room)
    exact ⟨c', hc', Event.can_of_mem_texts heffect.events htext⟩
  · rw [hfault, hsilent] at htext
    cases htext

/-! ## Actions that store nothing and hand nothing over -/

/-- The action leaves the history alone and hands nothing to the system shell. -/
def Action.Inert (x : Action σ ι ε α) : Prop :=
  ∀ s, (x s).shell.session.history = s.session.history ∧ Event.texts (x s).events = []

/-- An action that is assembled without records and calls of the system shell is inert. -/
lemma Assembled.inert {can : Move → Prop} {x : Action σ ι IoError α} (hx : Assembled can x)
    (hrecord : ∀ line, ¬ can (.alters (.record line))) (hhands : ∀ text, ¬ can (.hands text)) :
    x.Inert := by
  intro s
  have hregular := hx.regular s
  refine ⟨?_, List.eq_nil_iff_forall_not_mem.mpr fun text htext => ?_⟩
  · rw [hregular.session]
    exact Event.history_replay _ fun line hline =>
      hrecord line (Event.can_of_mem_changes hregular.events hline)
  · exact hhands text (Event.can_of_mem_texts hregular.events htext)

/-- An action that is assembled from calls of the streams is inert. -/
lemma Assembled.inert_of_calls {stream : Stream} {x : Action σ ι IoError α}
    (hx : Assembled (fun m => m = .prints stream ∨ m = .flushes) x) : x.Inert :=
  hx.inert (by rintro line (h | h) <;> cases h) (by rintro text (h | h) <;> cases h)

/-- A report is inert. -/
lemma inert_report (r : Record) (f : Fault) :
    (Action.note r >>= fun _ => report f : Action σ ι IoError Unit).Inert :=
  ((assembled_report r f).mono fun _ => Or.inl).inert_of_calls

/-- After an inert action comes the next one, unless it fails. -/
lemma Action.Inert.bind_cases {x : Action σ ι ε α} (hx : x.Inert) (f : α → Action σ ι ε β)
    (s : Shell σ ι) :
    (((x >>= f) s).shell.session.history = s.session.history ∧
        Event.texts ((x >>= f) s).events = []) ∨
      ∃ a s', s'.session.history = s.session.history ∧ ((x >>= f) s).shell = (f a s').shell ∧
        Event.texts ((x >>= f) s).events = Event.texts (f a s').events := by
  obtain ⟨hhistory, htexts⟩ := hx s
  rw [Action.bind_apply]
  cases hresult : (x s).result with
  | error e => exact Or.inl ⟨hhistory, htexts⟩
  | ok a => exact Or.inr ⟨a, (x s).shell, hhistory, rfl, by simp [htexts]⟩

/-! ## What a step stores and hands over -/

/-- What a step stores and hands over, whatever the streams do: nothing, or the line that it
reads and texts of the command behind that line. -/
inductive Handling (settings : Settings) (s : Shell σ Feed) (o : Outcome σ Feed IoError Unit) :
    Prop where
  | nothing (history : o.shell.session.history = s.session.history)
      (texts : Event.texts o.events = [])
  | line {line : Text} (read : s.source.next.1 = .ok (.line line))
      (history : o.shell.session.history = s.session.history.append line)
      (texts : ∀ text ∈ Event.texts o.events,
        ∃ c, s.upcoming settings = some c ∧ c.Does (.hands text))

/-- Events without texts before an outcome do not alter what is stored and handed over. -/
lemma Handling.after {settings : Settings} {s : Shell σ Feed} {o : Outcome σ Feed IoError Unit}
    (h : Handling settings s o) {events : List Event} (hevents : Event.texts events = []) :
    Handling settings s (o.after events) := by
  have htexts : Event.texts (o.after events).events = Event.texts o.events := by simp [hevents]
  cases h with
  | nothing history texts => exact .nothing history (htexts.trans texts)
  | line read history texts => exact .line read history (by rwa [htexts])

/-- Entering a line stores it and hands over texts of the command behind it. -/
lemma handling_enterLine (host : Host σ) (settings : Settings) {s s' : Shell σ Feed} {line : Text}
    (hread : s.source.next.1 = .ok (.line line))
    (hhistory : s'.session.history = s.session.history) :
    Handling settings s (enterLine host settings line s') := by
  generalize ho : dispatch host settings (Command.parse line) (s'.record line) = o
  have hhere : (s'.record line).session.history = s.session.history.append line := by
    rw [← hhistory]
    rfl
  have henter : enterLine host settings line s' = (settle o.result o.shell).after
      ([.changed (.record line)] ++ o.events) := by
    rw [← ho]
    simp [enterLine, Shell.record]
  obtain ⟨hsettled, hsilent⟩ := (assembled_settle o.result).inert_of_calls o.shell
  rw [henter]
  refine .line hread ?_ fun text htext => ?_
  · rw [Outcome.after_shell, hsettled, ← ho, history_dispatch, hhere]
  · rw [Outcome.after_events, Event.texts_append, Event.texts_append, hsilent, List.append_nil,
      ← ho] at htext
    obtain ⟨c, hc, hdoes⟩ := does_of_mem_texts host _ _ _ htext
    rw [hhere] at hc
    exact ⟨c, (s.upcoming_eq_some_iff settings c).mpr ⟨line, _, hread, Prod.ext rfl hc⟩, hdoes⟩

/-- Answering a read stores and hands over what the read gives. -/
lemma handling_answer (host : Host σ) (settings : Settings) {s s' : Shell σ Feed}
    (hhistory : s'.session.history = s.session.history) :
    Handling settings s (answer host settings s.source.next.1 s') := by
  have hinert : ∀ {x : Action σ Feed IoError Unit}, x.Inert → Handling settings s (x s') := by
    intro x hx
    exact .nothing ((hx s').1.trans hhistory) (hx s').2
  rcases hread : s.source.next.1 with e | line | _
  · exact hinert (inert_report (.readFailed e) .unread)
  · change Handling settings s (obey host settings line s')
    rw [obey_apply]
    refine Handling.after ?_ rfl
    have hecho := (assembled_echoLine line : Assembled _ (_ : Action σ Feed _ _)).inert_of_calls
    rcases hecho.bind_cases (fun _ => enterLine host settings line) s' with
      ⟨hsame, htexts⟩ | ⟨-, s'', hsame, hshell, htexts⟩
    · exact .nothing (hsame.trans hhistory) htexts
    · cases handling_enterLine host settings hread (hsame.trans hhistory) with
      | nothing history texts => exact .nothing (hshell ▸ history) (htexts ▸ texts)
      | line read history texts => exact .line read (hshell ▸ history) (htexts ▸ texts)
  · unfold answer
    split_ifs
    · have hleave : Assembled (· = .alters .leave)
          (Action.note .endedAndLeaving >>= fun _ => Action.change .leave :
            Action σ Feed IoError Unit) := .bind (.note _) fun _ => .change rfl
      exact hinert (hleave.inert (by rintro line ⟨⟩) (by rintro text ⟨⟩))
    · exact hinert (inert_report .ended .unread)

/-- **A step stores a line that it reads, or nothing**, and hands over texts of the command behind
that line, or nothing. -/
theorem handling_step (host : Host σ) (settings : Settings) (s : Shell σ Feed) :
    Handling settings s (step host settings .plain s) := by
  rw [step_eq, Action.bind_apply]
  rcases Action.write_cases .out ['\n'] s with ⟨-, hwrite⟩ | ⟨_, -, hwrite⟩ <;> rw [hwrite]
  · refine Handling.after ?_ rfl
    generalize ((s.room .out).offer _).left = room
    rw [Action.bind_apply]
    rcases Action.flush_cases (s.setRoom .out room) with ⟨-, hflush⟩ | ⟨_, -, hflush⟩ <;>
      rw [hflush]
    · refine Handling.after ?_ rfl
      generalize hs' : (s.setRoom .out room).setRoom .out _ = s'
      have hsource : s'.source = s.source := by simp [← hs']
      have hsession : s'.session = s.session := by simp [← hs']
      rw [Action.bind_apply]
      rcases Action.readLine_plain_cases IoError s' with
        ⟨_, -, hread⟩ | ⟨e, room', _, _, -, hlast, hread⟩ <;> rw [hread]
      · refine Handling.after ?_ rfl
        rw [hsource]
        exact handling_answer host settings (congrArg Session.history hsession)
      · refine Handling.after ?_ (by rcases hlast with rfl | rfl <;> rfl)
        obtain ⟨hhistory, htexts⟩ := inert_report (.readFailed e) .unread
          ({ s' with out := room' } : Shell σ Feed)
        exact .nothing (hhistory.trans (congrArg Session.history hsession)) htexts
    · exact .nothing (by simp) rfl
  · exact .nothing (by simp) rfl

/-! ## Any number of steps -/

/-- A step over a history of lines that fit leaves such a history, and the texts that it hands over
fit too: they are texts of its command, and those made of arguments have no newline. -/
lemma fits_step (host : Host σ) (settings : Settings) {s : Shell σ Feed}
    (hs : ∀ line ∈ s.session.history.lines, Line.Fits line) :
    (∀ line ∈ (step host settings .plain s).shell.session.history.lines, Line.Fits line) ∧
      ∀ text ∈ Event.texts (step host settings .plain s).events,
        Utf8.size text < Line.capacity ∧ '\n' ∉ text.dropLast ∧
          ∃ c, s.upcoming settings = some c ∧ c.Does (.hands text) ∧
            (c.verb ≠ .delegate → '\n' ∉ text) := by
  cases handling_step host settings s with
  | nothing hhistory htexts =>
    rw [hhistory, htexts]
    exact ⟨hs, by simp⟩
  | @line line hread hhistory htexts =>
    have hfits : ∀ line' ∈ (s.session.history.append line).lines, Line.Fits line' := by
      intro line' hline'
      rcases List.mem_append.mp hline' with hold | hnew
      · exact hs line' hold
      · rw [List.mem_singleton.mp hnew]
        exact Feed.fits_of_next hread
    rw [hhistory]
    refine ⟨hfits, fun text htext => ?_⟩
    obtain ⟨c, hupcoming, hdoes⟩ := htexts text htext
    obtain ⟨line', entries, hread', hresolve⟩ := (s.upcoming_eq_some_iff settings c).mp hupcoming
    obtain rfl : line = line' := Read.line.inj (Except.ok.inj (hread.symm.trans hread'))
    have hline : line ∈ (s.session.history.append line).lines := by simp
    obtain ⟨stored, hstored, rfl⟩ := Command.exists_line_of_resolve ⟨line, hline, rfl⟩
      (congrArg Prod.snd hresolve)
    obtain ⟨hsize, hnewline, hnone⟩ := hdoes.fits (hfits stored hstored)
    exact ⟨hsize, hnewline, _, hupcoming, hdoes, hnone⟩

/-- Any number of steps over an empty history store lines that fit and hand over texts that fit. -/
lemma fits_keepStepping (host : Host σ) (settings : Settings) (n : ℕ) {s : Shell σ Feed}
    (hs : s.session.history = History.empty) :
    (∀ line ∈ (keepStepping host settings .plain n s).shell.session.history.lines,
        Line.Fits line) ∧
      ∀ text ∈ Event.texts (keepStepping host settings .plain n s).events,
        Utf8.size text < Line.capacity ∧ '\n' ∉ text.dropLast := by
  induction n with
  | zero =>
    rw [keepStepping_zero, hs]
    exact ⟨fun line hline => absurd hline List.not_mem_nil,
      fun text htext => absurd htext List.not_mem_nil⟩
  | succ n ih =>
    obtain ⟨hlines, htexts⟩ := ih
    obtain ⟨hshell, hevents⟩ := keepStepping_succ_last host settings .plain n s
    obtain ⟨hlines', htexts'⟩ := fits_step host settings hlines
    rw [hshell, hevents]
    refine ⟨hlines', fun text htext => ?_⟩
    rw [Event.texts_append] at htext
    rcases List.mem_append.mp htext with hbefore | hlast
    · exact htexts text hbefore
    · obtain ⟨hsize, hnewline, -⟩ := htexts' text hlast
      exact ⟨hsize, hnewline⟩

/-- **The shape of everything stored and handed over.**  Let a session start with an empty history,
over any input and any streams, whose writes and flushes may fail at any time, and take any number
of steps, one after the other whatever comes of them or in a run.  Then every line of the history
has something in it, takes 255 bytes at most and has a newline at its end only.  Every text that was
handed to the system shell takes 255 bytes at most and has a newline at its end only, too.  The
texts that the next step hands over are the line of its command as it is, or they are made of
arguments and have no newline. -/
theorem keepStepping_shape (host : Host σ) (settings : Settings) {s : Shell σ Feed}
    (hs : s.session.history = History.empty) (n : ℕ) :
    let o := keepStepping host settings .plain n s
    let r := run host settings .plain n s
    (∀ line, line ∈ o.shell.session.history.lines ∨ line ∈ r.shell.session.history.lines →
      line ≠ [] ∧ (Utf8.encode line).length ≤ 255 ∧ '\n' ∉ line.dropLast) ∧
    (∀ text, text ∈ Event.texts o.events ∨ text ∈ Event.texts r.events →
      (Utf8.encode text).length ≤ 255 ∧ '\n' ∉ text.dropLast) ∧
    ∀ text ∈ Event.texts (step host settings .plain o.shell).events,
      ∃ c, o.shell.upcoming settings = some c ∧
        (c.verb = .delegate ∧ text = c.raw ∨
          (c.verb = .time ∧ text = Command.joined c.arguments ∨
            c.verb = .again ∧ text = Command.joined c.arguments.tail) ∧ '\n' ∉ text) := by
  intro o r
  -- A run has taken some number of steps one after the other.
  obtain ⟨m, -, hshell, hevents⟩ := exists_run_eq_keepStepping host settings .plain n s
  have htexts : Event.texts r.events =
      Event.texts (keepStepping host settings .plain m s).events := by
    change Event.texts (run host settings .plain n s).events = _
    rw [hevents, Event.texts_append, texts_closing, List.append_nil]
    rfl
  refine ⟨fun line hline => ?_, fun text htext => ?_, fun text htext => ?_⟩
  · have hfits : Line.Fits line := by
      rcases hline with hline | hline
      · exact (fits_keepStepping host settings n hs).1 line hline
      · exact (fits_keepStepping host settings m hs).1 line (hshell ▸ hline)
    rw [Utf8.length_encode]
    exact ⟨hfits.nonempty, Nat.le_of_lt_succ hfits.size, hfits.newline⟩
  · have hfits : Utf8.size text < Line.capacity ∧ '\n' ∉ text.dropLast := by
      rcases htext with htext | htext
      · exact (fits_keepStepping host settings n hs).2 text htext
      · exact (fits_keepStepping host settings m hs).2 text (htexts ▸ htext)
    rw [Utf8.length_encode]
    exact ⟨Nat.le_of_lt_succ hfits.1, hfits.2⟩
  · have hlines := (fits_keepStepping host settings n hs).1
    obtain ⟨-, -, c, hupcoming, hdoes, hnone⟩ := (fits_step host settings hlines).2 text htext
    refine ⟨c, hupcoming, ?_⟩
    rcases hdoes.hands with ⟨hverb, htext⟩ | ⟨hverb, htext⟩ | ⟨hverb, htext⟩
    · exact Or.inr ⟨Or.inl ⟨hverb, htext⟩, hnone (by rw [hverb]; rintro ⟨⟩)⟩
    · exact Or.inr ⟨Or.inr ⟨hverb, htext⟩, hnone (by rw [hverb]; rintro ⟨⟩)⟩
    · exact Or.inl ⟨hverb, htext⟩

/-- Three hundred bytes that are no text, and a recall of the line that they give: the line is three
times as long before it is cut, and it is handed over twice.  So it is where standard error takes
nothing, and so it is where a flush fails before the first read, one step later. -/
theorem keepStepping_shape_cut :
    let s (out err : Room) : Shell Unit Feed :=
      { session := Session.start Settings.standard History.empty none, host := (), out, err
        source := [.chunk (List.replicate 300 0xFF), .chunk [0x0A, 0x21], .chunk [0x31, 0x0A]] }
    let narrow := s (some (.upTo 1000)) (some (.upTo 0))
    let unsteady :=
      s (some (.replying fun k => if k = 1 then .fails 0 .refused else .complies)) none
    let line := List.replicate 84 Utf8.replacement ++ ['\n']
    narrow.session.history = History.empty ∧ unsteady.session.history = History.empty ∧
      Event.texts (keepStepping Host.idle Settings.standard .plain 2 narrow).events =
        [line, line] ∧
      Event.texts (keepStepping Host.idle Settings.standard .plain 3 unsteady).events =
        [line, line] ∧
      (keepStepping Host.idle Settings.standard .plain 3 unsteady).shell.session.history.lines =
        [line, "!1\n".toList] ∧
      (Utf8.encode line).length ≤ 255 ∧ '\n' ∉ line.dropLast := by
  intro s narrow unsteady line
  have hnarrow : narrow.session.history = History.empty := rfl
  have hunsteady : unsteady.session.history = History.empty := rfl
  have htexts : Event.texts (keepStepping Host.idle Settings.standard .plain 2 narrow).events =
      [line, line] := by
    decide +kernel
  have htexts' : Event.texts (keepStepping Host.idle Settings.standard .plain 3 unsteady).events =
      [line, line] := by
    decide +kernel
  have hlines :
      (keepStepping Host.idle Settings.standard .plain 3 unsteady).shell.session.history.lines =
        [line, "!1\n".toList] := by
    decide +kernel
  -- The text is what is handed over in the one shell, and a line that is stored in the other.
  obtain ⟨-, hshape, -⟩ := keepStepping_shape Host.idle Settings.standard hnarrow 2
  obtain ⟨hstored, -⟩ := keepStepping_shape Host.idle Settings.standard hunsteady 3
  obtain ⟨-, hsize, -⟩ := hstored line (Or.inl (by rw [hlines]; exact List.mem_cons_self))
  obtain ⟨-, hnewline⟩ := hshape line (Or.inl (by rw [htexts]; exact List.mem_cons_self))
  exact ⟨hnarrow, hunsteady, htexts, htexts', hlines, hsize, hnewline⟩

end LineShell
