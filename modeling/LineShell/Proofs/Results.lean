import LineShell.Proofs.Ending
import LineShell.Proofs.Steering

/-!
# What the result of a command tells

A command ends with an exit code or with a fault, and either says what has become of the session and
of the system shell.  This holds whatever the streams do, so a write may be refused halfway through
a listing or after a timed command has run, and a flush may fail between two recalls.

Two facts carry this.  `dispatchWithin_cases` goes from a command to the one behind its recalls over
any streams: the way there neither alters the session nor calls the system shell, and it may end
early.  And each command that is no recall fails in its own ways only, which its moves show
(`Command.Does`).  The main statement is `dispatch_all_or_nothing`.
-/

namespace LineShell

variable {σ ι : Type}

/-! ## What faults tell -/

/-- What a command asks of the echo: `set +v` asks for none and `set -v` asks for it. -/
def Command.echoAsked (c : Command) : Option Bool :=
  if c.base = "set".toList then
    if c.firstArgument = "+v".toList then some false
    else if c.firstArgument = "-v".toList then some true
    else none
  else none

/-- Nothing is handed to the system shell and the session is not altered. -/
structure Event.Idle (events : List Event) : Prop where
  runs : runs events = []
  changes : changes events = []

namespace Event.Idle

/-- No events are idle. -/
lemma nil : Idle [] := ⟨rfl, rfl⟩

/-- Idle events after idle events are idle. -/
lemma append {es fs : List Event} (h : Idle es) (h' : Idle fs) : Idle (es ++ fs) where
  runs := by rw [runs_append, h.runs, h'.runs, List.nil_append]
  changes := by rw [changes_append, h.changes, h'.changes, List.nil_append]

end Event.Idle

/-- An action that is composed without changes and without calls of the system shell is idle. -/
lemma Composed.idle {α : Type} {can : Move → Prop} {x : Action σ ι Fault α} (hx : Composed can x)
    (hchange : ∀ c, ¬ can (.alters c)) (hhands : ∀ text, ¬ can (.hands text)) (s : Shell σ ι) :
    Event.Idle (x s).events where
  runs := Event.runs_eq_nil (hx.texts_eq_nil hhands s)
  changes := hx.changes_eq_nil hchange s

/-- What a fault tells of the events before it, where `behind` is the command behind the recalls, if
there is one. -/
def Fault.Tells (behind : Except Fault Command) (events : List Event) : Fault → Prop
  | .unread => False
  | .notRun =>
    (∃ text e, Event.runs events = [(text, .error e)]) ∨
      Event.runs events = [] ∧
        ∃ c, behind = .ok c ∧ c.base = "set".toList ∧ c.echoAsked = none
  | .io _ =>
    (∃ before stream, events = before ++ [.refused stream] ∧
        (Event.runs events = [] ∨
          ∃ c call, behind = .ok c ∧ c.base = "time".toList ∧ Event.runs events = [call])) ∨
      ∃ before bytes, events = before ++ [.wrote .out bytes, .unflushed] ∧ Event.runs events = []
  | _ => Event.runs events = []

/-- Idle events before others do not alter what a fault tells of these. -/
lemma Fault.Tells.after {behind : Except Fault Command} {f : Fault} {events : List Event}
    (h : f.Tells behind events) {shown : List Event} (hshown : Event.Idle shown) :
    f.Tells behind (shown ++ events) := by
  have hruns : Event.runs (shown ++ events) = Event.runs events := by
    rw [Event.runs_append, hshown.runs, List.nil_append]
  cases f with
  | unread => exact h
  | notRun =>
    unfold Fault.Tells
    rw [hruns]
    exact h
  | io e =>
    unfold Fault.Tells
    rw [hruns]
    rcases h with ⟨before, stream, hevents, hcalls⟩ | ⟨before, bytes, hevents, hcalls⟩
    · exact Or.inl ⟨shown ++ before, stream, by rw [hevents, List.append_assoc], hcalls⟩
    · exact Or.inr ⟨shown ++ before, bytes, by rw [hevents, List.append_assoc], hcalls⟩
  | _ => exact hruns.trans h

/-! ## The way to the command behind a recall -/

/-- Where a line is found it is shown on standard output.  If it is refused or cannot be flushed,
that is the fault, and it tells so. -/
lemma recalled_cases (depth : ℕ) {n : ℤ} {s : Shell σ ι} {line : Text}
    (hline : s.session.history.get? n = some line) :
    (∃ room, (recalled depth n s).result = .ok line ∧
        (recalled depth n s).shell = s.setRoom .out room) ∨
      ∃ e, (recalled depth n s).result = .error (.io e) ∧
        ∀ behind, (Fault.io e).Tells behind (recalled depth n s).events := by
  set shown := Line.dropNewlines line ++ ['\n']
  set note := Event.noted (.recalling n depth (trimEnd line))
  unfold recalled
  rw [Action.bind_apply, Action.session_apply]
  rcases Action.print_cases .out shown s with ⟨-, hprint⟩ | ⟨e, -, hprint⟩
  · generalize ((s.room .out).offer _).left = room at hprint
    rcases Action.drain_cases (s.setRoom .out room) with ⟨-, hdrain⟩ | ⟨e, -, hdrain⟩
    · exact Or.inl ⟨_, by simp [hline, shown, hprint, hdrain],
        by simp [hline, shown, hprint, hdrain]; rfl⟩
    · refine Or.inr ⟨e, by simp [hline, shown, hprint, hdrain], fun behind => Or.inr ?_⟩
      exact ⟨[note], Utf8.encode shown, by simp [hline, shown, note, hprint, hdrain],
        by simp [hline, shown, hprint, hdrain, Event.runs]⟩
  · generalize ((s.room .out).offer _).taken = taken at hprint
    refine Or.inr ⟨e, by simp [hline, shown, hprint], fun behind => Or.inl ?_⟩
    exact ⟨[note, .wrote .out taken], .out, by simp [hline, shown, note, hprint],
      Or.inl (by simp [hline, shown, hprint, Event.runs])⟩

/-- **The way to the command behind a recall is idle**, whatever the streams do.  It leads to that
command, with another room of standard output, or it ends in a fault that tells what it should, with
the session as it was. -/
theorem dispatchWithin_cases (host : Host σ) (limit left : ℕ) (c : Command) (s : Shell σ ι) :
    ∃ shown, Event.Idle shown ∧
      ((∃ c' room, (c.resolve s.session.history limit left).2 = .ok c' ∧ ¬ c'.IsRecall ∧
          dispatchWithin host limit left c s =
            (performHere host c' (s.setRoom .out room)).after shown) ∨
        ∃ f s', f.Tells (c.resolve s.session.history limit left).2 shown ∧
          s'.session = s.session ∧
          dispatchWithin host limit left c s = ⟨.error f, s', shown⟩) := by
  generalize hhistory : s.session.history = h
  fun_induction Command.resolve h limit left c generalizing s with
  | case1 left c index hbase hn =>
    refine ⟨[], .nil, Or.inr ⟨.badIndex, s, rfl, rfl, ?_⟩⟩
    cases left <;> simp [dispatchWithin, perform_of_recall host _ hbase, wanted, hn]
  | case2 c index hbase n hn =>
    refine ⟨[], .nil, Or.inr ⟨.tooDeep limit, s, rfl, rfl, ?_⟩⟩
    simp [dispatchWithin, perform_of_recall host _ hbase, wanted, hn]
  | case3 c index hbase n left hn hline =>
    refine ⟨[], .nil, Or.inr ⟨.noSuchLine n, s, rfl, rfl, ?_⟩⟩
    simp [dispatchWithin, perform_of_recall host _ hbase, wanted, hn, recalled, hhistory, hline]
  | case4 c index hbase n left hn line hline further ih =>
    have hcomposed : Composed _ (recalled (limit - (left + 1)) n : Action σ ι Fault Text) :=
      composed_recalled _ n
    have hidle := hcomposed.idle (by rintro c (h | h | h) <;> cases h)
      (by rintro text (h | h | h) <;> cases h) s
    rw [dispatchWithin, perform_of_recall host _ hbase]
    simp only [Action.bind_apply, wanted, hn, Action.pure_apply, Outcome.after_nil]
    rcases recalled_cases (limit - (left + 1)) (hhistory ▸ hline) with
      ⟨room, hok, hshell⟩ | ⟨e, hfailed, htells⟩
    · obtain ⟨shown, hshown, hrest⟩ := ih (s.setRoom .out room)
        (by rw [Shell.session_setRoom, hhistory])
      rw [hok, hshell]
      refine ⟨_, hidle.append hshown, ?_⟩
      rcases hrest with ⟨c', room', hc', hrecall, hperform⟩ | ⟨f, s', hf, hs', hfault⟩
      · exact Or.inl ⟨c', room', hc', hrecall, by simp [hperform]; rfl⟩
      · exact Or.inr ⟨f, s', hf.after hidle, by rw [hs', Shell.session_setRoom], by simp [hfault]⟩
    · have hsession : (recalled (limit - (left + 1)) n s).shell.session = s.session := by
        rw [(hcomposed.effect s).session, Event.replay, hidle.changes]
        rfl
      rw [hfailed]
      exact ⟨_, hidle, Or.inr ⟨.io e, _, htells _, hsession, rfl⟩⟩
  | case5 left c hbase =>
    have hc : ¬ c.IsRecall := by
      rw [Command.isRecall_iff]
      rintro ⟨index, hmark⟩
      exact hbase index hmark
    refine ⟨[], .nil, Or.inl ⟨c, s.room .out, rfl, hc, ?_⟩⟩
    rw [dispatchWithin_of_not_isRecall host limit left hc, Shell.setRoom_room, Outcome.after_nil]

/-! ## Commands that succeed -/

/-- A `set` whose flag is known switches the echo and does nothing else. -/
lemma performHere_of_echoAsked (host : Host σ) {c : Command} {on : Bool}
    (hasked : c.echoAsked = some on) (s : Shell σ ι) :
    performHere host c s = ⟨.ok 0, { s with session := s.session.apply (.echo on) },
      [.noted (.builtinBegins c.base), .changed (.echo on)]⟩ := by
  unfold Command.echoAsked at hasked
  split_ifs at hasked with hset hoff hon
  · have hverb : c.verb = .switch := (Command.verb_eq_iff rfl).mpr hset
    simp [performHere, perform, hverb, builtin_apply, Builtin.switch, hoff,
      ← Option.some.inj hasked]
  · have hverb : c.verb = .switch := (Command.verb_eq_iff rfl).mpr hset
    simp [performHere, perform, hverb, builtin_apply, Builtin.switch, hon,
      ← Option.some.inj hasked]

/-- A `set` whose flag is not known fails and does nothing else. -/
lemma performHere_of_echoAsked_eq_none (host : Host σ) {c : Command} (hset : c.base = "set".toList)
    (hasked : c.echoAsked = none) (s : Shell σ ι) :
    performHere host c s = ⟨.error .notRun, s,
      [.noted (.builtinBegins c.base), .noted (.unknownFlag c.firstArgument)]⟩ := by
  have hverb : c.verb = .switch := (Command.verb_eq_iff rfl).mpr hset
  unfold Command.echoAsked at hasked
  rw [if_pos hset] at hasked
  split_ifs at hasked with hoff hon
  simp only [performHere, perform, hverb, builtin_apply, Builtin.switch, if_neg hoff, if_neg hon]
  rfl

/-- A command that asks neither to leave nor for the echo leaves the session as it was. -/
lemma session_performHere (host : Host σ) {c : Command} (hc : ¬ c.IsRecall)
    (hexit : c.base ≠ "exit".toList) (hset : c.base ≠ "set".toList) (s : Shell σ ι) :
    (performHere host c s).shell.session = s.session := by
  have hcomposed : Composed c.Does (performHere host c : Action σ ι Fault ExitCode) :=
    composed_performHere host hc
  have hchanges := hcomposed.changes_eq_nil (fun change hdoes => by
    rcases hdoes.alters with ⟨hverb, -⟩ | ⟨hverb, -⟩
    · exact hexit (Command.verb_eq_leave_iff.mp hverb)
    · exact hset ((Command.verb_eq_iff rfl).mp hverb)) s
  rw [(hcomposed.effect s).session, Event.replay, hchanges]
  rfl

/-- Only four commands print. -/
lemma Command.Does.prints {c : Command} {stream : Stream} (h : c.Does (.prints stream)) :
    c.verb = .size ∨ c.verb = .history ∨ c.verb = .time ∨ c.verb = .times := by
  unfold Command.Does at h
  split at h <;> simp_all

end LineShell
