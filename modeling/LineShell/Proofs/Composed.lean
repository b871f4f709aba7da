import LineShell.Proofs.Action

/-!
# Commands as compositions

Whatever a command does is put together from a few moves.  `Composed can x` says that the action
`x` is built, by doing one thing after another, from questions to the host, log records and the
moves that `can` allows.  The commands of the shell are walked through once, in
`composed_perform` and the lemmas before it: `Command.Does` says move by move what a command may do.
Every law that all commands obey is then an induction over `Composed`, with one short case for each
move, and what a certain command never does is read off its moves.

Two such laws are in this file.  `Composed.effect` says what a command leaves alone, whatever its
streams are: it never looks at the input, it alters the session only by the changes that it reports,
and each event of it is one that `can` allows.  `Composed.stops` says that a refused write or a
failed flush is the last thing that a command does.
-/

namespace LineShell

variable {σ ι α β : Type}

/-- A move of a command that can be noticed from outside. -/
inductive Move where
  /-- It prints something. -/
  | prints (stream : Stream)
  /-- It flushes standard output. -/
  | flushes
  /-- It hands a text to the system shell. -/
  | hands (text : Text)
  /-- It alters the session. -/
  | alters (change : Change)
  /-- It fails by itself. -/
  | raises (fault : Fault)

/-- The action is put together from moves that `can` allows, and from such as nobody notices. -/
inductive Composed (can : Move → Prop) : {α : Type} → Action σ ι Fault α → Prop where
  | value {α : Type} (a : α) : Composed can (pure a : Action σ ι Fault α)
  | bind {α β : Type} {x : Action σ ι Fault α} {f : α → Action σ ι Fault β} :
      Composed can x → (∀ a, Composed can (f a)) → Composed can (x >>= f)
  | session : Composed can (Action.session : Action σ ι Fault Session)
  | note (r : Record) : Composed can (Action.note r : Action σ ι Fault Unit)
  | drain (h : can .flushes) : Composed can (Action.drain : Action σ ι Fault Unit)
  | ask {α : Type} (question : σ → α × σ) :
      Composed can (Action.ask question : Action σ ι Fault α)
  | print {stream : Stream} (text : Text) (h : can (.prints stream)) :
      Composed can (Action.print stream text : Action σ ι Fault Unit)
  | hand (host : Host σ) {text : Text} (h : can (.hands text)) :
      Composed can (Action.hand host text : Action σ ι Fault RunOutcome)
  | change {c : Change} (h : can (.alters c)) :
      Composed can (Action.change c : Action σ ι Fault Unit)
  | fail {α : Type} {f : Fault} (h : can (.raises f)) :
      Composed can (Action.fail f : Action σ ι Fault α)

namespace Composed

variable {can can' : Move → Prop}

/-- An action that is composed of some moves is composed of more. -/
lemma mono {x : Action σ ι Fault α} (hx : Composed can x) (h : ∀ m, can m → can' m) :
    Composed can' x := by
  induction hx with
  | value a => exact value a
  | bind _ _ ihx ihf => exact bind ihx ihf
  | session => exact session
  | note r => exact note r
  | drain hm => exact drain (h _ hm)
  | ask question => exact ask question
  | print text hm => exact print text (h _ hm)
  | hand host hm => exact hand host (h _ hm)
  | change hm => exact change (h _ hm)
  | fail hm => exact fail (h _ hm)

end Composed

/-! ## What all composed actions keep -/

/-- The event may come from a command that does what `can` allows. -/
def Event.Allowed (can : Move → Prop) : Event → Prop
  | .wrote stream _ => can (.prints stream)
  | .refused stream => can (.prints stream)
  | .flushed => can .flushes
  | .unflushed => can .flushes
  | .consulted => False
  | .ran text _ => can (.hands text)
  | .printed _ _ => True
  | .changed change => can (.alters change)
  | .noted _ => True

namespace Event

variable {can : Move → Prop} {events : List Event}

/-- A change among events that are allowed is allowed. -/
lemma can_of_mem_changes (h : ∀ e ∈ events, e.Allowed can) {change : Change}
    (hchange : change ∈ changes events) : can (.alters change) := by
  obtain ⟨e, he, hsame⟩ := List.mem_filterMap.mp hchange
  have hallowed := h e he
  cases e with
  | changed c =>
    rw [Option.some.inj hsame] at hallowed
    exact hallowed
  | _ => cases hsame

/-- A text handed over among events that are allowed is allowed. -/
lemma can_of_mem_texts (h : ∀ e ∈ events, e.Allowed can) {text : Text}
    (htext : text ∈ texts events) : can (.hands text) := by
  obtain ⟨e, he, hsame⟩ := List.mem_filterMap.mp htext
  have hallowed := h e he
  cases e with
  | ran t outcome =>
    rw [Option.some.inj hsame] at hallowed
    exact hallowed
  | _ => cases hsame

end Event

/-- What a command that does what `can` allows makes of a shell. -/
structure Effect (can : Move → Prop) (s : Shell σ ι) (o : Outcome σ ι Fault α) : Prop where
  /-- The input is left alone. -/
  source : o.shell.source = s.source
  /-- The session is altered by the reported changes and by nothing else. -/
  session : o.shell.session = Event.replay s.session o.events
  /-- The streams have what calls make of their room. -/
  rooms : s.Becomes o.shell
  /-- Nothing happens that is not allowed. -/
  events : ∀ e ∈ o.events, e.Allowed can
  /-- A fault is one of its own, or a call of a stream has failed. -/
  fault : ∀ f, o.result = .error f →
    can (.raises f) ∨ (∃ e, f = .io e) ∧ ∃ event ∈ o.events, event.isFailure = true

namespace Effect

variable {can : Move → Prop} {s : Shell σ ι}

/-- An outcome that leaves the shell as it is and makes only events of no account. -/
lemma of_same {events : List Event} {a : α} (hchanges : Event.changes events = [])
    (hevents : ∀ e ∈ events, e.Allowed can) :
    Effect can s (⟨.ok a, s, events⟩ : Outcome σ ι Fault α) where
  source := rfl
  session := by simp [Event.replay, hchanges]
  rooms := .of_eq rfl rfl
  events := hevents
  fault _ h := by simp at h

/-- One effect after another. -/
lemma append {x : Outcome σ ι Fault α} {y : Outcome σ ι Fault β} (hx : Effect can s x)
    (hy : Effect can x.shell y) : Effect can s (y.after x.events) where
  source := by
    rw [Outcome.after_shell, hy.source, hx.source]
  session := by
    rw [Outcome.after_shell, Outcome.after_events, Event.replay_append, ← hx.session, hy.session]
  rooms := hx.rooms.trans hy.rooms
  events e he := by
    rcases List.mem_append.mp he with he | he
    · exact hx.events e he
    · exact hy.events e he
  fault f hf := by
    rcases hy.fault f hf with hcan | ⟨hio, event, hmem, hfailed⟩
    · exact Or.inl hcan
    · exact Or.inr ⟨hio, event, List.mem_append_right _ hmem, hfailed⟩

/-- A call of a stream has an effect that is one event for its success, and one for its failure. -/
lemma of_call {stream : Stream} {room : Room} (hroom : (s.room stream).Becomes room)
    {events : List Event} (hchanges : Event.changes events = [])
    (hevents : ∀ e ∈ events, e.Allowed can) {result : Except Fault α}
    (hfault : ∀ f, result = .error f →
      (∃ e, f = .io e) ∧ ∃ event ∈ events, event.isFailure = true) :
    Effect can s ⟨result, s.setRoom stream room, events⟩ where
  source := Shell.source_setRoom s stream room
  session := by simp [Event.replay, hchanges]
  rooms := Shell.becomes_setRoom hroom
  events := hevents
  fault f hf := Or.inr (hfault f hf)

/-- A write has an effect that depends on its stream alone. -/
lemma of_print {stream : Stream} (text : Text) (h : can (.prints stream)) (s : Shell σ ι) :
    Effect can s (Action.print stream text s) := by
  rcases Action.print_cases stream text s with ⟨-, hprint⟩ | ⟨e, -, hprint⟩ <;> rw [hprint]
  · refine of_call (Room.becomes_offer _ _) rfl ?_ (by rintro f ⟨⟩)
    simpa [Event.Allowed] using h
  · refine of_call (Room.becomes_offer _ _) rfl (by simpa [Event.Allowed] using h) ?_
    rintro f ⟨⟩
    exact ⟨⟨e, rfl⟩, .refused stream, by simp, rfl⟩

/-- A flush has an effect on standard output alone. -/
lemma of_drain (h : can .flushes) (s : Shell σ ι) : Effect can s (Action.drain s) := by
  rcases Action.drain_cases s with ⟨-, hdrain⟩ | ⟨e, -, hdrain⟩ <;> rw [hdrain]
  · refine of_call (Room.becomes_flush _) rfl ?_ (by rintro f ⟨⟩)
    simpa [Event.Allowed] using h
  · refine of_call (Room.becomes_flush _) rfl (by simpa [Event.Allowed] using h) ?_
    rintro f ⟨⟩
    exact ⟨⟨e, rfl⟩, .unflushed, by simp, rfl⟩

end Effect

/-- **What a command leaves alone.**  Every run of a composed action has an effect of what it is
composed of. -/
theorem Composed.effect {can : Move → Prop} {x : Action σ ι Fault α} (hx : Composed can x)
    (s : Shell σ ι) : Effect can s (x s) := by
  induction hx generalizing s with
  | value a => exact Effect.of_same rfl (by simp)
  | bind _ _ ihx ihf =>
    rename_i x f _ _
    rw [Action.bind_apply]
    have hx := ihx s
    cases hresult : (x s).result with
    | ok a => exact hx.append (ihf a _)
    | error e =>
      refine ⟨hx.source, hx.session, hx.rooms, hx.events, ?_⟩
      intro f hf
      have hef : e = f := Except.error.inj hf
      exact hx.fault f (hef ▸ hresult)
  | session => exact Effect.of_same rfl (by simp)
  | note r => exact Effect.of_same rfl (by simp [Event.Allowed])
  | drain h => exact Effect.of_drain h s
  | ask question => exact ⟨rfl, rfl, .of_eq rfl rfl, by simp, by simp⟩
  | print text h => exact Effect.of_print text h s
  | hand host h =>
    rw [Action.hand_apply]
    refine ⟨rfl, ?_, .of_eq rfl rfl, ?_, by simp⟩
    · simp [Action.handing, Event.replay, Event.changes]
    · intro e he
      simp only [Action.handing, List.mem_cons, List.mem_map] at he
      rcases he with rfl | rfl | ⟨part, _, rfl⟩
      · trivial
      · exact h
      · trivial
  | change h =>
    refine ⟨rfl, rfl, .of_eq rfl rfl, ?_, by simp⟩
    intro e he
    rw [List.mem_singleton.mp he]
    exact h
  | fail h =>
    refine ⟨rfl, rfl, .of_eq rfl rfl, by simp, ?_⟩
    intro f hf
    rw [← Except.error.inj hf]
    exact Or.inl h

/-! ## Calls that fail -/

/-- No call of a stream fails among the events. -/
def Event.Accepted (events : List Event) : Prop :=
  ∀ e ∈ events, e.isFailure = false

namespace Event

@[simp]
lemma accepted_nil : Accepted [] := by
  intro e he
  cases he

@[simp]
lemma accepted_cons (e : Event) (events : List Event) :
    Accepted (e :: events) ↔ e.isFailure = false ∧ Accepted events :=
  List.forall_mem_cons

@[simp]
lemma accepted_append (es fs : List Event) :
    Accepted (es ++ fs) ↔ Accepted es ∧ Accepted fs :=
  List.forall_mem_append

end Event

/-- No call of a stream fails, or the first one that fails is the last thing that a command does,
and the command fails for that reason.  Over a limited shell that is a refused write, and its stream
takes nothing any more. -/
def Outcome.Stops (s : Shell σ ι) (o : Outcome σ ι Fault α) : Prop :=
  Event.Accepted o.events ∨
    ∃ before last e, o.events = before ++ [last] ∧ Event.Accepted before ∧
      last.isFailure = true ∧ o.result = .error (.io e) ∧
      (s.Limited → e = .refused ∧
        ∃ stream, last = .refused stream ∧ o.shell.room stream = some (.upTo 0))

/-- A command stops at the first call of a stream that fails. -/
theorem Composed.stops {can : Move → Prop} {x : Action σ ι Fault α} (hx : Composed can x)
    (s : Shell σ ι) : (x s).Stops s := by
  induction hx generalizing s with
  | @bind _ _ x f hx _ ihx ihf =>
    rw [Action.bind_apply]
    rcases ihx s with hacc | ⟨before, last, e, hevents, hacc, hlast, hresult, hlimited⟩
    · cases hresult : (x s).result with
      | error e => exact Or.inl hacc
      | ok a =>
        rcases ihf a (x s).shell with
          hacc' | ⟨before, last, e, hevents, hacc', hlast, hresult', hlimited⟩
        · exact Or.inl ((Event.accepted_append _ _).mpr ⟨hacc, hacc'⟩)
        · refine Or.inr ⟨(x s).events ++ before, last, e, ?_, ?_, hlast, hresult', fun hs => ?_⟩
          · rw [Outcome.after_events, hevents, List.append_assoc]
          · exact (Event.accepted_append _ _).mpr ⟨hacc, hacc'⟩
          · exact hlimited ((hx.effect s).rooms.limited hs)
    · right
      rw [hresult]
      exact ⟨before, last, e, hevents, hacc, hlast, rfl, hlimited⟩
  | print text h =>
    rename_i stream
    rcases Action.print_cases stream text s with ⟨-, hprint⟩ | ⟨e, herror, hprint⟩
    · left
      simp [hprint, Event.isFailure]
    · right
      rw [hprint]
      refine ⟨[.wrote stream _], .refused stream, e, rfl, by simp [Event.isFailure], rfl, rfl, ?_⟩
      intro hs
      rcases (hs.room stream).offer_cases (Utf8.encode text) with ⟨-, hok⟩ | ⟨n, -, -, hanswer⟩
      · rw [hok] at herror
        cases herror
      · rw [hanswer] at herror ⊢
        exact ⟨(Except.error.inj herror).symm, stream, rfl, Shell.room_setRoom s stream _⟩
  | drain h =>
    rcases Action.drain_cases s with ⟨-, hdrain⟩ | ⟨e, herror, hdrain⟩
    · left
      simp [hdrain, Event.isFailure]
    · right
      rw [hdrain]
      refine ⟨[], .unflushed, e, rfl, Event.accepted_nil, rfl, rfl, fun hs => ?_⟩
      rw [(hs.room .out).flush_eq] at herror
      cases herror
  | hand host h =>
    left
    intro e he
    simp only [Action.hand_apply, Action.handing, List.mem_cons, List.mem_map] at he
    rcases he with rfl | rfl | ⟨part, _, rfl⟩ <;> rfl
  | _ =>
    left
    simp [Event.isFailure]

/-! ## The commands of the shell -/

/-- What a command of the shell may do.  It records nothing, and the faults that it raises are
neither of a read nor of a write. -/
def Move.OfCommand : Move → Prop
  | .alters (.record _) => False
  | .raises .unread => False
  | .raises (.io _) => False
  | _ => True

namespace Builtin

/-- Asking the session to end is one change. -/
lemma composed_leave :
    Composed (· = .alters .leave) (leave : Action σ ι Fault ExitCode) :=
  .bind (.change rfl) fun _ => .value 0

/-- Switching the echo is one change, or a fault. -/
lemma composed_switch (flag : Text) :
    Composed (fun m => m = .raises .notRun ∨ ∃ on, m = .alters (.echo on))
      (switch flag : Action σ ι Fault ExitCode) := by
  unfold switch
  split
  · exact .bind (.change (Or.inr ⟨false, rfl⟩)) fun _ => .value 0
  · split
    · exact .bind (.change (Or.inr ⟨true, rfl⟩)) fun _ => .value 0
    · exact .bind (.note _) fun _ => .fail (Or.inl rfl)

/-- Showing the size of a file only prints. -/
lemma composed_size (host : Host σ) (path : Text) :
    Composed (fun m => ∃ stream, m = .prints stream)
      (size host path : Action σ ι Fault ExitCode) := by
  unfold size
  refine .bind (.print _ ⟨_, rfl⟩) fun _ => .bind (.ask _) fun answer => ?_
  cases answer with
  | ok bytes => exact .bind (.print _ ⟨_, rfl⟩) fun _ => .value 0
  | error e => exact .bind (.print _ ⟨_, rfl⟩) fun _ => .value _

/-- Listing numbered lines only prints, and on standard output. -/
lemma composed_list (entries : List (ℕ × Text)) :
    Composed (· = .prints .out) (list entries : Action σ ι Fault Unit) := by
  induction entries with
  | nil => exact .value ()
  | cons entry rest ih => exact .bind (.print _ rfl) fun _ => ih

/-- Listing the history only prints, and on standard output. -/
lemma composed_history :
    Composed (· = .prints .out) (history : Action σ ι Fault ExitCode) :=
  .bind .session fun _ => .bind (composed_list _) fun _ => .value 0

/-- Timing a command hands its text over, prints on standard output, and may fail. -/
lemma composed_time (host : Host σ) (text : Text) :
    Composed (fun m => m = .hands text ∨ m = .prints .out ∨ m = .raises .notRun)
      (time host text : Action σ ι Fault ExitCode) := by
  unfold time
  refine .bind (.ask _) fun start => .bind (.hand host (Or.inl rfl)) fun outcome =>
    .bind (.ask _) fun finish => .bind (.print _ (Or.inr (Or.inl rfl))) fun _ => ?_
  cases outcome with
  | ok code => exact .bind (.note _) fun _ => .value 0
  | error e => exact .bind (.note _) fun _ => .fail (Or.inr (Or.inr rfl))

/-- Showing how long the session has lasted only prints, and on standard output. -/
lemma composed_times (host : Host σ) :
    Composed (· = .prints .out) (times host : Action σ ι Fault ExitCode) :=
  .bind (.ask _) fun _ => .bind (.print _ rfl) fun _ => .value 0

/-- The rounds of a repetition hand over one text and do nothing else. -/
lemma composed_rounds (host : Host σ) (text : Text) (round left : ℕ) :
    Composed (· = .hands text) (rounds host text round left : Action σ ι Fault Unit) := by
  induction left generalizing round with
  | zero => exact .value ()
  | succ left ih =>
    unfold rounds
    refine .bind (.hand host rfl) fun outcome => ?_
    cases outcome with
    | ok code => exact .bind (.note _) fun _ => ih _
    | error e => exact .bind (.note _) fun _ => ih _

/-- Repeating a command hands over one text and does nothing else. -/
lemma composed_again (host : Host σ) (arguments : List Text) :
    Composed (· = .hands (Command.joined arguments.tail))
      (again host arguments : Action σ ι Fault ExitCode) :=
  .bind (composed_rounds host _ 0 _) fun _ => .value 0

end Builtin

/-- Delegating a line hands it over, and may fail. -/
lemma composed_delegate (host : Host σ) (line : Text) :
    Composed (fun m => m = .hands line ∨ m = .raises .notRun)
      (delegate host line : Action σ ι Fault ExitCode) := by
  unfold delegate
  refine .bind (.hand host (Or.inl rfl)) fun outcome => ?_
  cases outcome with
  | ok code => exact .bind (.note _) fun _ => .value code
  | error e => exact .bind (.note _) fun _ => .fail (Or.inr rfl)

/-- Reading the number of a recall does nothing, or fails. -/
lemma composed_wanted (index : Text) :
    Composed (· = .raises .badIndex) (wanted index : Action σ ι Fault ℤ) := by
  unfold wanted
  cases leadingInt? index with
  | some n => exact .value n
  | none => exact .fail rfl

/-- Finding the line of a number shows it on standard output, or fails. -/
lemma composed_recalled (depth : ℕ) (n : ℤ) :
    Composed (fun m => m = .prints .out ∨ m = .flushes ∨ m = .raises (.noSuchLine n))
      (recalled depth n : Action σ ι Fault Text) := by
  unfold recalled
  refine .bind .session fun session => ?_
  cases session.history.get? n with
  | none => exact .fail (Or.inr (Or.inr rfl))
  | some line =>
    exact .bind (.note _) fun _ => .bind (.print _ (Or.inl rfl)) fun _ =>
      .bind (.drain (Or.inr (Or.inl rfl))) fun _ => .value line

/-! ## What each command may do -/

/-- The moves of a command that is no recall, by what its name asks for. -/
def Command.Does (c : Command) (m : Move) : Prop :=
  match c.verb with
  | .nothing => m = .raises .nameless
  | .leave => m = .alters .leave
  | .switch => m = .raises .notRun ∨ ∃ on, m = .alters (.echo on)
  | .size => ∃ stream, m = .prints stream
  | .recall _ => False
  | .history => m = .prints .out
  | .time => m = .hands (joined c.arguments) ∨ m = .prints .out ∨ m = .raises .notRun
  | .times => m = .prints .out
  | .again => m = .hands (joined c.arguments.tail)
  | .delegate => m = .hands c.raw ∨ m = .raises .notRun

namespace Command

variable {c : Command}

/-- A command that is no recall fails by itself in two ways only. -/
lemma Does.raises {f : Fault} (h : c.Does (.raises f)) : f = .nameless ∨ f = .notRun := by
  unfold Does at h
  split at h <;> simp_all

/-- A command changes only what `exit` and `set` are there to change. -/
lemma Does.alters {change : Change} (h : c.Does (.alters change)) :
    c.verb = .leave ∧ change = .leave ∨ c.verb = .switch ∧ ∃ on, change = .echo on := by
  unfold Does at h
  split at h <;> simp_all

/-- A command hands over its arguments with or without the first, or its line as it is. -/
lemma Does.hands {text : Text} (h : c.Does (.hands text)) :
    c.verb = .time ∧ text = joined c.arguments ∨
      c.verb = .again ∧ text = joined c.arguments.tail ∨ c.verb = .delegate ∧ text = c.raw := by
  unfold Does at h
  split at h <;> simp_all

/-- What a command does is what commands may do. -/
lemma Does.ofCommand {m : Move} (h : c.Does m) : m.OfCommand := by
  cases m with
  | prints stream => trivial
  | flushes => trivial
  | hands text => trivial
  | alters change => rcases h.alters with ⟨-, rfl⟩ | ⟨-, on, rfl⟩ <;> trivial
  | raises fault => rcases h.raises with rfl | rfl <;> trivial

end Command

/-- **A command does what its name asks for**, and a recall what `onRecall` does. -/
theorem composed_perform (host : Host σ) {can : Move → Prop}
    {onRecall : Text → Action σ ι Fault ExitCode} (command : Command)
    (hdoes : ∀ m, command.Does m → can m)
    (hrecall : ∀ index, command.verb = .recall index → Composed can (onRecall index)) :
    Composed can (perform host onRecall command) := by
  have note : ∀ {x : Action σ ι Fault ExitCode}, Composed can x →
      Composed can (builtin command x) := fun hx => .bind (.note _) fun _ => hx
  revert hdoes
  unfold perform Command.Does
  cases hverb : command.verb with
  | nothing => exact fun hdoes => .fail (hdoes _ rfl)
  | leave => exact fun hdoes => note (Builtin.composed_leave.mono hdoes)
  | switch => exact fun hdoes => note ((Builtin.composed_switch _).mono hdoes)
  | size => exact fun hdoes => note ((Builtin.composed_size host _).mono hdoes)
  | «recall» index => exact fun _ => hrecall index hverb
  | history => exact fun hdoes => note (Builtin.composed_history.mono hdoes)
  | time => exact fun hdoes => note ((Builtin.composed_time host _).mono hdoes)
  | times => exact fun hdoes => note ((Builtin.composed_times host).mono hdoes)
  | again => exact fun hdoes => note ((Builtin.composed_again host _).mono hdoes)
  | delegate => exact fun hdoes => (composed_delegate host _).mono hdoes

/-- Carrying out a command, recalls and all, is a composition of what commands may do. -/
theorem composed_dispatchWithin (host : Host σ) (limit left : ℕ) (command : Command) :
    Composed Move.OfCommand
      (dispatchWithin host limit left command : Action σ ι Fault ExitCode) := by
  have hwanted : ∀ index, Composed Move.OfCommand (wanted index : Action σ ι Fault ℤ) :=
    fun index => (composed_wanted index).mono (by rintro _ rfl; trivial)
  induction left generalizing command with
  | zero =>
    refine composed_perform host command (fun _ => Command.Does.ofCommand) fun index _ => ?_
    exact .bind (hwanted index) fun _ => .fail trivial
  | succ left ih =>
    refine composed_perform host command (fun _ => Command.Does.ofCommand) fun index _ => ?_
    refine .bind (hwanted index) fun n => .bind ?_ fun line => ih (Command.parse line)
    refine (composed_recalled _ n).mono ?_
    rintro _ (rfl | rfl | rfl) <;> trivial

/-- Dispatching a command is a composition of what commands may do. -/
lemma composed_dispatch (host : Host σ) (settings : Settings) (command : Command) :
    Composed Move.OfCommand (dispatch host settings command : Action σ ι Fault ExitCode) :=
  composed_dispatchWithin host settings.recallDepth settings.recallDepth command

/-! ## A command that fails has altered nothing -/

/-- An action that fails has not altered the session before. -/
def Action.Atomic (x : Action σ ι Fault α) : Prop :=
  ∀ s f, (x s).result = .error f → Event.changes (x s).events = []

namespace Composed

variable {can : Move → Prop}

/-- An action that is composed without changes makes none. -/
lemma changes_eq_nil {x : Action σ ι Fault α} (hx : Composed can x) (h : ∀ c, ¬ can (.alters c))
    (s : Shell σ ι) : Event.changes (x s).events = [] :=
  List.eq_nil_iff_forall_not_mem.mpr fun c hc =>
    h c (Event.can_of_mem_changes (hx.effect s).events hc)

/-- An action that makes no changes is atomic. -/
lemma atomic {x : Action σ ι Fault α} (hx : Composed can x) (h : ∀ c, ¬ can (.alters c)) :
    x.Atomic :=
  fun s _ _ => hx.changes_eq_nil h s

/-- What comes before an atomic action may be anything that makes no changes. -/
lemma atomic_bind {x : Action σ ι Fault α} {f : α → Action σ ι Fault β} (hx : Composed can x)
    (h : ∀ c, ¬ can (.alters c)) (hf : ∀ a, (f a).Atomic) : (x >>= f).Atomic := by
  intro s e he
  have hxs := hx.changes_eq_nil h s
  rw [Action.bind_apply] at he ⊢
  cases hresult : (x s).result with
  | error e' => exact hxs
  | ok a =>
    rw [hresult] at he
    rw [Outcome.after_events, Event.changes_append, hxs, hf a _ e he, List.nil_append]

end Composed

/-- Switching the echo alters the session only if the flag is known. -/
lemma Builtin.atomic_switch (flag : Text) : (switch flag : Action σ ι Fault ExitCode).Atomic := by
  intro s f hf
  unfold switch at hf ⊢
  split at hf
  · simp at hf
  · split at hf
    · simp at hf
    · rename_i h₁ h₂
      rw [if_neg h₁, if_neg h₂]
      rfl

/-- Carrying out a command is atomic, if recalls are. -/
lemma atomic_perform (host : Host σ) {onRecall : Text → Action σ ι Fault ExitCode}
    (h : ∀ index, (onRecall index).Atomic) (command : Command) :
    (perform host onRecall command).Atomic := by
  cases hverb : command.verb with
  | leave =>
    intro s f hf
    simp [perform, hverb, builtin, Builtin.leave] at hf
  | switch =>
    have hnote : Composed (fun _ => False)
        (Action.note (.builtinBegins command.base) : Action σ ι Fault Unit) := .note _
    unfold perform
    rw [hverb]
    exact hnote.atomic_bind (fun _ h => h) fun _ => Builtin.atomic_switch _
  | «recall» index =>
    unfold perform
    rw [hverb]
    exact h index
  | _ =>
    -- No other command alters the session at all.
    refine (composed_perform host command (fun _ hm => hm) fun index hrecall => ?_).atomic
      fun change hdoes => ?_
    · rw [hverb] at hrecall
      cases hrecall
    · rcases hdoes.alters with ⟨hleave, -⟩ | ⟨hswitch, -⟩
      · rw [hverb] at hleave
        cases hleave
      · rw [hverb] at hswitch
        cases hswitch

/-- **A command that fails has altered nothing**, whatever it recalled on the way. -/
theorem atomic_dispatchWithin (host : Host σ) (limit left : ℕ) (command : Command) :
    (dispatchWithin host limit left command : Action σ ι Fault ExitCode).Atomic := by
  induction left generalizing command with
  | zero =>
    refine atomic_perform host (fun index => ?_) command
    refine (composed_wanted index).atomic_bind (by rintro c hc; cases hc) fun n => ?_
    intro s f _
    rfl
  | succ left ih =>
    refine atomic_perform host (fun index => ?_) command
    refine (composed_wanted index).atomic_bind (by rintro c hc; cases hc) fun n => ?_
    refine (composed_recalled _ n).atomic_bind (by rintro c (h | h | h) <;> cases h) fun line => ?_
    exact ih (Command.parse line)

/-- Dispatching a command is atomic. -/
lemma atomic_dispatch (host : Host σ) (settings : Settings) (command : Command) :
    (dispatch host settings command : Action σ ι Fault ExitCode).Atomic :=
  atomic_dispatchWithin host settings.recallDepth settings.recallDepth command

end LineShell
