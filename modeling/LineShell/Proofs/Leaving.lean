import LineShell.Proofs.Ending

/-!
# What comes after an exit

A line that comes down to `exit` is the last thing that a shell takes from its input.  Whatever
follows that line is left as it is, and nothing that the shell does hangs on it.

Two facts carry this.  What a shell does apart from its reads never looks at the input: with another
one it does the same and leaves that one (`Action.KeepsSource`).  And a read of input that ends with
a newline takes the same line if more bytes follow, in whatever chunks (`Feed.Continues`).  So a run
of which one line asks to leave goes the same way over the longer input
(`run_of_further_input`).
-/

namespace LineShell

variable {σ ι ε α β : Type}

/-! ## Actions that do not look at the input -/

/-- The shell with another source. -/
def Shell.withSource (i : ι) (s : Shell σ ι) : Shell σ ι :=
  { s with source := i }

/-- The outcome with another source. -/
def Outcome.withSource (i : ι) (o : Outcome σ ι ε α) : Outcome σ ι ε α :=
  { o with shell := o.shell.withSource i }

/-- An action does not look at the input: with another source it does the same, and leaves that
one. -/
def Action.KeepsSource (x : Action σ ι ε α) : Prop :=
  ∀ i s, x (s.withSource i) = (x s).withSource i

namespace Action.KeepsSource

/-- Two actions that do not look at the input do not look at it one after the other. -/
lemma bind {x : Action σ ι ε α} {f : α → Action σ ι ε β} (hx : x.KeepsSource)
    (hf : ∀ a, (f a).KeepsSource) : (x >>= f).KeepsSource := by
  intro i s
  rw [Action.bind_apply, Action.bind_apply, hx i s]
  cases hresult : (x s).result with
  | error e => simp [Outcome.withSource, hresult]
  | ok a =>
    have hrest := hf a i (x s).shell
    simp only [Outcome.withSource, hresult] at hrest ⊢
    rw [hrest]
    rfl

/-- A write does not look at the input. -/
lemma write (stream : Stream) (text : Text) :
    (Action.write stream text : Action σ ι IoError Unit).KeepsSource := by
  intro i s
  have hroom : (s.withSource i).room stream = s.room stream := by cases stream <;> rfl
  have hset : ∀ room, (s.withSource i).setRoom stream room =
      (s.setRoom stream room).withSource i := by
    intro room
    cases stream <;> rfl
  unfold Action.write
  simp only [hroom, hset]
  rfl

end Action.KeepsSource

/-- A command does not look at the input. -/
lemma Composed.keepsSource {can : Move → Prop} {x : Action σ ι Fault α} (hx : Composed can x) :
    x.KeepsSource := by
  induction hx with
  | bind _ _ ihx ihf => exact ihx.bind ihf
  | print text h =>
    intro i s
    unfold Action.print Action.mapError
    rw [Action.KeepsSource.write _ text i s]
    rfl
  | _ => exact fun _ _ => rfl

/-- What a shell does on its own account does not look at the input, its reads apart. -/
lemma Assembled.keepsSource {can : Move → Prop} {x : Action σ ι IoError α}
    (hx : Assembled can x) : x.KeepsSource := by
  induction hx with
  | bind _ _ ihx ihf => exact ihx.bind ihf
  | write text h => exact .write _ text
  | attempt hx =>
    intro i s
    rw [Action.attempt_apply, Action.attempt_apply, hx.keepsSource i s]
    rfl
  | _ => exact fun _ _ => rfl

/-! ## Input that goes on -/

namespace Feed

/-- The second input is the first one, which is bytes and ends with a newline, and further bytes
after it, in any chunks. -/
def Continues (further : List UInt8) (feed feed' : Feed) : Prop :=
  ∃ chunks chunks' : List (List UInt8), feed = chunks.map .chunk ∧ feed' = chunks'.map .chunk ∧
    Terminated chunks.flatten ∧ chunks'.flatten = chunks.flatten ++ further

namespace Continues

variable {further : List UInt8} {feed feed' : Feed}

/-- Input that goes on is chunks of the bytes of the first one and the further bytes. -/
lemma exists_chunks (h : Continues further feed feed') :
    ∃ chunks' : List (List UInt8), feed' = chunks'.map .chunk ∧
      chunks'.flatten = feed.bytes ++ further := by
  obtain ⟨chunks, chunks', rfl, rfl, -, hbytes⟩ := h
  exact ⟨chunks', rfl, by rw [bytes_chunks, hbytes]⟩

/-- While bytes are left of the first input, a read takes the same from both. -/
lemma next (h : Continues further feed feed') (hne : feed.bytes ≠ []) :
    feed'.next.1 = feed.next.1 ∧ Continues further feed.next.2 feed'.next.2 := by
  obtain ⟨chunks, chunks', rfl, rfl, hends, hbytes⟩ := h
  rw [bytes_chunks] at hne
  obtain ⟨hcut, hrest⟩ := hends.cutSegment_append hne further
  obtain ⟨left, hnext, hleft⟩ := next_chunks chunks
  obtain ⟨left', hnext', hleft'⟩ := next_chunks chunks'
  rw [hbytes, hcut] at hnext' hleft'
  rw [hnext, hnext']
  exact ⟨rfl, left, left', rfl, rfl, hleft ▸ hrest, by rw [hleft', hleft]⟩

/-- Once no bytes are left of the first input, no lines come from it. -/
lemma lines_eq_nil (h : Continues further feed feed') (hnil : feed.bytes = []) (n : ℕ) :
    feed.lines n = [] := by
  obtain ⟨chunks, chunks', rfl, rfl, -, -⟩ := h
  rw [bytes_chunks] at hnil
  rw [(lines_chunks n chunks).1, hnil]
  simp [segments]

end Continues

end Feed

/-! ## Steps and runs over input that goes on -/

section
variable (host : Host σ) (settings : Settings) {s : Shell σ Feed} {further : List UInt8}
  {feed : Feed}

/-- A step takes the same line from input that goes on, and does the same. -/
lemma step_of_continues (hs : s.Unlimited) (hfeed : Feed.Continues further s.source feed)
    (hne : s.source.bytes ≠ []) :
    step host settings .plain (s.withSource feed) =
      (step host settings .plain s).withSource feed.next.2 := by
  obtain ⟨hnext, -⟩ := hfeed.next hne
  have hanswer := (assembled_answer host settings s.source.next.1).keepsSource feed.next.2
    (s.reading .plain)
  have hs' : (s.withSource feed).Unlimited := ⟨hs.out, hs.err⟩
  rw [step_of_source host settings .plain hs', step_of_source host settings .plain hs]
  change (answer host settings feed.next.1 ((s.reading .plain).withSource feed.next.2)).after
    (opening s.session) = _
  rw [hnext, hanswer]
  rfl

/-- If one of the lines that some steps read asks to leave, the first step ends the session, or one
of the lines that the others read asks for that. -/
lemma leaving_or_askToLeave_of_steps_succ (n : ℕ) (hs : s.Unlimited)
    (hleaving : s.session.leaving = false)
    (hasks : AskToLeave settings.recallDepth s.session.history
      (s.source.lines (Event.consultations (steps host settings .plain (n + 1) s).events))) :
    let s' := (step host settings .plain s).shell
    s'.session.leaving = true ∨ AskToLeave settings.recallDepth s'.session.history
      (s'.source.lines (Event.consultations (steps host settings .plain n s').events)) := by
  intro s'
  have hturn := turn_step host settings hs
  rw [steps_succ host settings .plain n hleaving, Action.bind_apply, hturn.result,
    Outcome.after_events, Event.consultations_append, hturn.reads, Nat.add_comm 1, Feed.lines,
    askToLeave_append, ← hturn.lines, ← hturn.source] at hasks
  rcases hasks with hfirst | hrest
  · exact Or.inl ((leaving_step_of_source host settings .plain hs).mpr (Or.inr (Or.inr hfirst)))
  · exact Or.inr hrest

/-- **Steps up to an exit are the same over input that goes on**, and leave what they leave of the
first input and the further bytes. -/
lemma steps_of_continues (n : ℕ) (hs : s.Unlimited)
    (hfeed : Feed.Continues further s.source feed)
    (hasks : AskToLeave settings.recallDepth s.session.history
      (s.source.lines (Event.consultations (steps host settings .plain n s).events))) :
    (steps host settings .plain n s).shell.session.leaving = true ∧
      ∃ rest, steps host settings .plain n (s.withSource feed) =
          (steps host settings .plain n s).withSource rest ∧
        Feed.Continues further (steps host settings .plain n s).shell.source rest := by
  induction n generalizing s feed with
  | zero => exact hasks.elim
  | succ n ih =>
    cases hleaving : s.session.leaving with
    | true =>
      rw [steps_of_leaving host settings .plain _ hleaving] at hasks
      exact hasks.elim
    | false =>
      have hne : s.source.bytes ≠ [] := by
        intro hnil
        rw [hfeed.lines_eq_nil hnil] at hasks
        exact hasks
      have hturn := turn_step host settings hs
      obtain ⟨-, hrest⟩ := hfeed.next hne
      rw [← hturn.source] at hrest
      have hleaving' : (s.withSource feed).session.leaving = false := hleaving
      have hcases := leaving_or_askToLeave_of_steps_succ host settings n hs hleaving hasks
      rw [steps_succ host settings .plain n hleaving, steps_succ host settings .plain n hleaving',
        Action.bind_apply, Action.bind_apply, step_of_continues host settings hs hfeed hne]
      simp only [Outcome.withSource, hturn.result]
      -- The session ends with this line, or one of the lines after it asks for that.
      rcases hcases with hends | hlater
      · have hends' : ((step host settings .plain s).shell.withSource
          feed.next.2).session.leaving = true := hends
        rw [steps_of_leaving host settings .plain _ hends,
          steps_of_leaving host settings .plain _ hends']
        exact ⟨hends, feed.next.2, rfl, hrest⟩
      · obtain ⟨hlast, rest, hsteps, hcontinues⟩ := ih hturn.unlimited hrest hlater
        refine ⟨hlast, rest, ?_, hcontinues⟩
        rw [hsteps]
        rfl

end

/-- **Nothing after an exit is read.**  Take a run over bytes that end with a newline and over
streams that take everything, of which one line comes down to `exit`.  Over those bytes and any
further ones, in any chunks, the run has the same result, the same events, the same session and the
same host, and it leaves unread what the first run leaves and then the further bytes. -/
theorem run_of_further_input (host : Host σ) (settings : Settings) (n : ℕ) {s : Shell σ Feed}
    (hs : s.Unlimited) {chunks chunks' : List (List UInt8)} {further : List UInt8}
    (hsource : s.source = chunks.map .chunk) (hends : Feed.Terminated chunks.flatten)
    (hbytes : chunks'.flatten = chunks.flatten ++ further)
    (hexit : AskToLeave settings.recallDepth s.session.history
      (s.source.lines (Event.consultations (run host settings .plain n s).events))) :
    let o := run host settings .plain n s
    let o' := run host settings .plain n { s with source := chunks'.map .chunk }
    o.result = .ok .finished ∧ o'.result = .ok .finished ∧ o'.events = o.events ∧
      o'.shell.session = o.shell.session ∧ o'.shell.host = o.shell.host ∧
      ∃ left : List (List UInt8), o'.shell.source = left.map .chunk ∧
        left.flatten = o.shell.source.bytes ++ further := by
  intro o o'
  rw [consultations_run] at hexit
  have hfeed : Feed.Continues further s.source (chunks'.map .chunk) :=
    ⟨chunks, chunks', hsource, rfl, hends, hbytes⟩
  obtain ⟨hleaving, rest, hsteps, hrest⟩ := steps_of_continues host settings n hs hfeed hexit
  have hrun : o' = o.withSource rest := by
    have hs' : s.withSource (chunks'.map .chunk) = { s with source := chunks'.map .chunk } := rfl
    simp only [o, o', run_apply, ← hs', hsteps]
    rfl
  have hfinished : o.result = .ok .finished := by
    rw [run_result, result_steps host settings n hs, hleaving]
    rfl
  rw [hrun]
  refine ⟨hfinished, hfinished, rfl, rfl, rfl, ?_⟩
  have ho : o.shell.source = (steps host settings .plain n s).shell.source :=
    congrArg Shell.source (run_shell host settings .plain n s)
  rw [ho]
  exact hrest.exists_chunks

/-- An exit behind two recalls, after a line that is delegated, with bytes that are no text and an
unfinished line behind it. -/
theorem run_of_further_input_recalled :
    let chunks : List (List UInt8) :=
      [Utf8.encode "ls\n!".toList, Utf8.encode "2\nset +v\n".toList]
    let further : List UInt8 := [0xFF, 0x0A, 0x6C]
    let chunks' : List (List UInt8) :=
      [[], Utf8.encode "ls\n!2\nset".toList, Utf8.encode " +v\n".toList ++ further]
    let s : Shell Unit Feed :=
      { session := Session.start Settings.standard ⟨["exit\n".toList, "!1\n".toList]⟩ none,
        host := (), source := chunks.map .chunk, out := none, err := none }
    let o := run Host.idle Settings.standard .plain 9 s
    let o' := run Host.idle Settings.standard .plain 9 { s with source := chunks'.map .chunk }
    o'.result = .ok .finished ∧ o'.events = o.events ∧ o'.shell.session = o.shell.session ∧
      ∃ left : List (List UInt8), o'.shell.source = left.map .chunk ∧
        left.flatten = Utf8.encode "set +v\n".toList ++ further := by
  intro chunks further chunks' s o o'
  have hs : s.Unlimited := ⟨rfl, rfl⟩
  have hsource : s.source = chunks.map .chunk := rfl
  have hends : Feed.Terminated chunks.flatten := by decide +kernel
  have hbytes : chunks'.flatten = chunks.flatten ++ further := by decide +kernel
  have hreads : Event.consultations o.events = 2 := by decide +kernel
  have hexit : AskToLeave 32 s.session.history (s.source.lines 2) := by
    have hlines : s.source.lines 2 = ["ls\n".toList, "!2\n".toList] := by decide +kernel
    rw [hlines]
    exact Or.inr (Or.inl ⟨Command.parse "exit\n".toList, by decide +kernel, by decide⟩)
  obtain ⟨-, hresult, hevents, hsession, -, hrest⟩ :=
    run_of_further_input Host.idle Settings.standard 9 hs hsource hends hbytes
      (by rw [hreads]; exact hexit)
  have hleft : o.shell.source.bytes = Utf8.encode "set +v\n".toList := by decide +kernel
  rw [hleft] at hrest
  exact ⟨hresult, hevents, hsession, hrest⟩

end LineShell
