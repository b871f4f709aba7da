import LineShell.Proofs.Loop
import LineShell.Proofs.Recall

/-!
# Steps one after the other

Whoever drives a shell by hand may take steps for as long as he likes: after one that failed, and
after the session was asked to end.  `keepStepping` takes a number of steps in this way, and the
shells that it leaves are all that can be reached.  A run does not go that far, but as far as it
goes it is the same (`exists_run_eq_keepStepping`); so what is proved of steps taken in this way
holds of runs.

What a step comes to depends above all on the command behind the line that it reads, recalls and
all.  `Shell.upcoming` is that command.
-/

namespace LineShell

variable {σ ι : Type}

/-- Takes a number of steps one after the other, whatever comes of each of them. -/
def keepStepping (host : Host σ) (settings : Settings) (source : LineSource ι) :
    ℕ → Action σ ι IoError Unit
  | 0 => pure ()
  | n + 1 => do
    let _ ← Action.attempt (step host settings source)
    keepStepping host settings source n

section
variable (host : Host σ) (settings : Settings) (source : LineSource ι) (n : ℕ) (s : Shell σ ι)

/-- No steps do nothing. -/
@[simp]
lemma keepStepping_zero : keepStepping host settings source 0 s = ⟨.ok (), s, []⟩ := rfl

/-- The first step comes before the others. -/
lemma keepStepping_succ :
    keepStepping host settings source (n + 1) s =
      (keepStepping host settings source n (step host settings source s).shell).after
        (step host settings source s).events := by
  rw [keepStepping, Action.bind_apply, Action.attempt_apply]

/-- The last step comes after the others. -/
lemma keepStepping_succ_last :
    let o := keepStepping host settings source n s
    (keepStepping host settings source (n + 1) s).shell =
        (step host settings source o.shell).shell ∧
      (keepStepping host settings source (n + 1) s).events =
        o.events ++ (step host settings source o.shell).events := by
  induction n generalizing s with
  | zero => simp [keepStepping_succ]
  | succ n ih =>
    obtain ⟨hshell, hevents⟩ := ih (step host settings source s).shell
    rw [keepStepping_succ, keepStepping_succ]
    refine ⟨hshell, ?_⟩
    rw [Outcome.after_events, hevents, Outcome.after_events, Outcome.after_shell,
      List.append_assoc]

/-- **A run takes its steps one after the other**, as many as it comes to, with log records around
them. -/
theorem exists_run_eq_keepStepping :
    ∃ m ≤ n, (run host settings source n s).shell = (keepStepping host settings source m s).shell ∧
      (run host settings source n s).events =
        .noted (.sessionStarted s.session.user settings) ::
          (keepStepping host settings source m s).events ++
            closing (steps host settings source n s) := by
  have hsteps : ∃ m ≤ n,
      (steps host settings source n s).shell = (keepStepping host settings source m s).shell ∧
      (steps host settings source n s).events = (keepStepping host settings source m s).events := by
    induction n generalizing s with
    | zero => exact ⟨0, le_rfl, rfl, rfl⟩
    | succ n ih =>
      cases hleaving : s.session.leaving with
      | true =>
        rw [steps_of_leaving host settings source _ hleaving]
        exact ⟨0, Nat.zero_le _, rfl, rfl⟩
      | false =>
        rw [steps_succ host settings source n hleaving, Action.bind_apply]
        cases hresult : (step host settings source s).result with
        | error e =>
          refine ⟨1, Nat.succ_le_succ (Nat.zero_le n), ?_⟩
          simp [keepStepping_succ]
        | ok _ =>
          obtain ⟨m, hm, hshell, hevents⟩ := ih (step host settings source s).shell
          refine ⟨m + 1, Nat.succ_le_succ hm, ?_⟩
          rw [keepStepping_succ]
          exact ⟨hshell, congrArg (_ ++ ·) hevents⟩
  obtain ⟨m, hm, hshell, hevents⟩ := hsteps
  rw [run_apply]
  exact ⟨m, hm, hshell, by rw [← hevents]⟩

end

/-- Steps over streams that take everything make one read each, and the lines that the reads give
join the history. -/
lemma keepStepping_reads (host : Host σ) (settings : Settings) (n : ℕ) {s : Shell σ Feed}
    (hs : s.Unlimited) :
    let o := keepStepping host settings .plain n s
    o.shell.source = s.source.after n ∧
      o.shell.session.history.lines = s.session.history.lines ++ s.source.lines n := by
  induction n generalizing s with
  | zero => exact ⟨rfl, (List.append_nil _).symm⟩
  | succ n ih =>
    have hturn := turn_step host settings hs
    obtain ⟨hsource, hlines⟩ := ih hturn.unlimited
    rw [keepStepping_succ]
    refine ⟨?_, ?_⟩
    · rw [Outcome.after_shell, hsource, hturn.source, Feed.after]
    · rw [Outcome.after_shell, hlines, hturn.lines, hturn.source, Feed.lines, List.append_assoc]

/-! ## The command of a step -/

/-- The command that the next step carries out: the one behind the line that it reads, in the
history that has the line already.  There is none without a line or if its recalls end in a
fault. -/
def Shell.upcoming (settings : Settings) (s : Shell σ Feed) : Option Command :=
  match s.source.next.1 with
  | .ok (.line line) =>
    ((Command.parse line).resolve (s.session.history.append line) settings.recallDepth
      settings.recallDepth).2.toOption
  | _ => none

/-- A step with a command is given a line, and the command is the one that the line resolves to. -/
lemma Shell.upcoming_eq_some_iff (settings : Settings) (s : Shell σ Feed) (c : Command) :
    s.upcoming settings = some c ↔
      ∃ line entries, s.source.next.1 = .ok (.line line) ∧
        (Command.parse line).resolve (s.session.history.append line) settings.recallDepth
          settings.recallDepth = (entries, .ok c) := by
  unfold upcoming
  constructor
  · intro hc
    split at hc
    · rename_i line hline
      rcases hresolve : (Command.parse line).resolve (s.session.history.append line)
        settings.recallDepth settings.recallDepth with ⟨entries, f | c'⟩ <;> rw [hresolve] at hc
      · cases hc
      · exact ⟨line, entries, hline, by rw [hresolve, ← Option.some.inj hc]⟩
    · cases hc
  · rintro ⟨line, entries, hline, hresolve⟩
    rw [hline]
    simp only [hresolve]
    rfl

/-- A step with a command records its line, passes the entries on the way to the command, and
carries the command out. -/
lemma step_of_upcoming (host : Host σ) (settings : Settings) {s : Shell σ Feed} (hs : s.Unlimited)
    {c : Command} (hc : s.upcoming settings = some c) :
    ∃ line entries, s.source.next.1 = .ok (.line line) ∧ ¬ c.IsRecall ∧
      step host settings .plain s =
        let o := performHere host c (s.advance.record line)
        ⟨.ok (), o.shell, opening s.session ++ accepting s.session line ++ passing 0 entries ++
          o.events ++ settling o.result⟩ := by
  obtain ⟨line, entries, hline, hresolve⟩ := (s.upcoming_eq_some_iff settings c).mp hc
  obtain ⟨hrecall, hdispatch⟩ :=
    dispatch_of_resolve_here host settings (hs.advance.record line).out hresolve
  refine ⟨line, entries, hline, hrecall, ?_⟩
  rw [step_of_line host settings hs hline, hdispatch]
  simp only [Outcome.after_result, Outcome.after_shell, Outcome.after_events, List.append_assoc]

end LineShell
