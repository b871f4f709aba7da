import LineShell.Program.Basic
import LineShell.Proofs.Ending

/-!
# How many steps are enough

A session may go on for ever, and `run` is told how many steps it may take.  Over buffered input,
and with streams that fail for want of room only, `Shell.stepBound` says how many are enough.

If standard output has room for so many bytes only, that is so because each step begins with a
newline.  Otherwise each step makes a read, whatever becomes of it (`steps_of_lasts`), so the input
is used up after `Feed.readBound` of them.  From then on a step ends the session, or it reports that
there is no line and alters nothing but the room of standard error (`step_of_nothing_left`).  Such a
report is refused some day, or it never is.

The main statement `run_stepBound` says that a run of so many steps is unfinished only if the
session goes on for ever, and that otherwise more steps come to the same.  So the program has an
exit code exactly if its session ends (`Program.exit_session`).
-/

namespace LineShell

variable {σ : Type}

section
variable (host : Host σ) (settings : Settings)

/-! ## Steps over a standard output that takes everything -/

/-- A step over a standard output that takes everything makes a read and answers it. -/
lemma step_of_out_none {s : Shell σ Feed} (hout : s.room .out = none) :
    step host settings .plain s =
      (answer host settings s.source.next.1 s.advance).after (opening s.session) := by
  have hlimited : (s.room .out).Limited := by
    rw [hout]
    exact Room.limited_none
  have hout' : s.out = none := hout
  have hread : (Action.readLine LineSource.plain s : Outcome σ Feed IoError ReadResult) =
      ⟨.ok s.source.next.1, s.advance,
        [.wrote .out (Utf8.encode s.session.prompt), .flushed, .consulted]⟩ := by
    rw [Action.readLine_plain_of_shown IoError (by rw [hout']; rfl) (by rw [hout']; rfl)]
    simp only [hout', Shell.advance]
    rfl
  rw [step_eq, Action.bind_apply, Action.write_of_room_none hout, Action.bind_apply]
  simp only [Action.flush_of_limited hlimited, Action.bind_apply, hread, Outcome.after_after]
  rfl

/-- A step makes one read and leaves a standard output that takes everything as it is. -/
lemma source_step_of_out_none {s : Shell σ Feed} (hout : s.room .out = none) :
    (step host settings .plain s).shell.source = s.source.next.2 ∧
      (step host settings .plain s).shell.room .out = none := by
  have hanswer := (assembled_answer host settings s.source.next.1).regular s.advance
  have hroom := becomes_step host settings .plain s .out
  rw [hout] at hroom
  refine ⟨?_, hroom.eq_none⟩
  rw [step_of_out_none host settings hout]
  exact hanswer.source

/-- Where standard output takes everything, a session that goes on has made as many reads as
steps. -/
lemma steps_of_lasts {n : ℕ} {s : Shell σ Feed} (hout : s.room .out = none)
    (hlasts : Lasts host settings .plain n s) :
    (steps host settings .plain n s).shell.source = s.source.after n ∧
      (steps host settings .plain n s).shell.room .out = none := by
  induction n generalizing s with
  | zero => exact ⟨rfl, hout⟩
  | succ n ih =>
    obtain ⟨hleaving, hresult, hrest⟩ := lasts_succ_iff.mp hlasts
    obtain ⟨hsource, hout'⟩ := source_step_of_out_none host settings hout
    rw [steps_succ host settings .plain n hleaving, Action.bind_apply, hresult]
    obtain ⟨hafter, hnone⟩ := ih hout' hrest
    refine ⟨?_, hnone⟩
    rw [Outcome.after_shell, hafter, hsource, Feed.after]

/-! ## Steps after the end of the input -/

/-- Standard output takes everything, and nothing is left of the input. -/
structure Shell.Drained (s : Shell σ Feed) : Prop where
  out : s.room .out = none
  source : s.source = []

/-- Once nothing is left of the input, a step answers that. -/
lemma step_of_drained {s : Shell σ Feed} (hs : s.Drained) :
    step host settings .plain s =
      (answer host settings (.ok .ended) s).after (opening s.session) := by
  have hshell : s.advance = s := by
    unfold Shell.advance
    rw [hs.source]
    exact congrArg (fun feed => { s with source := feed }) hs.source.symm
  rw [step_of_out_none host settings hs.out, hshell, hs.source]
  rfl

variable {settings}

/-- If the session ends with its input, it is over now. -/
lemma not_lasts_of_leaveAtEnd (hsettings : settings.leaveAtEnd = true) {s : Shell σ Feed}
    (hs : s.Drained) {n : ℕ} (hn : 0 < n) : ¬ Lasts host settings .plain n s := by
  intro hlasts
  rw [← Nat.sub_add_cancel hn] at hlasts
  obtain ⟨-, -, hrest⟩ := lasts_succ_iff.mp hlasts
  rw [step_of_drained host settings hs, answer, if_pos hsettings] at hrest
  have hstaying := lasts_zero_iff.mp (hrest.of_le (Nat.zero_le _))
  cases hstaying

/-- If the session goes on at the end of its input, a step reports that there is no line. -/
lemma step_of_nothing_left (hsettings : settings.leaveAtEnd = false) {s : Shell σ Feed}
    (hs : s.Drained) :
    step host settings .plain s = (Action.write .err Fault.unread.report s).after
      (opening s.session ++ [.noted .ended]) := by
  rw [step_of_drained host settings hs, answer, if_neg (Bool.eq_false_iff.mp hsettings),
    Action.bind_apply, Action.note_apply]
  simp only [report, Outcome.after_after]

/-- The reports fill up a standard error that has room for so many bytes. -/
lemma not_lasts_of_err (hsettings : settings.leaveAtEnd = false) {s : Shell σ Feed} {room n : ℕ}
    (hs : s.Drained) (herr : s.room .err = some (.upTo room)) (hn : room < n) :
    ¬ Lasts host settings .plain n s := by
  refine not_lasts_of_decreasing
    (L := fun room s => s.Drained ∧ s.room .err = some (.upTo room)) ?_ ⟨hs, herr⟩ hn
  rintro room s ⟨hs, herr⟩ hresult
  have hlength : 0 < (Utf8.encode Fault.unread.report).length := by decide
  have hlimited : (s.room .err).Limited := by
    rw [herr]
    exact Room.limited_upTo room
  rw [step_of_nothing_left host hsettings hs] at hresult ⊢
  rcases Action.write_cases_of_limited hlimited Fault.unread.report with
    ⟨hfits, hwrite⟩ | ⟨_, -, -, hwrite⟩
  · rw [hwrite]
    refine ⟨room - (Utf8.encode Fault.unread.report).length, ?_, ⟨hs.out, hs.source⟩, ?_⟩
    · have hroom := hfits room herr
      omega
    · rw [herr, Room.offer_upTo, if_pos (hfits room herr)]
      rfl
  · rw [hwrite] at hresult
    cases hresult

/-- Where standard error takes everything, nothing ends the session any more. -/
lemma lasts_of_err_none (hsettings : settings.leaveAtEnd = false) {s : Shell σ Feed}
    (hs : s.Drained) (herr : s.room .err = none) (hstaying : s.session.leaving = false) (n : ℕ) :
    Lasts host settings .plain n s := by
  have hstep := step_of_nothing_left host hsettings hs
  rw [Action.write_of_room_none herr] at hstep
  induction n with
  | zero => exact lasts_zero_iff.mpr hstaying
  | succ n ih =>
    rw [lasts_succ_iff, hstep]
    exact ⟨hstaying, rfl, ih⟩

end

/-! ## Runs -/

/-- More steps than are needed come to the same. -/
lemma steps_add_of_not_lasts (host : Host σ) (settings : Settings) {n : ℕ} {s : Shell σ Feed}
    (h : ¬ Lasts host settings .plain n s) (k : ℕ) :
    steps host settings .plain (n + k) s = steps host settings .plain n s := by
  rw [steps_add, Action.bind_apply]
  rcases hresult : steps host settings .plain n s with ⟨e | _ | _, s', events⟩
  · rfl
  · have hleaving : (steps host settings .plain n s).shell.session.leaving = true :=
      leaving_of_finished (by rw [hresult])
    rw [hresult] at hleaving
    simp [steps_of_leaving host settings .plain k hleaving]
  · exact absurd (by rw [Lasts, hresult]) h

/-- A session that goes on after as many steps as are enough goes on for ever. -/
lemma lasts_of_stepBound (host : Host σ) (settings : Settings) {s : Shell σ Feed} (hs : s.Limited)
    (hlasts : Lasts host settings .plain s.stepBound s) (n : ℕ) :
    Lasts host settings .plain n s := by
  cases hroom : s.out with
  | some manner =>
    cases manner with
    | upTo room =>
      have hbound : room < s.stepBound := by
        simp only [Shell.stepBound, hroom, Room.size]
        omega
      exact absurd hlasts (not_lasts_of_room host settings .plain hroom hbound)
    | replying replies => exact absurd hroom (hs.out replies)
  | none =>
    -- The input is used up after some of the steps, and the others are taken after that.
    have hbound : s.stepBound = s.source.readBound + (s.err.size + 2) := by
      simp only [Shell.stepBound, hroom, Room.size]
      omega
    rw [hbound] at hlasts
    obtain ⟨hreading, hrest⟩ := lasts_add_iff.mp hlasts
    obtain ⟨hsource, hout⟩ := steps_of_lasts host settings hroom hreading
    have hempty : s.source.after s.source.readBound = [] := Feed.after_eq_nil (Nat.lt_succ_self _)
    set s' := (steps host settings .plain s.source.readBound s).shell
    have hs' : s'.Drained := ⟨hout, hsource.trans hempty⟩
    cases hsettings : settings.leaveAtEnd with
    | true => exact absurd hrest (not_lasts_of_leaveAtEnd host hsettings hs' (by omega))
    | false =>
      have hbecomes := becomes_steps host settings .plain s.source.readBound s .err
      rcases herr : s.room .err with _ | room | replies
      · rw [herr] at hbecomes
        have hstaying : s'.session.leaving = false :=
          lasts_zero_iff.mp (hrest.of_le (Nat.zero_le _))
        have hall := lasts_of_err_none host hsettings hs' hbecomes.eq_none hstaying
        exact (lasts_add_iff.mpr ⟨hreading, hall n⟩).of_le (Nat.le_add_left n _)
      · rw [herr] at hbecomes
        obtain ⟨room', hless, herr'⟩ := hbecomes.exists_upTo
        have hsize : s.err.size = room := congrArg Room.size herr
        exact absurd hrest (not_lasts_of_err host hsettings hs' herr' (by omega))
      · exact absurd herr (hs.err replies)

/-- **So many steps are enough.**  Over buffered input, and with streams that fail for want of room
only, a run of `Shell.stepBound` steps is unfinished only if every run is, however many steps it may
take; and if it is not, more steps come to the same in all that they do. -/
theorem run_stepBound (host : Host σ) (settings : Settings) {s : Shell σ Feed} (hs : s.Limited) :
    let o := run host settings .plain s.stepBound s
    (o.result = .ok .unfinished →
      ∀ n, (run host settings .plain n s).result = .ok .unfinished) ∧
    (o.result ≠ .ok .unfinished →
      ∀ n, s.stepBound ≤ n → run host settings .plain n s = o) := by
  intro o
  have ho : o.result = .ok .unfinished ↔ Lasts host settings .plain s.stepBound s :=
    run_result_eq_unfinished_iff
  refine ⟨fun hunfinished n => ?_, fun hended n hn => ?_⟩
  · exact run_result_eq_unfinished_iff.mpr
      (lasts_of_stepBound host settings hs (ho.mp hunfinished) n)
  · obtain ⟨k, rfl⟩ := Nat.exists_eq_add_of_le hn
    have hsteps := steps_add_of_not_lasts host settings (fun h => hended (ho.mpr h)) k
    change run host settings .plain (s.stepBound + k) s = run host settings .plain s.stepBound s
    rw [run_apply, run_apply, hsteps]

/-! ## The program -/

/-- **When the program has an exit code.**  On any machine a session of the program has none if it
goes on for ever, it has the code 0 if it ends at some time, and it has no other code. -/
theorem Program.exit_session (machine : Machine σ) (state : σ) (c : Call) (settings : Settings) :
    let s := start state c settings
    let e := session machine state c settings
    (e.exit = none ↔ ∀ n, (LineShell.run machine.host settings .plain n s).result =
        .ok .unfinished) ∧
      (e.exit = some 0 ↔ ∃ n, (LineShell.run machine.host settings .plain n s).result =
        .ok .finished) ∧
      (e.exit = none ∨ e.exit = some 0) := by
  intro s e
  have hs : s.Unlimited := ⟨rfl, rfl⟩
  obtain ⟨hforever, -⟩ := run_stepBound machine.host settings hs.limited
  obtain ⟨⟨progress, hprogress⟩, -⟩ := unlimited_steps machine.host settings s.stepBound hs
  have hresult : (LineShell.run machine.host settings .plain s.stepBound s).result =
      .ok progress := by
    rw [run_result, hprogress]
  have he : e.exit = if progress = .finished then some 0 else none := by
    change (session machine state c settings).exit = _
    unfold session
    simp only
    rw [hresult]
    cases progress <;> rfl
  cases progress with
  | unfinished =>
    have hall := hforever hresult
    refine ⟨⟨fun _ => hall, fun _ => he⟩, ⟨fun h => ?_, fun ⟨n, hn⟩ => ?_⟩, Or.inl he⟩
    · rw [he] at h
      cases h
    · rw [hall n] at hn
      cases hn
  | finished =>
    refine ⟨⟨fun h => ?_, fun hall => ?_⟩, ⟨fun _ => ⟨_, hresult⟩, fun _ => he⟩, Or.inr he⟩
    · rw [he] at h
      cases h
    · rw [hall] at hresult
      cases hresult

end LineShell
