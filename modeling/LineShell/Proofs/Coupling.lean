import LineShell.Proofs.Loop
import LineShell.Proofs.Resolution

/-!
# Two runs side by side

Some properties compare two runs of the shell, over two hosts and from two states.  A `Coupling`
says when two shells count as alike and when two lists of events do, and `Coupling.Together` says
that two actions lead from shells that are alike to such shells again, with events that are alike
and with related results.

The commands are walked through once, for all couplings: if a coupling bears what commands are made
of (`Coupling.Bears`), then dispatching the same command on both sides goes together
(`Coupling.Bears.coupled_dispatch`).  What the two hosts make of a command handed to them may
differ, as far as `V` says; the result of a dispatch hangs on it only for the commands `time` and
those that the shell does not know.
-/

namespace LineShell

variable {σ τ ι ε α β γ δ : Type}

/-- When two runs count as alike: their shells, and what happened in them. -/
structure Coupling (σ τ ι : Type) where
  Shells : Shell σ ι → Shell τ ι → Prop
  Events : List Event → List Event → Prop
  /-- The same events are alike. -/
  refl : ∀ events, Events events events
  /-- What is alike goes on being alike after what is alike. -/
  append : ∀ {es es' fs fs'}, Events es fs → Events es' fs' → Events (es ++ es') (fs ++ fs')

/-- Two results are values that `V` relates, or the same error. -/
inductive Agree (V : α → β → Prop) : Except ε α → Except ε β → Prop
  | ok {a : α} {b : β} : V a b → Agree V (.ok a) (.ok b)
  | error (e : ε) : Agree V (.error e) (.error e)

namespace Coupling

variable (K : Coupling σ τ ι)

/-- Two outcomes are alike, with results that `W` relates. -/
structure Coupled (W : Except ε α → Except δ β → Prop) (o : Outcome σ ι ε α)
    (o' : Outcome τ ι δ β) : Prop where
  shells : K.Shells o.shell o'.shell
  events : K.Events o.events o'.events
  result : W o.result o'.result

/-- From shells that are alike, two actions come to outcomes that are alike. -/
def Together (W : Except ε α → Except δ β → Prop) (x : Action σ ι ε α) (y : Action τ ι δ β) :
    Prop :=
  ∀ s t, K.Shells s t → K.Coupled W (x s) (y t)

namespace Together

variable {K}

/-- Doing nothing goes together if the results are related. -/
lemma of_result {W : Except ε α → Except δ β → Prop} {x : Action σ ι ε α} {y : Action τ ι δ β}
    {r : Except ε α} {r' : Except δ β} (hx : ∀ s, x s = ⟨r, s, []⟩) (hy : ∀ t, y t = ⟨r', t, []⟩)
    (h : W r r') : K.Together W x y := by
  intro s t hst
  rw [hx, hy]
  exact ⟨hst, K.refl _, h⟩

/-- Giving values that are related goes together. -/
lemma pure {W : Except ε α → Except δ β → Prop} {a : α} {b : β} (h : W (.ok a) (.ok b)) :
    K.Together W (Pure.pure a : Action σ ι ε α) (Pure.pure b : Action τ ι δ β) :=
  of_result (fun _ => rfl) (fun _ => rfl) h

/-- Failing in related ways goes together. -/
lemma fail {W : Except ε α → Except δ β → Prop} {e : ε} {e' : δ} (h : W (.error e) (.error e')) :
    K.Together W (Action.fail e : Action σ ι ε α) (Action.fail e' : Action τ ι δ β) :=
  of_result (fun _ => rfl) (fun _ => rfl) h

/-- Actions that go together one after the other go together as wholes. -/
lemma bind {V : α → β → Prop} {W : Except ε γ → Except ε δ → Prop} {x : Action σ ι ε α}
    {y : Action τ ι ε β} {f : α → Action σ ι ε γ} {g : β → Action τ ι ε δ}
    (hx : K.Together (Agree V) x y) (hf : ∀ a b, V a b → K.Together W (f a) (g b))
    (herror : ∀ e, W (.error e) (.error e)) : K.Together W (x >>= f) (y >>= g) := by
  intro s t hst
  obtain ⟨hshells, hevents, hresult⟩ := hx s t hst
  rw [Action.bind_apply, Action.bind_apply]
  generalize (x s).result = r, (y t).result = r' at hresult
  cases hresult with
  | ok hab =>
    have hrest := hf _ _ hab _ _ hshells
    exact ⟨hrest.shells, K.append hevents hrest.events, hrest.result⟩
  | error e => exact ⟨hshells, hevents, herror e⟩

end Together

/-- A coupling bears what commands are made of: the streams take everything, the histories are the
same, the log does not count, the same change leads on, the hosts answer questions in the same way,
and calls of the system shell come out as `V` says. -/
structure Bears (host : Host σ) (host' : Host τ) (V : RunOutcome → RunOutcome → Prop) :
    Prop where
  unlimited : ∀ {s t}, K.Shells s t → s.Unlimited ∧ t.Unlimited
  history : ∀ {s t}, K.Shells s t → s.session.history = t.session.history
  note : ∀ r r', K.Events [.noted r] [.noted r']
  change : ∀ c, K.Together (Agree Eq) (Action.change c : Action σ ι Fault Unit)
    (Action.change c : Action τ ι Fault Unit)
  hand : ∀ text, K.Together (Agree V) (Action.hand host text : Action σ ι Fault RunOutcome)
    (Action.hand host' text : Action τ ι Fault RunOutcome)
  fileSize : ∀ path, K.Together (Agree Eq)
    (Action.ask (host.fileSize path) : Action σ ι Fault (Except OsError ℕ))
    (Action.ask (host'.fileSize path) : Action τ ι Fault (Except OsError ℕ))
  timeOfDay : K.Together (Agree Eq) (Action.ask host.timeOfDay : Action σ ι Fault ℕ)
    (Action.ask host'.timeOfDay : Action τ ι Fault ℕ)
  elapsed : K.Together (Agree Eq) (Action.ask host.elapsed : Action σ ι Fault ℕ)
    (Action.ask host'.elapsed : Action τ ι Fault ℕ)

end Coupling

/-! ## The commands of two shells -/

/-- The result of a delegated line. -/
def RunOutcome.delegated : RunOutcome → Except Fault ExitCode
  | .ok code => .ok code
  | .error _ => .error .notRun

/-- The result of a timed command. -/
def RunOutcome.timed : RunOutcome → Except Fault ExitCode
  | .ok _ => .ok 0
  | .error _ => .error .notRun

namespace Coupling.Bears

variable {K : Coupling σ τ ι} {host : Host σ} {host' : Host τ}
  {V : RunOutcome → RunOutcome → Prop} {W : Except Fault ExitCode → Except Fault ExitCode → Prop}

/-- Log records go together whatever is in them. -/
lemma together_note (hK : K.Bears host host' V) (r r' : Record) :
    K.Together (Agree Eq) (Action.note r : Action σ ι Fault Unit)
      (Action.note r' : Action τ ι Fault Unit) :=
  fun _ _ hst => ⟨hst, hK.note r r', .ok rfl⟩

/-- Printing the same text goes together. -/
lemma together_print (hK : K.Bears host host' V) (stream : Stream) (text : Text) :
    K.Together (Agree Eq) (Action.print stream text : Action σ ι Fault Unit)
      (Action.print stream text : Action τ ι Fault Unit) := by
  intro s t hst
  obtain ⟨hs, ht⟩ := hK.unlimited hst
  rw [Action.print_of_room_none (hs.room stream), Action.print_of_room_none (ht.room stream)]
  exact ⟨hst, K.refl _, .ok rfl⟩

/-- A command whose announcements go together goes together if what it does goes together. -/
lemma together_builtin (hK : K.Bears host host' V) (hrefl : ∀ r, W r r) (command : Command)
    {x : Action σ ι Fault ExitCode} {y : Action τ ι Fault ExitCode} (hx : K.Together W x y) :
    K.Together W (builtin command x) (builtin command y) :=
  .bind (hK.together_note _ _) (fun _ _ _ => hx) fun _ => hrefl _

/-- Switching the echo goes together. -/
lemma together_switch (hK : K.Bears host host' V) (hrefl : ∀ r, W r r) (flag : Text) :
    K.Together W (Builtin.switch flag) (Builtin.switch flag) := by
  unfold Builtin.switch
  split_ifs
  · exact .bind (hK.change _) (fun _ _ _ => .pure (hrefl _)) fun _ => hrefl _
  · exact .bind (hK.change _) (fun _ _ _ => .pure (hrefl _)) fun _ => hrefl _
  · exact .bind (hK.together_note _ _) (fun _ _ _ => .fail (hrefl _)) fun _ => hrefl _

/-- Showing the size of a file goes together. -/
lemma together_size (hK : K.Bears host host' V) (hrefl : ∀ r, W r r) (path : Text) :
    K.Together W (Builtin.size host path) (Builtin.size host' path) := by
  unfold Builtin.size
  refine .bind (hK.together_print _ _) (fun _ _ _ => ?_) fun _ => hrefl _
  refine .bind (hK.fileSize path) (fun answer _ h => ?_) fun _ => hrefl _
  subst h
  cases answer with
  | ok bytes =>
    exact .bind (hK.together_print _ _) (fun _ _ _ => .pure (hrefl _)) fun _ => hrefl _
  | error e =>
    exact .bind (hK.together_print _ _) (fun _ _ _ => .pure (hrefl _)) fun _ => hrefl _

/-- Listing the same lines goes together. -/
lemma together_list (hK : K.Bears host host' V) (entries : List (ℕ × Text)) :
    K.Together (Agree Eq) (Builtin.list entries : Action σ ι Fault Unit)
      (Builtin.list entries : Action τ ι Fault Unit) := by
  induction entries with
  | nil => exact .pure (.ok rfl)
  | cons entry rest ih => exact .bind (hK.together_print _ _) (fun _ _ _ => ih) .error

/-- Listing the history goes together, because the histories are the same. -/
lemma together_history (hK : K.Bears host host' V) (hrefl : ∀ r, W r r) :
    K.Together W (Builtin.history : Action σ ι Fault ExitCode)
      (Builtin.history : Action τ ι Fault ExitCode) := by
  have hsession : K.Together (Agree fun a b => a.history = b.history)
      (Action.session : Action σ ι Fault Session) (Action.session : Action τ ι Fault Session) :=
    fun _ _ hst => ⟨hst, K.refl _, .ok (hK.history hst)⟩
  refine .bind hsession (fun a b h => ?_) fun _ => hrefl _
  rw [h]
  exact .bind (hK.together_list _) (fun _ _ _ => .pure (hrefl _)) fun _ => hrefl _

/-- Timing a command goes together, with results that tell whether the command could be run. -/
lemma together_time (hK : K.Bears host host' V) (hrefl : ∀ r, W r r)
    (htimed : ∀ o o', V o o' → W (RunOutcome.timed o) (RunOutcome.timed o')) (text : Text) :
    K.Together W (Builtin.time host text) (Builtin.time host' text) := by
  unfold Builtin.time
  refine .bind hK.timeOfDay (fun start _ h => ?_) fun _ => hrefl _
  subst h
  refine .bind (hK.hand text) (fun outcome outcome' hrun => ?_) fun _ => hrefl _
  refine .bind hK.timeOfDay (fun finish _ h => ?_) fun _ => hrefl _
  subst h
  refine .bind (hK.together_print _ _) (fun _ _ _ => ?_) fun _ => hrefl _
  have hresult := htimed outcome outcome' hrun
  rcases outcome with e | code <;> rcases outcome' with e' | code' <;>
    exact .bind (hK.together_note _ _)
      (fun _ _ _ => .of_result (fun _ => rfl) (fun _ => rfl) hresult) fun _ => hrefl _

/-- Delegating a line goes together, with results that tell how the line came out. -/
lemma together_delegate (hK : K.Bears host host' V) (hrefl : ∀ r, W r r)
    (hdelegated : ∀ o o', V o o' → W (RunOutcome.delegated o) (RunOutcome.delegated o'))
    (line : Text) : K.Together W (delegate host line) (delegate host' line) := by
  unfold delegate
  refine .bind (hK.hand line) (fun outcome outcome' hrun => ?_) fun _ => hrefl _
  have hresult := hdelegated outcome outcome' hrun
  rcases outcome with e | code <;> rcases outcome' with e' | code' <;>
    exact .bind (hK.together_note _ _)
      (fun _ _ _ => .of_result (fun _ => rfl) (fun _ => rfl) hresult) fun _ => hrefl _

/-- Showing how long the session has lasted goes together. -/
lemma together_times (hK : K.Bears host host' V) (hrefl : ∀ r, W r r) :
    K.Together W (Builtin.times host) (Builtin.times host') := by
  refine .bind hK.elapsed (fun elapsed _ h => ?_) fun _ => hrefl _
  subst h
  exact .bind (hK.together_print _ _) (fun _ _ _ => .pure (hrefl _)) fun _ => hrefl _

/-- The rounds of a repetition go together, however any of them comes out. -/
lemma together_rounds (hK : K.Bears host host' V) (text : Text) (round left : ℕ) :
    K.Together (Agree Eq) (Builtin.rounds host text round left)
      (Builtin.rounds host' text round left) := by
  induction left generalizing round with
  | zero => exact .pure (.ok rfl)
  | succ left ih =>
    unfold Builtin.rounds
    refine .bind (hK.hand text) (fun outcome outcome' _ => ?_) .error
    rcases outcome with e | code <;> rcases outcome' with e' | code' <;>
      exact .bind (hK.together_note _ _) (fun _ _ _ => ih (round + 1)) .error

/-- Repeating a command goes together, however any round of it comes out. -/
lemma together_again (hK : K.Bears host host' V) (hrefl : ∀ r, W r r) (arguments : List Text) :
    K.Together W (Builtin.again host arguments) (Builtin.again host' arguments) :=
  .bind (hK.together_rounds _ 0 _) (fun _ _ _ => .pure (hrefl _)) fun _ => hrefl _

/-- A command that is no recall goes together. -/
lemma together_performHere (hK : K.Bears host host' V) (hrefl : ∀ r, W r r) {c : Command}
    (htimed : c.verb = .time → ∀ o o', V o o' → W (RunOutcome.timed o) (RunOutcome.timed o'))
    (hdelegated : c.verb = .delegate →
      ∀ o o', V o o' → W (RunOutcome.delegated o) (RunOutcome.delegated o')) :
    K.Together W (performHere host c) (performHere host' c) := by
  unfold performHere perform
  cases hverb : c.verb with
  | nothing => exact .fail (hrefl _)
  | leave =>
    refine hK.together_builtin hrefl c ?_
    exact .bind (hK.change _) (fun _ _ _ => .pure (hrefl _)) fun _ => hrefl _
  | switch => exact hK.together_builtin hrefl c (hK.together_switch hrefl _)
  | size => exact hK.together_builtin hrefl c (hK.together_size hrefl _)
  | «recall» index => exact .fail (hrefl _)
  | history => exact hK.together_builtin hrefl c (hK.together_history hrefl)
  | time => exact hK.together_builtin hrefl c (hK.together_time hrefl (htimed hverb) _)
  | times => exact hK.together_builtin hrefl c (hK.together_times hrefl)
  | again => exact hK.together_builtin hrefl c (hK.together_again hrefl _)
  | delegate => exact hK.together_delegate hrefl (hdelegated hverb) _

/-- **Dispatching the same command goes together**, recalls and all.  The results may differ only
where the command behind the recalls is a timed or a delegated one. -/
theorem coupled_dispatch (hK : K.Bears host host' V) (hrefl : ∀ r, W r r) (settings : Settings)
    (command : Command) {s : Shell σ ι} {t : Shell τ ι} (hst : K.Shells s t)
    (hbehind : ∀ c, (command.resolve s.session.history settings.recallDepth
        settings.recallDepth).2 = .ok c →
      (c.verb = .time → ∀ o o', V o o' → W (RunOutcome.timed o) (RunOutcome.timed o')) ∧
        (c.verb = .delegate →
          ∀ o o', V o o' → W (RunOutcome.delegated o) (RunOutcome.delegated o'))) :
    K.Coupled W (dispatch host settings command s) (dispatch host' settings command t) := by
  obtain ⟨hs, ht⟩ := hK.unlimited hst
  unfold dispatch
  rw [dispatchWithin_eq_resolve host _ hs.out le_rfl,
    dispatchWithin_eq_resolve host' _ ht.out le_rfl, ← hK.history hst]
  rcases hresolve : command.resolve s.session.history settings.recallDepth settings.recallDepth
    with ⟨entries, f | c⟩
  · exact ⟨hst, K.refl _, hrefl _⟩
  · obtain ⟨htimed, hdelegated⟩ := hbehind c (congrArg Prod.snd hresolve)
    have hcommand := hK.together_performHere hrefl htimed hdelegated s t hst
    exact ⟨hcommand.shells, K.append (K.refl _) hcommand.events, hcommand.result⟩

end Coupling.Bears

end LineShell
