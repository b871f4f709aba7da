import LineShell.Proofs.Recall
import LineShell.Proofs.Sources

/-!
# The limit on nested recalls

A recall may lead to a recall again, and a history may hold recalls that lead back to themselves.
The limit on nested recalls is there for these alone.  `dispatch_recallDepth` says so in three
parts.  A command that is not nested too deep is carried out in the same way under every higher
limit.  Under a limit above the number of entries, a command is nested too deep exactly if following
its recalls comes to some entry twice, because there are not enough entries for so long a chain.
And a line that asks for the entry that it becomes itself is nested too deep under every limit.
-/

namespace LineShell

variable {σ ι : Type}

/-! ## Chains that come back -/

/-- Following recalls from the command comes to some entry of the history twice. -/
def Command.Revisits (h : History) (c : Command) : Prop :=
  ∃ entries c', Chain h c entries c' ∧ ¬ (entries.map Prod.fst).Nodup

namespace Chain

variable {h : History} {c c' c'' : Command} {entries further loop : List (ℤ × Text)}

/-- One chain after another is a chain. -/
lemma append (hchain : Chain h c entries c') (hfurther : Chain h c' further c'') :
    Chain h c (entries ++ further) c'' := by
  induction hchain with
  | nil c => exact hfurther
  | cons hrecalls _ ih => exact .cons hrecalls (ih hfurther)

/-- A chain can be cut after any of its entries. -/
lemma split (hchain : Chain h c (entries ++ further) c'') :
    ∃ c', Chain h c entries c' ∧ Chain h c' further c'' := by
  induction entries generalizing c with
  | nil => exact ⟨c, .nil c, hchain⟩
  | cons entry entries ih =>
    cases hchain with
    | cons hrecalls hrest =>
      obtain ⟨c', hentries, hfurther⟩ := ih hrest
      exact ⟨c', .cons hrecalls hentries, hfurther⟩

/-- The numbers of the entries that are passed count lines of the history. -/
lemma number_mem (hchain : Chain h c entries c') :
    ∀ n ∈ entries.map Prod.fst, n ∈ Finset.Icc (1 : ℤ) h.size := by
  induction hchain with
  | nil c => simp
  | cons hrecalls _ ih =>
    obtain ⟨index, -, -, hpos, hsize, -⟩ := hrecalls
    rw [List.map_cons]
    refine List.forall_mem_cons.mpr ⟨?_, ih⟩
    exact Finset.mem_Icc.mpr ⟨hpos, hsize⟩

/-- A chain that comes to no entry twice is no longer than the history. -/
lemma length_le_of_nodup (hchain : Chain h c entries c') (hnodup : (entries.map Prod.fst).Nodup) :
    entries.length ≤ h.size := by
  have hsubset : (entries.map Prod.fst).toFinset ⊆ Finset.Icc (1 : ℤ) h.size := by
    intro n hn
    exact hchain.number_mem n (List.mem_toFinset.mp hn)
  calc
    entries.length = (entries.map Prod.fst).toFinset.card := by
      rw [List.toFinset_card_of_nodup hnodup, List.length_map]
    _ ≤ (Finset.Icc (1 : ℤ) h.size).card := Finset.card_le_card hsubset
    _ = h.size := by simp

/-- A chain that comes to some entry twice leads into a loop. -/
lemma exists_loop (hchain : Chain h c entries c') (htwice : ¬ (entries.map Prod.fst).Nodup) :
    ∃ way d loop, Chain h c way d ∧ Chain h d loop d ∧ loop ≠ [] := by
  induction hchain with
  | nil c => exact absurd List.nodup_nil htwice
  | @cons c c' n line entries hrecalls hrest ih =>
    by_cases hmem : n ∈ entries.map Prod.fst
    · -- The entry at the head comes again, so the loop begins behind it.
      obtain ⟨⟨_, line'⟩, hentry, rfl⟩ := List.mem_map.mp hmem
      obtain ⟨before, after, rfl⟩ := List.append_of_mem hentry
      obtain ⟨d, hbefore, hafter⟩ := hrest.split
      cases hafter with
      | cons hagain _ =>
        obtain ⟨-, -, -, -, -, hline⟩ := id hrecalls
        obtain ⟨-, -, -, -, -, hline'⟩ := id hagain
        obtain rfl : line = line' := Option.some.inj (hline.symm.trans hline')
        refine ⟨_, _, _, .cons hrecalls (.nil _), hbefore.append (.cons hagain (.nil _)), ?_⟩
        exact List.append_ne_nil_of_right_ne_nil _ (List.cons_ne_nil _ _)
    · have htwice' : ¬ (entries.map Prod.fst).Nodup :=
        fun hnodup => htwice (List.nodup_cons.mpr ⟨hmem, hnodup⟩)
      obtain ⟨way, d, loop, hway, hloop, hne⟩ := ih htwice'
      exact ⟨_, d, loop, .cons hrecalls hway, hloop, hne⟩

/-- A loop can be followed any number of times. -/
lemma flatten_replicate (hloop : Chain h c loop c) (k : ℕ) :
    Chain h c (List.replicate k loop).flatten c := by
  induction k with
  | zero => exact .nil c
  | succ k ih =>
    rw [List.replicate_succ, List.flatten_cons]
    exact hloop.append ih

/-- A chain that comes to some entry twice can be followed as far as one likes. -/
lemma exists_length_eq (hchain : Chain h c entries c')
    (htwice : ¬ (entries.map Prod.fst).Nodup) (k : ℕ) :
    ∃ further c'', Chain h c further c'' ∧ further.length = k := by
  obtain ⟨way, d, loop, hway, hloop, hne⟩ := hchain.exists_loop htwice
  have hlong := hway.append (hloop.flatten_replicate k)
  have hlength : k ≤ (way ++ (List.replicate k loop).flatten).length := by
    have hpos : 1 ≤ loop.length := List.length_pos_iff.mpr hne
    have hmul : k * 1 ≤ k * loop.length := Nat.mul_le_mul_left k hpos
    rw [List.length_append, List.length_flatten, List.map_replicate, List.sum_replicate,
      smul_eq_mul]
    omega
  rw [← List.take_append_drop k (way ++ (List.replicate k loop).flatten)] at hlong
  obtain ⟨c'', hfirst, -⟩ := hlong.split
  exact ⟨_, c'', hfirst, List.length_take_of_le hlength⟩

end Chain

/-! ## How far a command is resolved -/

namespace Command

variable {h : History} {c : Command}

/-- Unless a command is nested too deep, it resolves in the same way where more recalls are allowed,
whatever the limit is. -/
lemma resolve_eq_of_le {limit left limit' left' : ℕ}
    (hdeep : (c.resolve h limit left).2 ≠ .error (.tooDeep limit)) (hle : left ≤ left') :
    c.resolve h limit' left' = c.resolve h limit left := by
  fun_induction resolve h limit left c generalizing left' with
  | case1 left c index hbase hn => exact resolve_of_badIndex limit' left' hbase hn
  | case2 c index hbase n hn => exact absurd rfl hdeep
  | case3 c index hbase n left hn hline =>
    obtain ⟨more, rfl⟩ := Nat.exists_eq_add_of_le' (Nat.zero_lt_of_lt hle)
    exact resolve_of_get?_eq_none limit' more hbase hn hline
  | case4 c index hbase n left hn line hline =>
    rename_i ih
    obtain ⟨more, rfl⟩ := Nat.exists_eq_add_of_le' (Nat.zero_lt_of_lt hle)
    have hbehind := ih hdeep (Nat.le_of_succ_le_succ hle)
    rw [resolve_of_get?_eq_some limit' more hbase hn hline, hbehind]
  | case5 left c hbase =>
    refine resolve_of_not_isRecall limit' left' ?_
    rw [isRecall_iff]
    rintro ⟨index, hmark⟩
    exact hbase index hmark

/-- A command that is nested too deep has passed as many entries as recalls are allowed. -/
lemma exists_chain_of_tooDeep {limit left : ℕ}
    (hdeep : (c.resolve h limit left).2 = .error (.tooDeep limit)) :
    (c.resolve h limit left).1.length = left ∧ ∃ c', Chain h c (c.resolve h limit left).1 c' := by
  fun_induction resolve h limit left c with
  | case1 => cases hdeep
  | case2 c => exact ⟨rfl, c, .nil c⟩
  | case3 => cases hdeep
  | case4 c index hbase n left hn line hline further ih =>
    obtain ⟨hlength, c', hchain⟩ := ih hdeep
    have hrecalls : c.Recalls h n line := ⟨index, hbase, hn, History.get?_eq_some_iff.mp hline⟩
    exact ⟨congrArg Nat.succ hlength, c', .cons hrecalls hchain⟩
  | case5 => cases hdeep

/-- A chain that is longer than recalls are allowed is too deep. -/
lemma resolve_of_chain {entries : List (ℤ × Text)} {c' : Command} (hchain : Chain h c entries c')
    {n : ℤ} {line : Text} (hrecalls : c'.Recalls h n line) (limit : ℕ) :
    c.resolve h limit entries.length = (entries, .error (.tooDeep limit)) := by
  obtain ⟨index, hbase, hn, -⟩ := hrecalls
  have h := hchain.resolve_eq limit 0
  rwa [Nat.add_zero, resolve_zero limit hbase hn, List.append_nil] at h

/-- A command whose recalls come to some entry twice is nested too deep under every limit. -/
lemma Revisits.resolve_eq (hrevisits : c.Revisits h) (limit : ℕ) :
    (c.resolve h limit limit).2 = .error (.tooDeep limit) := by
  obtain ⟨_, _, hchain, htwice⟩ := hrevisits
  obtain ⟨entries, c', hlong, hlength⟩ := hchain.exists_length_eq htwice (limit + 1)
  rw [← List.take_append_drop limit entries] at hlong
  obtain ⟨d, hfirst, hlast⟩ := hlong.split
  have htake : (entries.take limit).length = limit := by
    rw [List.length_take, hlength]
    omega
  obtain ⟨⟨n, line⟩, rest, hrest⟩ : ∃ entry rest, entries.drop limit = entry :: rest := by
    refine List.exists_cons_of_length_pos ?_
    rw [List.length_drop, hlength]
    omega
  rw [hrest] at hlast
  cases hlast with
  | cons hrecalls _ =>
    have hresolve := resolve_of_chain hfirst hrecalls limit
    rw [htake] at hresolve
    rw [hresolve]

/-- Under a limit above the number of entries, a command is nested too deep exactly if its recalls
come to some entry twice. -/
lemma resolve_eq_tooDeep_iff {limit : ℕ} (hlimit : h.size < limit) :
    (c.resolve h limit limit).2 = .error (.tooDeep limit) ↔ c.Revisits h := by
  constructor
  · intro hdeep
    obtain ⟨hlength, c', hchain⟩ := exists_chain_of_tooDeep hdeep
    refine ⟨_, c', hchain, ?_⟩
    intro hnodup
    have hle := hchain.length_le_of_nodup hnodup
    omega
  · intro hrevisits
    exact hrevisits.resolve_eq limit

end Command

/-! ## Dispatching under a limit -/

/-- The settings with another limit on nested recalls. -/
def Settings.within (settings : Settings) (limit : ℕ) : Settings :=
  { settings with recallDepth := limit }

/-- Dispatching a command under a limit passes the entries on the way to the command behind it, and
carries that one out or fails. -/
lemma dispatch_within (host : Host σ) (settings : Settings) (limit : ℕ) {s : Shell σ ι}
    (hout : s.out = none) (c : Command) :
    dispatch host (settings.within limit) c s =
      match c.resolve s.session.history limit limit with
      | (entries, .ok c') => (performHere host c' s).after (passing 0 entries)
      | (entries, .error f) => ⟨.error f, s, passing 0 entries⟩ := by
  have hdispatch := dispatchWithin_eq_resolve host limit hout le_rfl c
  rwa [Nat.sub_self] at hdispatch

/-- A command fails for being nested too deep exactly if it resolves to that fault. -/
lemma dispatch_within_eq_tooDeep_iff (host : Host σ) (settings : Settings) (limit : ℕ)
    {s : Shell σ ι} (hout : s.out = none) (c : Command) :
    (dispatch host (settings.within limit) c s).result = .error (.tooDeep limit) ↔
      (c.resolve s.session.history limit limit).2 = .error (.tooDeep limit) := by
  rw [dispatch_within host settings limit hout]
  rcases hresolve : c.resolve s.session.history limit limit with ⟨entries, f | c'⟩
  · simp
  · have hc' : ¬ c'.IsRecall := Command.not_isRecall_of_resolve (congrArg Prod.snd hresolve)
    constructor
    · intro hdeep
      rcases fault_performHere host hc' hdeep with h | h | ⟨e, h⟩ <;> cases h
    · intro hdeep
      cases hdeep

/-- A command that is not nested too deep is dispatched in the same way under every higher limit. -/
lemma dispatch_within_of_le (host : Host σ) (settings : Settings) {s : Shell σ ι}
    (hout : s.out = none) {c : Command} {limit limit' : ℕ} (hle : limit ≤ limit')
    (hdeep : (dispatch host (settings.within limit) c s).result ≠ .error (.tooDeep limit)) :
    dispatch host (settings.within limit') c s = dispatch host (settings.within limit) c s := by
  rw [ne_eq, dispatch_within_eq_tooDeep_iff host settings limit hout] at hdeep
  rw [dispatch_within host settings limit' hout, dispatch_within host settings limit hout,
    Command.resolve_eq_of_le hdeep hle]

/-- A command that is nested too deep has shown as many lines as recalls are allowed, and has done
nothing else. -/
lemma dispatch_within_of_tooDeep (host : Host σ) (settings : Settings) {s : Shell σ ι}
    (hout : s.out = none) {c : Command} {limit : ℕ}
    (hdeep : (dispatch host (settings.within limit) c s).result = .error (.tooDeep limit)) :
    ∃ entries c', Chain s.session.history c entries c' ∧ entries.length = limit ∧
      dispatch host (settings.within limit) c s =
        ⟨.error (.tooDeep limit), s, passing 0 entries⟩ := by
  rw [dispatch_within_eq_tooDeep_iff host settings limit hout] at hdeep
  obtain ⟨hlength, c', hchain⟩ := Command.exists_chain_of_tooDeep hdeep
  refine ⟨_, c', hchain, hlength, ?_⟩
  rw [dispatch_within host settings limit hout, ← Prod.mk.eta (p := c.resolve _ _ _), hdeep]

/-! ## A line that recalls itself -/

/-- A line that asks for itself leads back to itself any number of times. -/
lemma Chain.replicate {h : History} {n : ℤ} {line : Text}
    (hrecalls : (Command.parse line).Recalls h n line) (k : ℕ) :
    Chain h (Command.parse line) (List.replicate k (n, line)) (Command.parse line) := by
  induction k with
  | zero => exact .nil _
  | succ k ih => exact .cons hrecalls ih

/-- A line that asks for the entry that it becomes recalls itself once it has joined the history. -/
lemma History.recalls_append {h : History} {line index : Text}
    (hbase : (Command.parse line).base = '!' :: index)
    (hn : leadingInt? index = some ((h.size : ℤ) + 1)) :
    (Command.parse line).Recalls (h.append line) (h.size + 1) line := by
  refine ⟨index, hbase, hn, by omega, by simp, ?_⟩
  rw [add_sub_cancel_right, Int.toNat_natCast, History.lines_append]
  exact List.getElem?_concat_length

/-- A line that asks for the entry that it becomes is nested too deep under every limit, once it has
joined the history. -/
lemma dispatch_within_of_self (host : Host σ) (settings : Settings) (limit : ℕ) {s : Shell σ ι}
    (hs : s.Unlimited) {line index : Text} (hbase : (Command.parse line).base = '!' :: index)
    (hn : leadingInt? index = some ((s.session.history.size : ℤ) + 1)) :
    dispatch host (settings.within limit) (Command.parse line) (s.record line) =
      ⟨.error (.tooDeep limit), s.record line,
        passing 0 (List.replicate limit (s.session.history.size + 1, line))⟩ := by
  have hrecalls := History.recalls_append hbase hn
  have hresolve := Command.resolve_of_chain (Chain.replicate hrecalls limit) hrecalls limit
  rw [List.length_replicate] at hresolve
  have hhistory : (s.record line).session.history = s.session.history.append line := rfl
  rw [dispatch_within host settings limit (hs.record line).out, hhistory, hresolve]

/-- **The limit on recalls cuts cycles and nothing else.**  A command that is not nested too deep is
dispatched in the same way, with the same outcome in every respect, under every higher limit.  Under
a limit above the number of entries it is nested too deep exactly if its recalls come to some entry
twice.  A command that is nested too deep has shown as many recalled lines as the limit allows and
has done nothing else.  And a line that asks for the entry that it becomes itself, read from any
source, always ends in this way. -/
theorem dispatch_recallDepth (host : Host σ) (settings : Settings) {s : Shell σ ι}
    (hs : s.Unlimited) :
    (∀ c limit limit', limit ≤ limit' →
        (dispatch host (settings.within limit) c s).result ≠ .error (.tooDeep limit) →
          dispatch host (settings.within limit') c s =
            dispatch host (settings.within limit) c s) ∧
      (∀ c limit, s.session.history.size < limit →
        ((dispatch host (settings.within limit) c s).result = .error (.tooDeep limit) ↔
          c.Revisits s.session.history)) ∧
      (∀ c limit, (dispatch host (settings.within limit) c s).result = .error (.tooDeep limit) →
        ∃ entries c' shown, Chain s.session.history c entries c' ∧ entries.length = limit ∧
          ShowsOnly (entries.map Prod.snd) shown ∧
          dispatch host (settings.within limit) c s = ⟨.error (.tooDeep limit), s, shown⟩) ∧
      ∀ (source : LineSource ι) (limit : ℕ) (line index : Text),
        let read : Outcome σ ι IoError ReadResult := Action.readLine source s
        read.result = .ok (.ok (.line line)) → (Command.parse line).base = '!' :: index →
          leadingInt? index = some ((s.session.history.size : ℤ) + 1) →
            ∃ shown, ShowsOnly (List.replicate limit line) shown ∧
              step host (settings.within limit) source s =
                ⟨.ok (), read.shell.record line,
                  .wrote .out (Utf8.encode ['\n']) :: .flushed :: read.events ++
                    accepting s.session line ++ shown ++ settling (.error (.tooDeep limit))⟩ := by
  refine ⟨?_, ?_, ?_, ?_⟩
  · intro c limit limit' hle hdeep
    exact dispatch_within_of_le host settings hs.out hle hdeep
  · intro c limit hlimit
    rw [dispatch_within_eq_tooDeep_iff host settings limit hs.out]
    exact Command.resolve_eq_tooDeep_iff hlimit
  · intro c limit hdeep
    obtain ⟨entries, c', hchain, hlength, hdispatch⟩ :=
      dispatch_within_of_tooDeep host settings hs.out hdeep
    exact ⟨entries, c', _, hchain, hlength, showsOnly_passing 0 entries, hdispatch⟩
  · intro source limit line index read hline hbase hn
    have hsession : read.shell.session = s.session := rfl
    have hself := dispatch_within_of_self host settings limit
      (unlimited_readLine (ε := IoError) source hs) hbase (hsession ▸ hn)
    refine ⟨passing 0 (List.replicate limit ((s.session.history.size : ℤ) + 1, line)), ?_, ?_⟩
    · have hshown := showsOnly_passing 0
        (List.replicate limit ((s.session.history.size : ℤ) + 1, line))
      rwa [List.map_replicate] at hshown
    · rw [step_of_read host (settings.within limit) source hs hline, hself]
      rfl

/-- Two entries that recall each other are nested too deep, a plain one is not, and neither is saved
or spoilt by a higher limit; and so is a fourth line that asks for the fourth entry. -/
theorem dispatch_recallDepth_mutual :
    let s : Shell Unit Feed :=
      { session := Session.start Settings.standard
          ⟨["!2\n".toList, "!1 x\n".toList, "ls\n".toList]⟩ none,
        host := (), source := [.chunk (Utf8.encode "!4\n".toList)], out := none, err := none }
    let outcome := fun limit line =>
      dispatch Host.idle (Settings.standard.within limit) (Command.parse line) s
    s.Unlimited ∧
      ((outcome 1 "!3".toList).result ≠ .error (.tooDeep 1) ∧
        outcome 32 "!3".toList = outcome 1 "!3".toList) ∧
      (s.session.history.size < 4 ∧ (Command.parse "!1".toList).Revisits s.session.history ∧
        (outcome 4 "!1".toList).result = .error (.tooDeep 4)) ∧
      (step Host.idle (Settings.standard.within 2) .plain s).shell.session =
        s.session.apply (.record "!4\n".toList) ∧
      Event.written .err (step Host.idle (Settings.standard.within 2) .plain s).events =
        Utf8.encode "Error: history recall nested more than 2 levels deep\n".toList := by
  intro s outcome
  have hs : s.Unlimited := ⟨rfl, rfl⟩
  obtain ⟨hmono, hcycle, -, hself⟩ := dispatch_recallDepth Host.idle Settings.standard hs
  have hplain : (outcome 1 "!3".toList).result = .ok 0 := by decide +kernel
  have hne : (outcome 1 "!3".toList).result ≠ .error (.tooDeep 1) := by
    rw [hplain]
    rintro ⟨⟩
  have hsecond : (Command.parse "!1 x\n".toList).Recalls s.session.history 1 "!2\n".toList :=
    ⟨"1".toList, by decide, by decide, by decide, by decide, by decide⟩
  have hfirst : (Command.parse "!2\n".toList).Recalls s.session.history 2 "!1 x\n".toList :=
    ⟨"2".toList, by decide, by decide, by decide, by decide, by decide⟩
  have hcommand : (Command.parse "!1".toList).Recalls s.session.history 1 "!2\n".toList :=
    ⟨"1".toList, by decide, by decide, by decide, by decide, by decide⟩
  have hrevisits : (Command.parse "!1".toList).Revisits s.session.history :=
    ⟨_, _, .cons hcommand (.cons hfirst (.cons hsecond (.nil _))), by decide⟩
  obtain ⟨shown, hshown, hstep⟩ := hself .plain 2 "!4\n".toList "4".toList (by decide +kernel)
    (by decide) (by decide)
  refine ⟨hs, ⟨hne, ?_⟩, ⟨by decide, hrevisits, ?_⟩, ?_, ?_⟩
  · exact hmono (Command.parse "!3".toList) 1 32 (by decide) hne
  · exact (hcycle (Command.parse "!1".toList) 4 (by decide)).mpr hrevisits
  · rw [hstep]
    rfl
  · rw [hstep]
    simp only [Event.written_append, hshown.err]
    decide +kernel

end LineShell
