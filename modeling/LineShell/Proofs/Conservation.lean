import LineShell.Proofs.Fitting
import LineShell.Proofs.Sources
import LineShell.Proofs.Stepping
import Mathlib.Data.List.SplitBy

/-!
# Conservation of input

Input is a sequence of items: bytes, reports of an end that come once, and failures that come once.
A read stops after the first newline, report or failure, so the reads cut the items into *runs*
(`Item.runs`), one for each read, and the result of a read is decided by its run alone
(`Item.outcome`).  Nothing is read twice or passed over.

A report of an end hands over the part of a line before it as a line, and a failure loses it.  That
is all that they do: the lines before it and after it are those that the items there give by
themselves (`Item.lines_append`).  The main statement `plain_conserves` says all this of single
reads, and of the history of a session.
-/

namespace LineShell

/-- One item of input. -/
inductive Item where
  | byte (b : UInt8)
  /-- The input reports its end once and then goes on. -/
  | pause
  /-- The input fails once and then goes on. -/
  | failure (e : IoError)
deriving DecidableEq, Repr

/-- The items of a piece of input. -/
def Piece.items : Piece → List Item
  | .chunk bytes => bytes.map .byte
  | .pause => [.pause]
  | .failure e => [.failure e]

/-- The items of input, in order. -/
def Feed.items (feed : Feed) : List Item :=
  feed.flatMap Piece.items

namespace Item

/-- A read does not go on after the item. -/
def stops : Item → Bool
  | .byte b => b == Feed.newline
  | _ => true

/-- The bytes among items, in order. -/
def bytes (items : List Item) : List UInt8 :=
  items.flatMap fun
    | .byte b => [b]
    | _ => []

/-- The items that reads take, one after the other: they end with an item after which a read does
not go on, or at the end of the input. -/
def runs (items : List Item) : List (List Item) :=
  items.splitBy fun item _ => !item.stops

/-- What a read that holds some bytes already comes to when it takes certain items. -/
def collected (held : List UInt8) (run : List Item) : Except IoError (List UInt8) :=
  match run.getLast? with
  | some (.failure e) => .error e
  | _ => .ok (held ++ bytes run)

/-- The result of a read that takes certain items. -/
def outcome (run : List Item) : ReadResult :=
  (collected [] run).map Read.ofBytes

/-- The lines that all reads of some items give. -/
def lines (items : List Item) : List Text :=
  (runs items).flatMap fun run => Feed.givenLine (outcome run)

@[simp]
lemma bytes_nil : bytes [] = [] := rfl

@[simp]
lemma bytes_append (items items' : List Item) :
    bytes (items ++ items') = bytes items ++ bytes items' :=
  List.flatMap_append

@[simp]
lemma bytes_map_byte (body : List UInt8) : bytes (body.map .byte) = body := by
  unfold bytes
  rw [List.flatMap_map]
  exact List.flatMap_singleton' body

end Item

/-- The bytes of input are those among its items. -/
lemma Feed.bytes_items (feed : Feed) : Item.bytes feed.items = feed.bytes := by
  induction feed with
  | nil => rfl
  | cons piece feed ih =>
    have hitems : items (piece :: feed) = piece.items ++ items feed := rfl
    have hbytes : Feed.bytes (piece :: feed) = Item.bytes piece.items ++ Feed.bytes feed := by
      cases piece with
      | chunk bytes =>
        rw [Piece.items, Item.bytes_map_byte]
        rfl
      | pause => rfl
      | failure e => rfl
    rw [hitems, Item.bytes_append, ih, hbytes]

/-! ## Runs -/

namespace Item

/-- The items are a run: bytes of which none is a newline, and then nothing or an item after which a
read does not go on. -/
inductive IsRun : List Item → Prop
  | part (body : List UInt8) : Feed.newline ∉ body → IsRun (body.map .byte)
  | whole (body : List UInt8) (stop : Item) : Feed.newline ∉ body → stop.stops →
    IsRun (body.map .byte ++ [stop])

/-- A read goes on after every item of a run but the last. -/
lemma isChain_append {body : List UInt8} (hbody : Feed.newline ∉ body) {rest : List Item}
    (hrest : rest.IsChain fun item _ => !item.stops) :
    (body.map Item.byte ++ rest).IsChain fun item _ => !item.stops := by
  induction body with
  | nil => exact hrest
  | cons b body ih =>
    obtain ⟨hb, hbody⟩ := List.ne_and_not_mem_of_not_mem_cons hbody
    refine List.isChain_cons.mpr ⟨fun _ _ => ?_, ih hbody⟩
    simp [stops, hb.symm]

/-- A run is cut no further. -/
lemma IsRun.runs_eq {run : List Item} (h : IsRun run) (hne : run ≠ []) : runs run = [run] := by
  refine List.splitBy_of_isChain hne ?_
  cases h with
  | part body hbody =>
    have hchain := isChain_append hbody List.isChain_nil
    rwa [List.append_nil] at hchain
  | whole body stop hbody _ => exact isChain_append hbody (.singleton stop)

/-- A run goes on being one after bytes of which none is a newline. -/
lemma IsRun.prepend {run : List Item} (h : IsRun run) {body : List UInt8}
    (hbody : Feed.newline ∉ body) : IsRun (body.map .byte ++ run) := by
  cases h with
  | part body' hbody' =>
    rw [← List.map_append]
    exact .part _ fun hmem => (List.mem_append.mp hmem).elim hbody hbody'
  | whole body' stop hbody' hstop =>
    rw [← List.append_assoc, ← List.map_append]
    exact .whole _ stop (fun hmem => (List.mem_append.mp hmem).elim hbody hbody') hstop

/-- Bytes at the beginning of a run are as good as bytes that are held already. -/
lemma collected_prepend (held body : List UInt8) (run : List Item) :
    collected held (body.map .byte ++ run) = collected (held ++ body) run := by
  unfold collected
  rw [List.getLast?_append, bytes_append, bytes_map_byte, List.append_assoc]
  cases hlast : run.getLast? with
  | some item => rfl
  | none =>
    rw [Option.none_or, List.getLast?_map]
    cases body.getLast? <;> rfl

/-- The result of a read that takes bytes and then certain items. -/
lemma outcome_prepend (body : List UInt8) (run : List Item) :
    outcome (body.map .byte ++ run) = (collected body run).map Read.ofBytes := by
  rw [outcome, collected_prepend, List.nil_append]

/-- The result of a read that takes bytes and nothing else. -/
lemma outcome_part (body : List UInt8) : outcome (body.map .byte) = .ok (Read.ofBytes body) := by
  have h := outcome_prepend body []
  have hcollected : collected body [] = .ok body := by simp [collected]
  rw [List.append_nil, hcollected] at h
  exact h

/-- The result of a read that takes bytes and then an item at which it stops. -/
lemma outcome_whole (body : List UInt8) (stop : Item) :
    outcome (body.map .byte ++ [stop]) =
      match stop with
      | .byte b => .ok (Read.ofBytes (body ++ [b]))
      | .pause => .ok (Read.ofBytes body)
      | .failure e => .error e := by
  rw [outcome_prepend]
  cases stop with
  | byte b => rfl
  | pause => simp [collected, bytes, Except.map]
  | failure e => rfl

/-- Bytes that say a line say the line that they stand for. -/
lemma eq_of_ofBytes_eq_line {body : List UInt8} {line : Text} (h : Read.ofBytes body = .line line) :
    line = Line.ofBytes body := by
  cases body with
  | nil => cases h
  | cons b bs => exact (Read.line.inj h).symm

/-- Bytes that say that the input has ended are none. -/
lemma eq_nil_of_ofBytes_eq_ended {body : List UInt8} (h : Read.ofBytes body = .ended) :
    body = [] := by
  cases body with
  | nil => rfl
  | cons b bs => cases h

/-- A read that gives a line has taken the bytes of the line, with a newline at their end at most,
and perhaps a report of an end after them. -/
lemma IsRun.of_line {run : List Item} (h : IsRun run) {line : Text}
    (hline : outcome run = .ok (.line line)) :
    line = Line.fit (Utf8.decodeLossy (bytes run)) ∧ Feed.newline ∉ (bytes run).dropLast ∧
      (run = (bytes run).map .byte ∨ run = (bytes run).map .byte ++ [.pause]) := by
  cases h with
  | part body hbody =>
    rw [outcome_part] at hline
    rw [bytes_map_byte]
    exact ⟨eq_of_ofBytes_eq_line (Except.ok.inj hline), mt List.mem_of_mem_dropLast hbody,
      Or.inl rfl⟩
  | whole body stop hbody hstop =>
    rw [outcome_whole] at hline
    cases stop with
    | byte b =>
      have hbytes : bytes (body.map .byte ++ [.byte b]) = body ++ [b] := by
        rw [bytes_append, bytes_map_byte]
        rfl
      rw [hbytes, List.dropLast_concat, List.map_append]
      exact ⟨eq_of_ofBytes_eq_line (Except.ok.inj hline), hbody, Or.inl rfl⟩
    | pause =>
      have hbytes : bytes (body.map .byte ++ [.pause]) = body := by
        rw [bytes_append, bytes_map_byte]
        exact List.append_nil body
      rw [hbytes]
      exact ⟨eq_of_ofBytes_eq_line (Except.ok.inj hline), mt List.mem_of_mem_dropLast hbody,
        Or.inr rfl⟩
    | failure e => cases hline

/-- A read that fails has taken a failure, and bytes before it of which none is a newline. -/
lemma IsRun.of_error {run : List Item} (h : IsRun run) {e : IoError} (he : outcome run = .error e) :
    ∃ body : List UInt8, Feed.newline ∉ body ∧ run = body.map .byte ++ [.failure e] := by
  cases h with
  | part body hbody =>
    rw [outcome_part] at he
    cases he
  | whole body stop hbody hstop =>
    rw [outcome_whole] at he
    cases stop with
    | byte b => cases he
    | pause => cases he
    | failure e' =>
      cases he
      exact ⟨body, hbody, rfl⟩

/-- A read that finds an end has taken a report of it, or nothing. -/
lemma IsRun.of_ended {run : List Item} (h : IsRun run) (hended : outcome run = .ok .ended) :
    run = [] ∨ run = [.pause] := by
  cases h with
  | part body hbody =>
    rw [outcome_part] at hended
    rw [eq_nil_of_ofBytes_eq_ended (Except.ok.inj hended)]
    exact Or.inl rfl
  | whole body stop hbody hstop =>
    rw [outcome_whole] at hended
    cases stop with
    | byte b =>
      have hnil := eq_nil_of_ofBytes_eq_ended (Except.ok.inj hended)
      simp at hnil
    | pause =>
      rw [eq_nil_of_ofBytes_eq_ended (Except.ok.inj hended)]
      exact Or.inr rfl
    | failure e => cases hended

/-- Items are cut where a read does not go on. -/
lemma runs_append {items : List Item} (h : ∀ item ∈ items.getLast?, item.stops)
    (further : List Item) : runs (items ++ further) = runs items ++ runs further := by
  refine List.splitBy_append fun item hitem _ _ => ?_
  simp [h item hitem]

/-- The lines of items are put together where a read does not go on. -/
lemma lines_append {items : List Item} (h : ∀ item ∈ items.getLast?, item.stops)
    (further : List Item) : lines (items ++ further) = lines items ++ lines further := by
  rw [lines, runs_append h, List.flatMap_append]
  rfl

end Item

/-! ## Reads -/

namespace Feed

/-- A read takes a run of items, after which it does not go on unless there are no more, and comes
to the bytes held and those of the run, or to the failure at its end. -/
lemma takeFrom_items (held : List UInt8) (feed : Feed) :
    ∃ run, Item.IsRun run ∧ feed.items = run ++ (takeFrom held feed).2.items ∧
      ((∃ stop ∈ run.getLast?, stop.stops) ∨ (takeFrom held feed).2.items = []) ∧
      (takeFrom held feed).1 = Item.collected held run := by
  fun_induction takeFrom held feed with
  | case1 held => exact ⟨[], .part [] List.not_mem_nil, rfl, Or.inr rfl, by simp [Item.collected]⟩
  | case2 held feed =>
    refine ⟨[.pause], .whole [] .pause List.not_mem_nil rfl, rfl, Or.inl ⟨.pause, rfl, rfl⟩, ?_⟩
    simp [Item.collected, Item.bytes]
  | case3 held e feed =>
    exact ⟨[.failure e], .whole [] (.failure e) List.not_mem_nil rfl, rfl,
      Or.inl ⟨.failure e, rfl, rfl⟩, rfl⟩
  | case4 held bytes feed line rest hcut =>
    obtain ⟨body, hbody, hline, hbytes⟩ := cutAfterNewline?_eq_some hcut
    simp only at hline hbytes
    have hrun : line.map Item.byte = body.map .byte ++ [.byte newline] := by
      rw [hline, List.map_append]
      rfl
    have hlast : (line.map Item.byte).getLast? = some (.byte newline) := by
      rw [hrun, List.getLast?_concat]
    refine ⟨line.map .byte, ?_, ?_, Or.inl ⟨.byte newline, hlast, rfl⟩, ?_⟩
    · rw [hrun]
      exact .whole body (.byte newline) hbody rfl
    · have hitems : ∀ bytes, items (.chunk bytes :: feed) = bytes.map .byte ++ items feed :=
        fun _ => rfl
      rw [hitems, hitems, hbytes, List.map_append, List.append_assoc]
    · rw [Item.collected, hlast, Item.bytes_map_byte]
  | case5 held bytes feed hcut ih =>
    obtain ⟨run, hrun, hitems, hends, hcollected⟩ := ih
    have hnewline := cutAfterNewline?_eq_none hcut
    -- There is no newline in the chunk, so all of it belongs to the run that ends after it.
    refine ⟨bytes.map .byte ++ run, hrun.prepend hnewline, ?_, ?_, ?_⟩
    · rw [List.append_assoc, ← hitems]
      rfl
    · refine hends.imp_left ?_
      rintro ⟨stop, hlast, hstop⟩
      refine ⟨stop, ?_, hstop⟩
      rw [List.getLast?_append, Option.mem_def.mp hlast]
      rfl
    · rw [hcollected, Item.collected_prepend]

/-- A read takes the first run of its input and leaves the others, and its result is decided by that
run; or there is nothing to take, and it finds the end. -/
lemma next_items (feed : Feed) :
    (feed.items = [] ∧ feed.next.2.items = [] ∧ feed.next.1 = .ok .ended) ∨
      ∃ run, Item.IsRun run ∧ run ≠ [] ∧ feed.next.1 = Item.outcome run ∧
        Item.runs feed.items = run :: Item.runs feed.next.2.items := by
  obtain ⟨run, hrun, hitems, hends, hcollected⟩ := takeFrom_items [] feed
  have hresult : feed.next.1 = Item.outcome run := congrArg (·.map Read.ofBytes) hcollected
  have hleft : feed.items = run ++ feed.next.2.items := hitems
  by_cases hne : run = []
  · left
    have hnone : feed.next.2.items = [] := by
      rcases hends with ⟨stop, hlast, -⟩ | hnone
      · rw [hne] at hlast
        cases hlast
      · exact hnone
    refine ⟨?_, hnone, ?_⟩
    · rw [hleft, hne, hnone, List.append_nil]
    · rw [hresult, hne]
      rfl
  · right
    refine ⟨run, hrun, hne, hresult, ?_⟩
    rcases hends with ⟨stop, hlast, hstop⟩ | hnone
    · have hstops : ∀ item ∈ run.getLast?, item.stops := by
        intro item hitem
        rwa [Option.mem_unique hitem hlast]
      rw [hleft, Item.runs_append hstops, hrun.runs_eq hne, List.singleton_append]
    · have hnone' : feed.next.2.items = [] := hnone
      rw [hleft, hnone', List.append_nil, hrun.runs_eq hne]
      rfl

/-- Reads leave the runs after those that they take. -/
lemma runs_after (n : ℕ) (feed : Feed) :
    Item.runs (feed.after n).items = (Item.runs feed.items).drop n := by
  induction n generalizing feed with
  | zero => rfl
  | succ n ih =>
    rw [after, ih]
    rcases next_items feed with ⟨hnone, hnone', -⟩ | ⟨run, -, -, -, hruns⟩
    · rw [hnone, hnone']
      simp [Item.runs]
    · rw [hruns, List.drop_succ_cons]

/-- Reads give the lines of the runs that they take. -/
lemma lines_items (n : ℕ) (feed : Feed) :
    feed.lines n =
      ((Item.runs feed.items).take n).flatMap fun run => givenLine (Item.outcome run) := by
  induction n generalizing feed with
  | zero => rfl
  | succ n ih =>
    rw [lines, ih]
    rcases next_items feed with ⟨hnone, hnone', hresult⟩ | ⟨run, -, -, hresult, hruns⟩
    · rw [hnone, hnone', hresult]
      simp [Item.runs, givenLine]
    · rw [hruns, List.take_succ_cons, List.flatMap_cons, hresult]

end Feed

/-- What a read does: from the items before it, it takes a run and leaves those after it, and the
run decides its result.  A line is that of exactly the bytes of the run, with a newline at their end
at most; a failure stands at the end of the run, and the bytes before it are none of a line that was
complete; and an end takes one report of it, or nothing because there is nothing left. -/
structure Item.Takes (before run after : List Item) (given : ReadResult) : Prop where
  items : before = run ++ after
  decided : given = outcome run
  line : ∀ line, given = .ok (.line line) →
    line = Line.fit (Utf8.decodeLossy (bytes run)) ∧ Feed.newline ∉ (bytes run).dropLast ∧
      (run = (bytes run).map .byte ∨ run = (bytes run).map .byte ++ [.pause])
  error : ∀ e, given = .error e →
    ∃ body : List UInt8, Feed.newline ∉ body ∧ run = body.map .byte ++ [.failure e]
  ended : given = .ok .ended → run = [.pause] ∨ run = [] ∧ before = []

/-- A read after some reads takes the run that comes next, or nothing after the last run. -/
lemma Feed.takes_next (n : ℕ) (feed : Feed) :
    Item.Takes (feed.after n).items ((Item.runs feed.items)[n]?.getD [])
      (feed.after n).next.2.items (feed.after n).next.1 := by
  have hruns := runs_after n feed
  have hhead : (Item.runs (feed.after n).items).head? = (Item.runs feed.items)[n]? := by
    rw [hruns, List.head?_drop]
  rcases next_items (feed.after n) with ⟨hnone, hnone', hresult⟩ | ⟨run, hrun, hne, hresult, hcons⟩
  · -- All runs have been taken, so this read takes none and finds the end.
    have hnothing : (Item.runs feed.items)[n]? = none := by
      rw [← hhead, hnone]
      rfl
    rw [hnothing, hnone, hnone', hresult]
    exact ⟨rfl, rfl, nofun, nofun, fun _ => Or.inr ⟨rfl, rfl⟩⟩
  · have hsome : (Item.runs feed.items)[n]? = some run := by
      rw [← hhead, hcons]
      rfl
    have hitems : (feed.after n).items = run ++ (feed.after n).next.2.items := by
      have hflatten := congrArg List.flatten hcons
      rwa [List.flatten_cons, Item.runs, Item.runs, List.flatten_splitBy,
        List.flatten_splitBy] at hflatten
    rw [hsome, hresult]
    refine ⟨hitems, rfl, fun _ => hrun.of_line, fun _ => hrun.of_error, fun hended => ?_⟩
    exact Or.inl ((hrun.of_ended hended).resolve_left hne)

/-- The runs that were taken and the items that are left are all items. -/
lemma Feed.taken_append (n : ℕ) (feed : Feed) :
    ((Item.runs feed.items).take n).flatten ++ (feed.after n).items = feed.items := by
  have hafter : (feed.after n).items = ((Item.runs feed.items).drop n).flatten := by
    rw [← runs_after, Item.runs, List.flatten_splitBy]
  rw [hafter, ← List.flatten_append, List.take_append_drop, Item.runs, List.flatten_splitBy]

/-! ## Faults -/

namespace Item

/-- The lines of a run are that of its read, if there is one. -/
lemma IsRun.lines_eq {run : List Item} (h : IsRun run) :
    lines run = Feed.givenLine (outcome run) := by
  by_cases hne : run = []
  · rw [hne]
    rfl
  · rw [lines, h.runs_eq hne, List.flatMap_singleton]

/-- Where a line is interrupted by an item at which a read stops, the lines are those before it, the
one that the read gives there, and those after it. -/
lemma lines_interrupted {before : List Item} (hbefore : ∀ item ∈ before.getLast?, item.stops)
    {body : List UInt8} (hbody : Feed.newline ∉ body) {stop : Item} (hstop : stop.stops)
    (rest : List Item) :
    lines (before ++ body.map .byte ++ stop :: rest) =
      lines before ++ Feed.givenLine (outcome (body.map .byte ++ [stop])) ++ lines rest := by
  have hsplit : before ++ body.map .byte ++ stop :: rest =
      before ++ ((body.map .byte ++ [stop]) ++ rest) := by simp
  have hends : ∀ item ∈ (body.map Item.byte ++ [stop]).getLast?, item.stops := by
    rw [List.getLast?_concat]
    rintro _ ⟨⟩
    exact hstop
  have hrun : IsRun (body.map .byte ++ [stop]) := .whole body stop hbody hstop
  rw [hsplit, lines_append hbefore, lines_append hends, hrun.lines_eq, List.append_assoc]

end Item

/-- **Input is conserved, whatever faults it has.**  Each read takes a run of the items that the
reads before it have left, and its result is decided by that run (`Item.Takes`).  So the bytes that
were taken are the first ones of the input, and all of them once a read has taken nothing.

A session records the lines of the runs that its steps have read, in order, and nothing else.  Where
the input reports an end for the moment, what stands before it on its line and what comes after it
are lines apart; where it fails, what stands before the failure on its line is lost; and all other
lines are there as they would be without it. -/
theorem plain_conserves (feed : Feed) :
    let runs := Item.runs feed.items
    (∀ (prompts : List Text) (prompt : Text),
        let before := LineSource.plain.after prompts feed
        let read := LineSource.plain.next prompt before
        let taken := (runs.take prompts.length).flatten
        let run := runs[prompts.length]?.getD []
        taken ++ before.items = feed.items ∧
          Item.Takes before.items run read.source.items read.result ∧
          Item.bytes taken <+: feed.bytes ∧ (run = [] → Item.bytes taken = feed.bytes)) ∧
      (∀ (σ : Type) (host : Host σ) (settings : Settings) (s : Shell σ Feed) (n : ℕ),
        s.Unlimited → s.source = feed →
        let o := keepStepping host settings .plain n s
        o.shell.source.items = (runs.drop n).flatten ∧
          o.shell.session.history.lines = s.session.history.lines ++
            (runs.take n).flatMap (fun run => Feed.givenLine (Item.outcome run)) ∧
          (runs.length ≤ n →
            o.shell.session.history.lines = s.session.history.lines ++ Item.lines feed.items)) ∧
      ∀ (before rest : List Item) (body : List UInt8),
        (∀ item ∈ before.getLast?, item.stops) → Feed.newline ∉ body →
          Item.lines (before ++ body.map .byte ++ rest) =
              Item.lines before ++ Item.lines (body.map .byte ++ rest) ∧
            Item.lines (before ++ body.map .byte ++ .pause :: rest) =
              Item.lines before ++ Item.lines (body.map .byte) ++ Item.lines rest ∧
            ∀ e, Item.lines (before ++ body.map .byte ++ .failure e :: rest) =
              Item.lines before ++ Item.lines rest := by
  intro runs
  refine ⟨?_, ?_, ?_⟩
  · intro prompts prompt before read taken run
    have hbefore : before = feed.after prompts.length := LineSource.after_plain prompts feed
    have htaken : taken ++ before.items = feed.items := hbefore ▸ feed.taken_append prompts.length
    have htakes : Item.Takes before.items run before.next.2.items before.next.1 :=
      hbefore ▸ feed.takes_next prompts.length
    have hbytes : Item.bytes taken ++ Item.bytes before.items = feed.bytes := by
      rw [← Item.bytes_append, htaken, Feed.bytes_items]
    refine ⟨htaken, htakes, ⟨_, hbytes⟩, fun hrun => ?_⟩
    have hended : before.next.1 = .ok .ended := by
      rw [htakes.decided, hrun]
      rfl
    have hnone : before.items = [] := by
      rcases htakes.ended hended with hpause | ⟨-, hnone⟩
      · rw [hrun] at hpause
        cases hpause
      · exact hnone
    rwa [hnone, Item.bytes_nil, List.append_nil] at hbytes
  · intro σ host settings s n hs hsource o
    obtain ⟨hafter, hlines⟩ := keepStepping_reads host settings n hs
    rw [hsource] at hafter hlines
    rw [Feed.lines_items] at hlines
    refine ⟨?_, hlines, fun hall => ?_⟩
    · calc
        o.shell.source.items = (feed.after n).items := congrArg Feed.items hafter
        _ = (Item.runs (feed.after n).items).flatten := (List.flatten_splitBy _ _).symm
        _ = (runs.drop n).flatten := by rw [Feed.runs_after]
    · rw [List.take_of_length_le hall] at hlines
      exact hlines
  · intro before rest body hbefore hbody
    refine ⟨?_, ?_, fun e => ?_⟩
    · rw [List.append_assoc, Item.lines_append hbefore]
    · rw [Item.lines_interrupted hbefore hbody rfl, Item.outcome_whole,
        (Item.IsRun.part body hbody).lines_eq, Item.outcome_part]
    · have hlost : Feed.givenLine (Item.outcome (body.map .byte ++ [.failure e])) = [] := by
        rw [Item.outcome_whole]
        rfl
      rw [Item.lines_interrupted hbefore hbody rfl, hlost, List.append_nil]

/-- A line that a failure interrupts is lost up to there, one that an end interrupts is read in two
parts, and the line before them is as it was. -/
theorem plain_conserves_interrupted :
    let before : List Item := (Utf8.encode "ls\n".toList).map .byte
    let feed : Feed :=
      [.chunk (Utf8.encode "ls\nab".toList), .failure ⟨"broken".toList⟩,
        .chunk (Utf8.encode "cd".toList), .pause, .chunk (Utf8.encode "e\n".toList)]
    let s : Shell Unit Feed :=
      { session := Session.start Settings.standard History.empty none, host := (), source := feed,
        out := none, err := none }
    s.Unlimited ∧ (Item.runs feed.items).length ≤ 5 ∧
      (keepStepping Host.idle Settings.standard .plain 5 s).shell.session.history.lines =
        ["ls\n".toList, "cd".toList, "e\n".toList] ∧
      (∀ item ∈ before.getLast?, item.stops) ∧ Feed.newline ∉ Utf8.encode "cd".toList ∧
      Item.lines (before ++ (Utf8.encode "cd".toList).map .byte ++ [.pause]) =
        Item.lines before ++ ["cd".toList] := by
  intro before feed s
  obtain ⟨-, hsession, hfaults⟩ := plain_conserves feed
  have hs : s.Unlimited := ⟨rfl, rfl⟩
  have hall : (Item.runs feed.items).length ≤ 5 := by decide +kernel
  obtain ⟨-, -, hlines⟩ := hsession Unit Host.idle Settings.standard s 5 hs rfl
  have hbefore : ∀ item ∈ before.getLast?, item.stops := by decide +kernel
  have hbody : Feed.newline ∉ Utf8.encode "cd".toList := by decide +kernel
  obtain ⟨-, hpause, -⟩ := hfaults before [] _ hbefore hbody
  exact ⟨hs, hall, (hlines hall).trans (by decide +kernel), hbefore, hbody,
    hpause.trans (by decide +kernel)⟩

end LineShell
