import LineShell.Proofs.Action

/-!
# Reading lines from buffered input

What a number of reads make of buffered input does not depend on anything else that the shell does.
`Feed.next` is one read, and `Feed.after` and `Feed.lines` are the input left by a number of reads
and the lines that they give.

If the input is bytes and nothing else, the lines are those of its *segments*, the parts that end
with a newline and what follows the last newline, however the bytes are cut into chunks
(`Feed.lines_chunks`).  Whatever the input is, it ends: a read gets to the next of its stops, a
newline or an interruption, or to the end if there is none (`Feed.after_eq_nil`).
-/

namespace LineShell

variable {σ : Type}

namespace Feed

/-- The result of the next read, and the input that it leaves. -/
def next (feed : Feed) : ReadResult × Feed :=
  (feed.take.1.map Read.ofBytes, feed.take.2)

/-- The input that is left after a number of reads. -/
def after : ℕ → Feed → Feed
  | 0, feed => feed
  | n + 1, feed => after n feed.next.2

/-- The results of a number of reads, in order. -/
def results : ℕ → Feed → List ReadResult
  | 0, _ => []
  | n + 1, feed => feed.next.1 :: results n feed.next.2

/-- The line that a read gives, if it gives one. -/
def givenLine : ReadResult → List Text
  | .ok (.line line) => [line]
  | _ => []

/-- The lines that a number of reads give, in order. -/
def lines : ℕ → Feed → List Text
  | 0, _ => []
  | n + 1, feed => givenLine feed.next.1 ++ lines n feed.next.2

/-- A read gives a line or none. -/
lemma givenLine_cases (result : ReadResult) :
    givenLine result = [] ∨
      ∃ line, result = .ok (.line line) ∧ givenLine result = [line] := by
  rcases result with e | line | _
  · exact Or.inl rfl
  · exact Or.inr ⟨line, rfl, rfl⟩
  · exact Or.inl rfl

/-- The lines that reads give are those among their results. -/
lemma lines_eq_flatMap_results (n : ℕ) (feed : Feed) :
    feed.lines n = (feed.results n).flatMap givenLine := by
  induction n generalizing feed with
  | zero => rfl
  | succ n ih => rw [lines, results, List.flatMap_cons, ih]

/-- The reads after some reads are the later ones. -/
lemma after_add (m n : ℕ) (feed : Feed) : after (m + n) feed = after n (after m feed) := by
  induction m generalizing feed with
  | zero => rw [Nat.zero_add, after]
  | succ m ih => rw [Nat.succ_add, after, after, ih]

/-! ## Segments -/

/-- The segments of some bytes: the parts that end with a newline, and what follows the last
newline if anything does. -/
def segments : List UInt8 → List (List UInt8)
  | [] => []
  | b :: bs =>
    if b = newline then [b] :: segments bs
    else
      match segments bs with
      | [] => [[b]]
      | segment :: rest => (b :: segment) :: rest

/-- The segments of some bytes make up the bytes. -/
lemma flatten_segments (bytes : List UInt8) : (segments bytes).flatten = bytes := by
  induction bytes with
  | nil => rfl
  | cons b bs ih =>
    unfold segments
    split
    · rw [List.flatten_cons, ih, List.singleton_append]
    · cases hsegments : segments bs with
      | nil =>
        rw [hsegments] at ih
        simp only [List.flatten_nil] at ih
        simp [← ih]
      | cons segment rest =>
        rw [hsegments] at ih
        simp [← ih]

/-- The first segment and the bytes after it. -/
def cutSegment (bytes : List UInt8) : List UInt8 × List UInt8 :=
  (cutAfterNewline? bytes).getD (bytes, [])

/-- Bytes are their first segment and the segments of what follows it. -/
lemma segments_eq_cons {bytes : List UInt8} (h : bytes ≠ []) :
    segments bytes = (cutSegment bytes).1 :: segments (cutSegment bytes).2 := by
  induction bytes with
  | nil => exact absurd rfl h
  | cons b bs ih =>
    by_cases hb : b = newline
    · simp [hb, segments, cutSegment, cutAfterNewline?]
    · cases bs with
      | nil => simp [hb, segments, cutSegment, cutAfterNewline?]
      | cons c cs =>
        have hcut : cutSegment (b :: c :: cs) =
            (b :: (cutSegment (c :: cs)).1, (cutSegment (c :: cs)).2) := by
          unfold cutSegment
          rw [cutAfterNewline?, if_neg hb]
          cases cutAfterNewline? (c :: cs) <;> rfl
        rw [segments, if_neg hb, ih (List.cons_ne_nil c cs), hcut]

/-- A first segment is empty only if there are no bytes. -/
lemma cutSegment_fst_eq_nil_iff {bytes : List UInt8} : (cutSegment bytes).1 = [] ↔ bytes = [] := by
  cases bytes with
  | nil => simp [cutSegment, cutAfterNewline?]
  | cons b bs =>
    rw [cutSegment, cutAfterNewline?]
    by_cases hb : b = newline
    · simp [hb]
    · rw [if_neg hb]
      cases cutAfterNewline? bs <;> simp

/-- The first newline after some bytes is the first one in them, or else the first one after
them. -/
lemma cutAfterNewline?_append (as bs : List UInt8) :
    cutAfterNewline? (as ++ bs) =
      match cutAfterNewline? as with
      | some cut => some (cut.1, cut.2 ++ bs)
      | none => (cutAfterNewline? bs).map fun cut => (as ++ cut.1, cut.2) := by
  induction as with
  | nil => simp [cutAfterNewline?]
  | cons a as ih =>
    rw [List.cons_append, cutAfterNewline?, cutAfterNewline?]
    by_cases ha : a = newline
    · simp [ha]
    · simp only [if_neg ha, ih]
      cases cutAfterNewline? as with
      | some cut => rfl
      | none => cases cutAfterNewline? bs <;> rfl

/-- All bytes of chunks are those of the chunks in order. -/
lemma bytes_chunks (chunks : List (List UInt8)) :
    bytes (chunks.map .chunk) = chunks.flatten := by
  unfold bytes
  rw [List.flatMap_map]
  exact List.flatMap_id'

/-- Over chunks, a read takes the first segment of all their bytes, across chunks, and leaves chunks
of the bytes after it. -/
lemma takeFrom_chunks (held : List UInt8) (chunks : List (List UInt8)) :
    ∃ chunks' : List (List UInt8), takeFrom held (chunks.map .chunk) =
        (.ok (held ++ (cutSegment chunks.flatten).1), chunks'.map .chunk) ∧
      chunks'.flatten = (cutSegment chunks.flatten).2 := by
  induction chunks generalizing held with
  | nil => exact ⟨[], by simp [takeFrom, cutSegment, cutAfterNewline?], rfl⟩
  | cons chunk chunks ih =>
    unfold cutSegment
    rw [List.map_cons, takeFrom, List.flatten_cons, cutAfterNewline?_append]
    cases cutAfterNewline? chunk with
    | some cut => exact ⟨cut.2 :: chunks, by simp, by simp⟩
    | none =>
      obtain ⟨chunks', htake, hflatten⟩ := ih (held ++ chunk)
      refine ⟨chunks', ?_, ?_⟩
      · simp only [htake, cutSegment]
        cases cutAfterNewline? chunks.flatten <;> simp
      · rw [hflatten, cutSegment]
        cases cutAfterNewline? chunks.flatten <;> rfl

/-- A read over chunks gives the line of the first segment, or the end of the input. -/
lemma next_chunks (chunks : List (List UInt8)) :
    ∃ chunks' : List (List UInt8), next (chunks.map .chunk) =
        (.ok (Read.ofBytes (cutSegment chunks.flatten).1), chunks'.map .chunk) ∧
      chunks'.flatten = (cutSegment chunks.flatten).2 := by
  obtain ⟨chunks', htake, hflatten⟩ := takeFrom_chunks [] chunks
  refine ⟨chunks', ?_, hflatten⟩
  unfold next take
  rw [htake]
  rfl

/-- **The lines read are the segments of the input**, however it is cut into chunks: a number of
reads give the lines of that many segments, and leave chunks of the bytes of the others. -/
theorem lines_chunks (n : ℕ) (chunks : List (List UInt8)) :
    lines n (chunks.map .chunk) = ((segments chunks.flatten).take n).map Line.ofBytes ∧
      ∃ chunks' : List (List UInt8), after n (chunks.map .chunk) = chunks'.map .chunk ∧
        chunks'.flatten = ((segments chunks.flatten).drop n).flatten := by
  induction n generalizing chunks with
  | zero => exact ⟨rfl, chunks, rfl, (flatten_segments _).symm⟩
  | succ n ih =>
    obtain ⟨chunks', hnext, hrest⟩ := next_chunks chunks
    obtain ⟨hlines, chunks'', hafter, hflatten⟩ := ih chunks'
    rw [hrest] at hlines hflatten
    unfold lines after
    rw [hnext]
    refine ⟨?_, chunks'', hafter, ?_⟩
    · rw [hlines]
      by_cases hbytes : chunks.flatten = []
      · simp [hbytes, cutSegment, cutAfterNewline?, segments, Read.ofBytes, givenLine]
      · rw [segments_eq_cons hbytes]
        have hfirst : (cutSegment chunks.flatten).1 ≠ [] :=
          fun h => hbytes (cutSegment_fst_eq_nil_iff.mp h)
        obtain ⟨b, bs, hcons⟩ := List.exists_cons_of_ne_nil hfirst
        simp [hcons, Read.ofBytes, givenLine]
    · rw [hflatten]
      by_cases hbytes : chunks.flatten = []
      · simp [hbytes, cutSegment, cutAfterNewline?, segments]
      · rw [segments_eq_cons hbytes, List.drop_succ_cons]

/-! ## How long input lasts -/

/-- A first segment that is cut off ends with the first newline of the bytes. -/
lemma cutAfterNewline?_eq_some {bytes : List UInt8} {cut : List UInt8 × List UInt8}
    (h : cutAfterNewline? bytes = some cut) :
    ∃ body, newline ∉ body ∧ cut.1 = body ++ [newline] ∧ bytes = cut.1 ++ cut.2 := by
  induction bytes generalizing cut with
  | nil => cases h
  | cons b bs ih =>
    rw [cutAfterNewline?] at h
    by_cases hb : b = newline
    · rw [if_pos hb] at h
      rw [← Option.some.inj h, hb]
      exact ⟨[], List.not_mem_nil, rfl, rfl⟩
    · rw [if_neg hb] at h
      obtain ⟨cut', hcut', rfl⟩ := Option.map_eq_some_iff.mp h
      obtain ⟨body, hbody, hline, hbytes⟩ := ih hcut'
      refine ⟨b :: body, ?_, ?_, ?_⟩
      · exact List.not_mem_cons_of_ne_of_not_mem (Ne.symm hb) hbody
      · rw [hline, List.cons_append]
      · rw [List.cons_append, ← hbytes]

/-- Nothing is cut off bytes without a newline. -/
lemma cutAfterNewline?_eq_none {bytes : List UInt8} (h : cutAfterNewline? bytes = none) :
    newline ∉ bytes := by
  induction bytes with
  | nil => exact List.not_mem_nil
  | cons b bs ih =>
    rw [cutAfterNewline?] at h
    by_cases hb : b = newline
    · rw [if_pos hb] at h
      cases h
    · rw [if_neg hb, Option.map_eq_none_iff] at h
      exact List.not_mem_cons_of_ne_of_not_mem (Ne.symm hb) (ih h)

/-- Some bytes end with a newline, if there are any. -/
def Terminated (bytes : List UInt8) : Prop :=
  ∀ b ∈ bytes.getLast?, b = newline

instance (bytes : List UInt8) : Decidable (Terminated bytes) :=
  inferInstanceAs (Decidable (∀ b ∈ bytes.getLast?, b = newline))

/-- The first segment of bytes that end with a newline is the same if more bytes follow, and what
comes after it ends with a newline again. -/
lemma Terminated.cutSegment_append {bytes : List UInt8} (h : Terminated bytes) (hne : bytes ≠ [])
    (further : List UInt8) :
    cutSegment (bytes ++ further) = ((cutSegment bytes).1, (cutSegment bytes).2 ++ further) ∧
      Terminated (cutSegment bytes).2 := by
  have hlast : newline ∈ bytes := by
    rw [← h _ (List.getLast?_eq_getLast_of_ne_nil hne)]
    exact List.getLast_mem hne
  obtain ⟨cut, hcut⟩ : ∃ cut, cutAfterNewline? bytes = some cut :=
    Option.ne_none_iff_exists'.mp fun hnone => cutAfterNewline?_eq_none hnone hlast
  obtain ⟨body, -, -, hbytes⟩ := cutAfterNewline?_eq_some hcut
  unfold cutSegment
  rw [cutAfterNewline?_append, hcut]
  refine ⟨rfl, fun b hb => h b ?_⟩
  rw [hbytes]
  exact List.mem_getLast?_append_of_mem_getLast? hb

/-- The number of times that the input makes a read stop before the end: once for each newline and
each interruption. -/
def stops (feed : Feed) : ℕ :=
  feed.bytes.count newline + feed.interruptions

/-- A read gets to the next stop of the input, or to its end if there is no stop. -/
lemma stops_takeFrom (held : List UInt8) (feed : Feed) :
    (takeFrom held feed).2.stops + 1 = feed.stops ∨
      feed.stops = 0 ∧ (takeFrom held feed).2 = [] := by
  have hcons : ∀ bytes (feed : Feed),
      stops (.chunk bytes :: feed) = bytes.count newline + feed.stops := by
    intro bytes feed
    simp [stops, Feed.bytes, interruptions, Nat.add_assoc]
  fun_induction takeFrom held feed with
  | case1 held => exact Or.inr ⟨rfl, rfl⟩
  | case2 held feed =>
    left
    simp [stops, bytes, interruptions, Nat.add_assoc]
  | case3 held e feed =>
    left
    simp [stops, bytes, interruptions, Nat.add_assoc]
  | case4 held bytes feed line rest hcut =>
    left
    obtain ⟨body, hbody, hline, hbytes⟩ := cutAfterNewline?_eq_some hcut
    have hcount : bytes.count newline = rest.count newline + 1 := by
      simp only at hline hbytes
      rw [hbytes, hline, List.count_append, List.count_append, List.count_singleton_self,
        List.count_eq_zero_of_not_mem hbody]
      omega
    rw [hcons, hcons, hcount]
    omega
  | case5 held bytes feed hcut ih =>
    rw [hcons, List.count_eq_zero_of_not_mem (cutAfterNewline?_eq_none hcut), Nat.zero_add]
    exact ih

/-- Once the input has ended for good nothing comes after it. -/
lemma after_nil (n : ℕ) : after n [] = [] := by
  induction n with
  | zero => rfl
  | succ n ih => exact ih

/-- **Input ends** after one read for each of its stops and one for the bytes after them. -/
lemma after_eq_nil {feed : Feed} {n : ℕ} (h : feed.stops < n) : feed.after n = [] := by
  induction n generalizing feed with
  | zero => exact absurd h (Nat.not_lt_zero _)
  | succ n ih =>
    rw [after]
    rcases stops_takeFrom [] feed with hstops | ⟨-, hnil⟩
    · refine ih ?_
      have hnext : stops feed.next.2 + 1 = stops feed := hstops
      omega
    · have hnext : feed.next.2 = [] := hnil
      rw [hnext, after_nil]

/-- No bytes and no interruptions are left of the input. -/
structure UsedUp (feed : Feed) : Prop where
  bytes : feed.bytes = []
  interruptions : feed.interruptions = 0

/-- A read of input that is used up finds its end. -/
lemma UsedUp.next_eq {feed : Feed} (h : feed.UsedUp) : feed.next = (.ok .ended, []) := by
  have htake : takeFrom [] feed = (.ok [], []) := by
    obtain ⟨hbytes, hinterruptions⟩ := h
    induction feed with
    | nil => rfl
    | cons piece feed ih =>
      cases piece with
      | chunk bytes =>
        obtain ⟨rfl, hrest⟩ := List.append_eq_nil_iff.mp hbytes
        exact ih hrest hinterruptions
      | _ => simp [Feed.interruptions] at hinterruptions
  unfold next take
  rw [htake]
  rfl

/-- The lines of some reads and some more are those of the former and then those of the latter. -/
lemma lines_add (feed : Feed) (n k : ℕ) :
    feed.lines (n + k) = feed.lines n ++ (feed.after n).lines k := by
  induction n generalizing feed with
  | zero =>
    rw [Nat.zero_add]
    rfl
  | succ n ih => rw [Nat.succ_add, lines, lines, after, ih, List.append_assoc]

/-- Reads of input that is used up give no lines. -/
lemma UsedUp.lines_eq {feed : Feed} (h : feed.UsedUp) (n : ℕ) : feed.lines n = [] := by
  induction n generalizing feed with
  | zero => rfl
  | succ n ih =>
    rw [lines, h.next_eq]
    exact ih ⟨rfl, rfl⟩

end Feed

namespace Action

/-- A prompt that is refused is a failed read, and the input is not looked at. -/
lemma readLine_plain_of_refused (ε : Type) {s : Shell σ Feed} {e : IoError}
    (hwrite : (s.out.offer (Utf8.encode s.session.prompt)).result = .error e) :
    (readLine LineSource.plain s : Outcome σ Feed ε ReadResult) =
      ⟨.ok (.error e), { s with out := (s.out.offer (Utf8.encode s.session.prompt)).left },
        [.wrote .out (s.out.offer (Utf8.encode s.session.prompt)).taken, .refused .out]⟩ := by
  simp only [readLine, LineSource.plain, Reading.perform, hwrite, Event.ofWrite]
  rfl

/-- A prompt that cannot be flushed is a failed read, and the input is not looked at. -/
lemma readLine_plain_of_unflushed (ε : Type) {s : Shell σ Feed} {e : IoError}
    (hwrite : (s.out.offer (Utf8.encode s.session.prompt)).result = .ok ())
    (hflush : (s.out.offer (Utf8.encode s.session.prompt)).left.flush.result = .error e) :
    (readLine LineSource.plain s : Outcome σ Feed ε ReadResult) =
      ⟨.ok (.error e),
        { s with out := (s.out.offer (Utf8.encode s.session.prompt)).left.flush.left },
        [.wrote .out (Utf8.encode s.session.prompt), .unflushed]⟩ := by
  simp only [readLine, LineSource.plain, Reading.perform, hwrite, hflush, Room.taken_offer hwrite,
    Event.ofWrite, Event.ofFlush]
  rfl

/-- After a prompt that is shown and flushed, the next line is taken from the input. -/
lemma readLine_plain_of_shown (ε : Type) {s : Shell σ Feed}
    (hwrite : (s.out.offer (Utf8.encode s.session.prompt)).result = .ok ())
    (hflush : (s.out.offer (Utf8.encode s.session.prompt)).left.flush.result = .ok ()) :
    (readLine LineSource.plain s : Outcome σ Feed ε ReadResult) =
      ⟨.ok s.source.next.1,
        { s with
          source := s.source.next.2
          out := (s.out.offer (Utf8.encode s.session.prompt)).left.flush.left },
        [.wrote .out (Utf8.encode s.session.prompt), .flushed, .consulted]⟩ := by
  simp only [readLine, LineSource.plain, Reading.perform, hwrite, hflush, Room.taken_offer hwrite,
    Event.ofWrite, Event.ofFlush]
  rfl

/-- Reading a line from the plain source shows the prompt and flushes it, and then it takes the next
line from the input; or the prompt is refused or cannot be flushed, and then the input is not looked
at. -/
lemma readLine_plain_cases (ε : Type) (s : Shell σ Feed) :
    (∃ room, s.out.Becomes room ∧
      (readLine LineSource.plain s : Outcome σ Feed ε ReadResult) =
        ⟨.ok s.source.next.1, { s with source := s.source.next.2, out := room },
          [.wrote .out (Utf8.encode s.session.prompt), .flushed, .consulted]⟩) ∨
    ∃ e room bytes last, s.out.Becomes room ∧ (last = .refused .out ∨ last = .unflushed) ∧
      (readLine LineSource.plain s : Outcome σ Feed ε ReadResult) =
        ⟨.ok (.error e), { s with out := room }, [.wrote .out bytes, last]⟩ := by
  have hleft := s.out.becomes_offer (Utf8.encode s.session.prompt)
  have hleft' := hleft.trans (Room.becomes_flush _)
  cases hwrite : (s.out.offer (Utf8.encode s.session.prompt)).result with
  | error e =>
    exact Or.inr ⟨e, _, _, _, hleft, Or.inl rfl, readLine_plain_of_refused ε hwrite⟩
  | ok _ =>
    cases hflush : (s.out.offer (Utf8.encode s.session.prompt)).left.flush.result with
    | error e =>
      exact Or.inr ⟨e, _, _, _, hleft', Or.inr rfl,
        readLine_plain_of_unflushed ε hwrite hflush⟩
    | ok _ => exact Or.inl ⟨_, hleft', readLine_plain_of_shown ε hwrite hflush⟩

/-- Where standard output fails for want of room only, a read whose prompt is refused leaves no
room. -/
lemma readLine_plain_cases_of_limited (ε : Type) {s : Shell σ Feed} (hs : s.out.Limited) :
    (∃ room, s.out.Becomes room ∧
      (readLine LineSource.plain s : Outcome σ Feed ε ReadResult) =
        ⟨.ok s.source.next.1, { s with source := s.source.next.2, out := room },
          [.wrote .out (Utf8.encode s.session.prompt), .flushed, .consulted]⟩) ∨
    ∃ bytes, (readLine LineSource.plain s : Outcome σ Feed ε ReadResult) =
      ⟨.ok (.error .refused), { s with out := some (.upTo 0) },
        [.wrote .out bytes, .refused .out]⟩ := by
  have hleft := s.out.becomes_offer (Utf8.encode s.session.prompt)
  rcases hs.offer_cases (Utf8.encode s.session.prompt) with ⟨-, hwrite⟩ | ⟨n, -, -, hanswer⟩
  · have hflush := congrArg Room.Answer.result (hleft.limited hs).flush_eq
    exact Or.inl ⟨_, hleft.trans (Room.becomes_flush _), readLine_plain_of_shown ε hwrite hflush⟩
  · refine Or.inr ⟨(Utf8.encode s.session.prompt).take n, ?_⟩
    rw [readLine_plain_of_refused ε (congrArg Room.Answer.result hanswer), hanswer]

end Action

end LineShell
