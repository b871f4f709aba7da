import LineShell.Proofs.Characters
import LineShell.Proofs.Cutting
import LineShell.Proofs.Sources

/-!
# One line for each segment

Input that is bytes and nothing else is read in segments, however it is cut into chunks, and then it
has ended for good: `Feed.results_chunks` gives the results of any number of reads.  A line is the
text of its segment alone, since decoding does not reach across a newline
(`Utf8.decodeLossy_flatten`).  So no bytes are lost on the way but by lines that are cut, and those
lose their own only.

The main statement is `plain_results_chunks`.
-/

namespace LineShell

namespace Feed

/-! ## The shape of segments -/

/-- A segment has something in it, and no newline before its end. -/
lemma segment_shape {bytes segment : List UInt8} (h : segment ∈ segments bytes) :
    segment ≠ [] ∧ newline ∉ segment.dropLast := by
  induction bytes generalizing segment with
  | nil => cases h
  | cons b bs ih =>
    unfold segments at h
    by_cases hb : b = newline
    · rw [if_pos hb] at h
      rcases List.mem_cons.mp h with rfl | h
      · exact ⟨List.cons_ne_nil b [], List.not_mem_nil⟩
      · exact ih h
    · rw [if_neg hb] at h
      cases hsegments : segments bs with
      | nil =>
        rw [hsegments] at h
        obtain rfl := List.mem_singleton.mp h
        exact ⟨List.cons_ne_nil b [], List.not_mem_nil⟩
      | cons first rest =>
        rw [hsegments] at h ih
        rcases List.mem_cons.mp h with rfl | h
        · obtain ⟨hfirst, hnewline⟩ := ih List.mem_cons_self
          refine ⟨List.cons_ne_nil b first, ?_⟩
          rw [List.dropLast_cons_of_ne_nil hfirst]
          exact List.not_mem_cons_of_ne_of_not_mem (Ne.symm hb) hnewline
        · exact ih (List.mem_cons_of_mem first h)

/-- Every segment but the last one ends with a newline. -/
lemma segment_ends {bytes segment : List UInt8} (h : segment ∈ (segments bytes).dropLast) :
    segment.getLast? = some newline := by
  induction bytes generalizing segment with
  | nil => cases h
  | cons b bs ih =>
    unfold segments at h
    cases hsegments : segments bs with
    | nil =>
      rw [hsegments] at h
      split_ifs at h <;> cases h
    | cons first rest =>
      rw [hsegments] at h ih
      by_cases hb : b = newline
      · rw [if_pos hb, List.dropLast_cons_of_ne_nil (List.cons_ne_nil first rest)] at h
        rcases List.mem_cons.mp h with rfl | h
        · rw [hb]
          rfl
        · exact ih h
      · rw [if_neg hb] at h
        cases rest with
        | nil => cases h
        | cons second rest =>
          rw [List.dropLast_cons_of_ne_nil (List.cons_ne_nil second rest)] at h ih
          rcases List.mem_cons.mp h with rfl | h
          · have hfirst := ih List.mem_cons_self
            rw [List.getLast?_cons, hfirst]
            rfl
          · exact ih (List.mem_cons_of_mem first h)

/-! ## The results of reads -/

/-- **Reads give one line for each segment and then the end**, however the bytes are cut into
chunks. -/
theorem results_chunks (n : ℕ) (chunks : List (List UInt8)) :
    results n (chunks.map .chunk) =
      ((segments chunks.flatten).map fun segment => .ok (.line (Line.ofBytes segment))).take n ++
        List.replicate (n - (segments chunks.flatten).length) (.ok .ended) := by
  induction n generalizing chunks with
  | zero => rw [Nat.zero_sub, List.take_zero, results, List.replicate_zero, List.append_nil]
  | succ n ih =>
    obtain ⟨chunks', hnext, hrest⟩ := next_chunks chunks
    rw [results, hnext, ih, hrest]
    by_cases hbytes : chunks.flatten = []
    · simp [hbytes, cutSegment, cutAfterNewline?, segments, Read.ofBytes, List.replicate_succ]
    · have hfirst : (cutSegment chunks.flatten).1 ≠ [] := mt cutSegment_fst_eq_nil_iff.mp hbytes
      obtain ⟨b, bs, hcons⟩ := List.exists_cons_of_ne_nil hfirst
      rw [segments_eq_cons hbytes, List.map_cons, List.take_succ_cons, List.length_cons,
        Nat.succ_sub_succ, hcons]
      rfl

/-- One by one, the results of reads are the lines of the segments, as long as there are any, and
then the end. -/
lemma getElem?_results_chunks (n k : ℕ) (chunks : List (List UInt8)) :
    (results n (chunks.map .chunk))[k]? =
      if k < n then
        some (.ok (((segments chunks.flatten)[k]?.map fun segment =>
          Read.line (Line.ofBytes segment)).getD .ended))
      else none := by
  rw [results_chunks]
  by_cases hk : k < n
  · rw [if_pos hk]
    by_cases hsegment : k < (segments chunks.flatten).length
    · rw [List.getElem?_append_left (by simp; omega), List.getElem?_take_of_lt hk,
        List.getElem?_map, List.getElem?_eq_getElem hsegment]
      rfl
    · have hnone : (segments chunks.flatten)[k]? = none :=
        List.getElem?_eq_none (Nat.le_of_not_lt hsegment)
      rw [List.getElem?_append_right (by simp; omega), List.getElem?_replicate, hnone]
      simp
      omega
  · rw [if_neg hk]
    refine List.getElem?_eq_none ?_
    simp
    omega

end Feed

/-! ## Decoding segments -/

/-- Segments are decoded one by one. -/
lemma Utf8.decodeLossy_flatten {segments : List (List UInt8)}
    (h : ∀ segment ∈ segments.dropLast, segment.getLast? = some Feed.newline) :
    decodeLossy segments.flatten = segments.flatMap decodeLossy := by
  induction segments with
  | nil => rfl
  | cons first rest ih =>
    rw [List.flatten_cons, List.flatMap_cons]
    by_cases hrest : rest = []
    · rw [hrest, List.flatten_nil, List.flatMap_nil, List.append_nil, List.append_nil]
    · rw [List.dropLast_cons_of_ne_nil hrest] at h
      obtain ⟨body, rfl⟩ := List.getLast?_eq_some_iff.mp (h first List.mem_cons_self)
      have hbody : decodeLossy (body ++ [Feed.newline]) = decodeLossy body ++ ['\n'] :=
        decodeLossy_append_newline body []
      have hall : decodeLossy (body ++ Feed.newline :: rest.flatten) =
          decodeLossy body ++ '\n' :: decodeLossy rest.flatten :=
        decodeLossy_append_newline body rest.flatten
      rw [List.append_assoc, List.singleton_append, hall, hbody,
        ih fun segment hsegment => h segment (List.mem_cons_of_mem _ hsegment), List.append_assoc,
        List.singleton_append]

/-- **Reading does not depend on how the input is cut, and loses nothing.**  Over input that is
bytes and nothing else, any number of reads from the plain source give the line of each segment of
all the bytes, in order, and then the end: the segments are what the bytes fall into after each
newline, and a line is what decoding makes of its segment alone, fitted to the buffer.  So the same
bytes in other chunks give the same results, and a result depends on no segment but its own.

If no line needs to be cut, the lines together are what decoding makes of all the bytes, and the
text itself if the bytes are those of a text. -/
theorem plain_results_chunks (prompts : List Text) (chunks : List (List UInt8)) :
    let segments := Feed.segments chunks.flatten
    let results := LineSource.plain.results prompts (chunks.map .chunk)
    (segments.flatten = chunks.flatten ∧
        (∀ segment ∈ segments, segment ≠ [] ∧ Feed.newline ∉ segment.dropLast) ∧
        ∀ segment ∈ segments.dropLast, segment.getLast? = some Feed.newline) ∧
      results =
        (segments.map fun segment =>
            .ok (.line (Line.fit (Utf8.decodeLossy segment)))).take prompts.length ++
          List.replicate (prompts.length - segments.length) (.ok .ended) ∧
      (∀ segment ∈ segments, Utf8.Decodes segment (Utf8.decodeLossy segment)) ∧
      (∀ chunks' : List (List UInt8), chunks'.flatten = chunks.flatten →
        LineSource.plain.results prompts (chunks'.map .chunk) = results) ∧
      (∀ (chunks' : List (List UInt8)) (k : ℕ),
        (Feed.segments chunks'.flatten)[k]? = segments[k]? →
          (LineSource.plain.results prompts (chunks'.map .chunk))[k]? = results[k]?) ∧
      ((∀ segment ∈ segments, Utf8.size (Utf8.decodeLossy segment) < Line.capacity) →
        segments.length ≤ prompts.length →
          (results.flatMap Feed.givenLine).flatten = Utf8.decodeLossy chunks.flatten ∧
          ∀ text, Utf8.encode text = chunks.flatten →
            (results.flatMap Feed.givenLine).flatten = text) := by
  intro segments results
  have hresults : results = Feed.results prompts.length (chunks.map .chunk) :=
    LineSource.results_plain prompts _
  refine ⟨⟨Feed.flatten_segments _, fun _ => Feed.segment_shape, fun _ => Feed.segment_ends⟩,
    ?_, ?_, ?_, ?_, ?_⟩
  · exact hresults.trans (Feed.results_chunks _ chunks)
  · exact fun segment _ => (Utf8.decodes_iff_decodeLossy_eq _ _).mpr rfl
  · intro chunks' hchunks
    rw [hresults, LineSource.results_plain, Feed.results_chunks, Feed.results_chunks, hchunks]
  · intro chunks' k hsegment
    rw [hresults, LineSource.results_plain, Feed.getElem?_results_chunks,
      Feed.getElem?_results_chunks, hsegment]
  · intro hshort hall
    have hlines : (results.flatMap Feed.givenLine).flatten =
        Utf8.decodeLossy chunks.flatten := by
      calc
        (results.flatMap Feed.givenLine).flatten = (segments.map Line.ofBytes).flatten := by
          rw [hresults, ← Feed.lines_eq_flatMap_results, (Feed.lines_chunks _ chunks).1,
            List.take_of_length_le hall]
        _ = segments.flatMap Utf8.decodeLossy := by
          rw [← List.flatMap_def]
          exact List.flatMap_congr fun segment h => Line.fit_of_size_lt (hshort segment h)
        _ = Utf8.decodeLossy segments.flatten :=
          (Utf8.decodeLossy_flatten fun _ => Feed.segment_ends).symm
        _ = Utf8.decodeLossy chunks.flatten := by rw [Feed.flatten_segments]
    refine ⟨hlines, ?_⟩
    intro text htext
    rw [hlines, ← htext, Utf8.decodeLossy_encode]

/-- A character that is cut by a chunk, an ill-formed piece before a newline, and a last line
without one.  Other chunks give the same lines, and the second line is the same among other bytes.
All lines are short, so together they are the decoding of all bytes, and they are a text again whose
bytes these are. -/
theorem plain_results_chunks_in_pieces :
    let chunks : List (List UInt8) := [[0x61, 0xC3], [], [0xA9, 0x0A, 0xE2], [0x82, 0x0A, 0x78]]
    let otherwise : List (List UInt8) := [[0x61, 0xC3, 0xA9, 0x0A, 0xE2, 0x82], [0x0A, 0x78]]
    let elsewhere : List (List UInt8) := [[0xFF, 0x0A], [0xE2, 0x82, 0x0A]]
    let ofText : List (List UInt8) := [[0xC3], [0xA9, 0x0A, 0x62]]
    let prompts : List Text := [[], [], [], [], []]
    let results := LineSource.plain.results prompts (chunks.map .chunk)
    results =
        [.ok (.line "aé\n".toList), .ok (.line "\uFFFD\n".toList), .ok (.line "x".toList),
          .ok .ended, .ok .ended] ∧
      LineSource.plain.results prompts (otherwise.map .chunk) = results ∧
      (LineSource.plain.results prompts (elsewhere.map .chunk))[1]? = results[1]? ∧
      (results.flatMap Feed.givenLine).flatten = "aé\n\uFFFD\nx".toList ∧
      ((LineSource.plain.results prompts (ofText.map .chunk)).flatMap Feed.givenLine).flatten =
        "é\nb".toList := by
  intro chunks otherwise elsewhere ofText prompts results
  obtain ⟨-, hresults, -, hchunks, hlocal, hlines⟩ := plain_results_chunks prompts chunks
  obtain ⟨-, -, -, -, -, htext⟩ := plain_results_chunks prompts ofText
  refine ⟨hresults.trans (by decide +kernel), hchunks otherwise (by decide),
    hlocal elsewhere 1 (by decide), ?_, ?_⟩
  · obtain ⟨hall, -⟩ := hlines (by decide +kernel) (by decide)
    exact hall.trans (by decide +kernel)
  · obtain ⟨-, hsame⟩ := htext (by decide +kernel) (by decide)
    exact hsame "é\nb".toList (by decide +kernel)

end LineShell
