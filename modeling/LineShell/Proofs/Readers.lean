import LineShell.Proofs.Segments
import LineShell.Source.Edited

/-!
# Two readers of one input

The plain source and the source behind a line editor read the same input in different ways.  The
plain source keeps the line ending of what it takes and decodes whatever comes; the editor drops the
line ending, which is put back afterwards, and refuses what is not text.

`LineEditor.OffTerminal` says what an editor is relied on to do with input that is not typed at a
terminal, and `LineEditor.offTerminal` does it.  By the main statement `readers_in_step` the two
sources then take the same segment at each read, and they give the same line for it where the input
is text whose lines all end with a newline and none with a carriage return before it.
-/

namespace LineShell

variable {ι : Type}

/-! ## What an editor is relied on for -/

/-- The editor reads input that is not typed at a terminal, where `left` are the bytes still to
come.  It takes them segment by segment, gives the text of a segment without its line ending, fails
on a segment that is not text, and finds the end when no bytes are left.  Remembering a line never
fails, and takes nothing. -/
structure LineEditor.OffTerminal (editor : LineEditor ι) (left : ι → List UInt8) : Prop where
  ended : ∀ prompt i, left i = [] → (editor.takeLine prompt i).1 = .ok .ended
  text : ∀ prompt i text, left i ≠ [] → (Feed.cutSegment (left i)).1 = Utf8.encode text →
    (editor.takeLine prompt i).1 = .ok (.line (Line.dropEnding text))
  noText : ∀ prompt i, left i ≠ [] → (∀ text, (Feed.cutSegment (left i)).1 ≠ Utf8.encode text) →
    ∃ e, (editor.takeLine prompt i).1 = .error e
  rest : ∀ prompt i, left (editor.takeLine prompt i).2 = (Feed.cutSegment (left i)).2
  remembers : ∀ line i, (editor.remember line i).1 = .ok ()
  keeps : ∀ line i, left (editor.remember line i).2 = left i

/-- What the source behind an editor gives for a segment, or for want of one. -/
def LineEditor.Gives : Option (List UInt8) → ReadResult → Prop
  | none, result => result = .ok .ended
  | some segment, result =>
    (∀ text, segment = Utf8.encode text →
        result = .ok (.line (Line.fit (Line.dropEnding text ++ ['\n'])))) ∧
      ((∀ text, segment ≠ Utf8.encode text) → ∃ e, result = .error e)

/-- Different texts have different bytes. -/
lemma Utf8.encode_injective : Function.Injective encode := fun text text' h => by
  rw [← decodeLossy_encode text, h, decodeLossy_encode]

/-- The first segment of some bytes is what is cut off them, if there are any. -/
lemma Feed.head?_segments (bytes : List UInt8) :
    (segments bytes)[0]? = if bytes = [] then none else some (cutSegment bytes).1 := by
  split_ifs with hnil
  · rw [hnil]
    rfl
  · rw [segments_eq_cons hnil]
    rfl

/-- The later segments of some bytes are those of what is left after the first one. -/
lemma Feed.tail_segments (bytes : List UInt8) :
    (segments bytes).tail = segments (cutSegment bytes).2 := by
  by_cases hnil : bytes = []
  · rw [hnil]
    rfl
  · rw [segments_eq_cons hnil, List.tail_cons]

/-- A read from an editor takes a line, has it remembered, and ends it by a newline. -/
lemma LineSource.next_ofEditor (editor : LineEditor ι) (prompt : Text) (i : ι) :
    (ofEditor editor).next prompt i =
      match editor.takeLine prompt i with
      | (.ok (.line line), i') =>
        ⟨(editor.remember line i').1.map fun _ => .line (Line.fit (line ++ ['\n'])),
          (editor.remember line i').2, none, [.consulted]⟩
      | (result, i') => ⟨result, i', none, [.consulted]⟩ := by
  simp only [next, ofEditor]
  rcases editor.takeLine prompt i with ⟨e | line | _, i'⟩
  · rfl
  · rcases hremember : editor.remember line i' with ⟨e | _, i''⟩
    · simp only [hremember]
      rfl
    · simp only [hremember]
      rfl
  · rfl

namespace LineEditor.OffTerminal

variable {editor : LineEditor ι} {left : ι → List UInt8}

/-- A read gives what it should for the first segment, and leaves the others. -/
lemma next (h : editor.OffTerminal left) (prompt : Text) (i : ι) :
    let o := (LineSource.ofEditor editor).next prompt i
    Gives (Feed.segments (left i))[0]? o.result ∧ left o.source = (Feed.cutSegment (left i)).2 := by
  have hrest := h.rest prompt i
  rw [LineSource.next_ofEditor, Feed.head?_segments]
  by_cases hnil : left i = []
  · have hended := h.ended prompt i hnil
    rcases htake : editor.takeLine prompt i with ⟨result, i'⟩
    rw [htake] at hrest hended
    rw [if_pos hnil, show result = .ok .ended from hended]
    exact ⟨rfl, hrest⟩
  rw [if_neg hnil]
  by_cases htext : ∃ text, (Feed.cutSegment (left i)).1 = Utf8.encode text
  · obtain ⟨text, htext⟩ := htext
    have hline := h.text prompt i text hnil htext
    rcases htake : editor.takeLine prompt i with ⟨result, i'⟩
    rw [htake] at hrest hline
    rw [show result = .ok (.line (Line.dropEnding text)) from hline]
    refine ⟨⟨fun text' htext' => ?_, fun hnone => absurd htext (hnone text)⟩, ?_⟩
    · rw [← Utf8.encode_injective (htext.symm.trans htext')]
      simp only [h.remembers]
      rfl
    · exact (h.keeps _ i').trans hrest
  · obtain ⟨e, he⟩ := h.noText prompt i hnil (not_exists.mp htext)
    rcases htake : editor.takeLine prompt i with ⟨result, i'⟩
    rw [htake] at hrest he
    rw [show result = .error e from he]
    exact ⟨⟨fun text h' => absurd ⟨text, h'⟩ htext, fun _ => ⟨e, rfl⟩⟩, hrest⟩

/-- **Each read gives what it should for its segment**, and together they leave the others. -/
lemma getElem?_results (h : editor.OffTerminal left) (prompts : List Text) (i : ι) {n : ℕ}
    (hn : n < prompts.length) :
    ∃ result, ((LineSource.ofEditor editor).results prompts i)[n]? = some result ∧
      Gives (Feed.segments (left i))[n]? result := by
  induction prompts generalizing i n with
  | nil => cases hn
  | cons prompt prompts ih =>
    obtain ⟨hgives, hleft⟩ := h.next prompt i
    cases n with
    | zero => exact ⟨_, rfl, hgives⟩
    | succ n =>
      obtain ⟨result, hresult, hgives'⟩ :=
        ih ((LineSource.ofEditor editor).next prompt i).source (Nat.lt_of_succ_lt_succ hn)
      refine ⟨result, hresult, ?_⟩
      rwa [← List.getElem?_tail, Feed.tail_segments, ← hleft]

/-- Reads leave the segments after theirs. -/
lemma left_after (h : editor.OffTerminal left) (prompts : List Text) (i : ι) :
    left ((LineSource.ofEditor editor).after prompts i) =
      ((Feed.segments (left i)).drop prompts.length).flatten := by
  induction prompts generalizing i with
  | nil => exact (Feed.flatten_segments _).symm
  | cons prompt prompts ih =>
    have hleft := (h.next prompt i).2
    rw [LineSource.after, ih, hleft, List.length_cons, ← List.drop_tail, Feed.tail_segments]

end LineEditor.OffTerminal

namespace LineEditor

/-- While bytes are left, the editor on input that is not a terminal takes the first segment. -/
lemma takeLine_offTerminal (prompt : Text) {bytes : List UInt8} (hne : bytes ≠ []) :
    offTerminal.takeLine prompt bytes =
      match Utf8.decode? (Feed.cutSegment bytes).1 with
      | some text => (.ok (.line (Line.dropEnding text)), (Feed.cutSegment bytes).2)
      | none => (.error .notText, (Feed.cutSegment bytes).2) := by
  simp only [offTerminal, if_neg hne]
  rfl

/-- The editor on input that is not a terminal does what it is relied on for. -/
lemma offTerminal_offTerminal : offTerminal.OffTerminal id where
  ended prompt i hnil := by
    have hnil' : i = [] := hnil
    rw [hnil']
    rfl
  text prompt i text hne htext := by
    have hne' : i ≠ [] := hne
    have hdecode : Utf8.decode? (Feed.cutSegment i).1 = some text :=
      (Utf8.decode?_eq_some_iff _ _).mpr htext
    rw [takeLine_offTerminal prompt hne', hdecode]
  noText prompt i hne hnone := by
    have hne' : i ≠ [] := hne
    have hdecode : Utf8.decode? (Feed.cutSegment i).1 = none :=
      Option.eq_none_iff_forall_ne_some.mpr fun text htext =>
        hnone text ((Utf8.decode?_eq_some_iff _ _).mp htext)
    rw [takeLine_offTerminal prompt hne', hdecode]
    exact ⟨_, rfl⟩
  rest prompt i := by
    by_cases hnil : i = []
    · rw [hnil]
      rfl
    · rw [takeLine_offTerminal prompt hnil]
      cases Utf8.decode? (Feed.cutSegment i).1 <;> rfl
  remembers line i := rfl
  keeps line i := rfl

end LineEditor

/-! ## Lines of text -/

/-- A text with a character has bytes. -/
lemma Utf8.encode_ne_nil (c : Char) (text : Text) : encode (c :: text) ≠ [] :=
  encode_injective.ne (List.cons_ne_nil c text)

/-- The bytes of a text have a newline exactly if the text has one. -/
lemma Utf8.newline_mem_encode_iff (text : Text) : Feed.newline ∈ encode text ↔ '\n' ∈ text := by
  rw [← decodeLossy_encode text, newline_mem_decodeLossy_iff, decodeLossy_encode]
  rfl

/-- A text ends with a newline if its bytes do. -/
lemma Utf8.getLast?_of_encode {text : Text} (h : (encode text).getLast? = some Feed.newline) :
    text.getLast? = some '\n' := by
  rcases List.eq_nil_or_concat' text with rfl | ⟨body, c, rfl⟩
  · cases h
  · rw [encode_append, List.getLast?_append_of_ne_nil _ (encode_ne_nil c [])] at h
    have hmem : '\n' ∈ [c] := (newline_mem_encode_iff [c]).mp (List.mem_of_getLast? h)
    rw [List.getLast?_concat, List.mem_singleton.mp hmem]

namespace Feed

/-- The first segment after bytes without a newline begins with these. -/
lemma segments_append_of_not_mem {bytes : List UInt8} (hne : bytes ≠ []) (hbytes : newline ∉ bytes)
    (rest : List UInt8) :
    segments (bytes ++ rest) =
      match segments rest with
      | [] => [bytes]
      | first :: others => (bytes ++ first) :: others := by
  induction bytes with
  | nil => exact absurd rfl hne
  | cons b bs ih =>
    have hb : b ≠ newline := fun h => hbytes (h ▸ List.mem_cons_self)
    rw [List.cons_append, segments, if_neg hb]
    by_cases hbs : bs = []
    · rw [hbs]
      rfl
    · rw [ih hbs fun h => hbytes (List.mem_cons_of_mem b h)]
      cases segments rest <;> rfl

/-- The segments of the bytes of a text are the bytes of parts of the text. -/
lemma exists_lines (text : Text) :
    ∃ lines : List Text,
      lines.flatten = text ∧ segments (Utf8.encode text) = lines.map Utf8.encode := by
  induction text with
  | nil => exact ⟨[], rfl, rfl⟩
  | cons c text ih =>
    obtain ⟨lines, hlines, hsegments⟩ := ih
    have hcons : ∀ rest, Utf8.encode (c :: rest) = Utf8.encode [c] ++ Utf8.encode rest :=
      Utf8.encode_append [c]
    by_cases hc : c = '\n'
    · subst hc
      refine ⟨['\n'] :: lines, ?_, ?_⟩
      · rw [List.flatten_cons, hlines, List.singleton_append]
      · rw [List.map_cons, ← hsegments]
        rfl
    · have hnewline : newline ∉ Utf8.encode [c] := by
        rw [Utf8.newline_mem_encode_iff, List.mem_singleton]
        exact Ne.symm hc
      rw [hcons, segments_append_of_not_mem (Utf8.encode_ne_nil c []) hnewline, hsegments]
      cases lines with
      | nil =>
        refine ⟨[[c]], ?_, rfl⟩
        rw [← hlines]
        rfl
      | cons first others =>
        refine ⟨(c :: first) :: others, ?_, ?_⟩
        · rw [← hlines]
          rfl
        · exact congrArg (· :: others.map Utf8.encode) (hcons first).symm

/-- Where bytes end with a newline, all their segments do. -/
lemma Terminated.segment_ends {bytes segment : List UInt8} (h : Terminated bytes)
    (hsegment : segment ∈ segments bytes) : segment.getLast? = some newline := by
  rcases List.eq_nil_or_concat' (segments bytes) with hnil | ⟨front, last, hsegments⟩
  · rw [hnil] at hsegment
    cases hsegment
  · rw [hsegments] at hsegment
    rcases List.mem_append.mp hsegment with hfront | hlast
    · have hinner : segment ∈ (segments bytes).dropLast := by
        rwa [hsegments, List.dropLast_concat]
      exact Feed.segment_ends hinner
    · obtain rfl := List.mem_singleton.mp hlast
      have hne : segment ≠ [] := (segment_shape (hsegments ▸ hsegment)).1
      have hbytes : bytes.getLast? = segment.getLast? := by
        rw [← flatten_segments bytes, hsegments, List.flatten_append, List.flatten_singleton,
          List.getLast?_append_of_ne_nil _ hne]
      rw [List.getLast?_eq_getLast_of_ne_nil hne] at hbytes ⊢
      rw [h _ hbytes]

end Feed

namespace Line

/-- A line that ends with a newline and no carriage return before it is what it was when a newline
takes the place of its line ending. -/
lemma dropEnding_append_newline {line : Text} (hends : line.getLast? = some '\n')
    (hreturn : ¬ ['\r', '\n'] <:+ line) : dropEnding line ++ ['\n'] = line := by
  obtain ⟨body, rfl⟩ := List.getLast?_eq_some_iff.mp hends
  have hbody : dropEnding (body ++ ['\n']) = body := by
    rcases List.eq_nil_or_concat' body with rfl | ⟨front, c, rfl⟩
    · rfl
    · have hc : c ≠ '\r' := by
        rintro rfl
        exact hreturn ⟨front, by simp⟩
      simp [dropEnding, hc]
  rw [hbody]

end Line

/-- Where text has its lines ended by newlines, and by none with a carriage return before it, each
segment is the bytes of a line that its line ending can be dropped from and put back. -/
lemma Feed.exists_line_of_mem_segments {bytes segment : List UInt8} (h : Terminated bytes)
    {text : Text} (htext : bytes = Utf8.encode text) (hreturn : ¬ ['\r', '\n'] <:+: text)
    (hsegment : segment ∈ segments bytes) :
    ∃ line, segment = Utf8.encode line ∧ Line.dropEnding line ++ ['\n'] = line := by
  obtain ⟨lines, hlines, hsegments⟩ := exists_lines text
  have hends := h.segment_ends hsegment
  rw [htext, hsegments] at hsegment
  obtain ⟨line, hline, rfl⟩ := List.mem_map.mp hsegment
  refine ⟨line, rfl, Line.dropEnding_append_newline (Utf8.getLast?_of_encode hends) fun h => ?_⟩
  have hinfix : line <:+: text := hlines ▸ List.infix_of_mem_flatten hline
  exact hreturn (h.isInfix.trans hinfix)

/-! ## The two sources side by side -/

/-- **The two readers stay in step.**  Let an editor read bytes that are not typed at a terminal,
and let the plain source read the same bytes, cut into any chunks.  Each read of either takes the
same segment, and both find the end at the same read and ever after.  For a segment that is text the
source behind the editor gives its text with the line ending replaced by a newline, fitted to the
buffer, and for any other it fails; the plain source gives what decoding makes of the segment,
fitted to the buffer.  After as many reads both have the same bytes before them.

So on text whose lines all end with a newline, and none with a carriage return before it, the
results of the two are the same. -/
theorem readers_in_step {editor : LineEditor ι} {left : ι → List UInt8}
    (h : editor.OffTerminal left) (prompts : List Text) (chunks : List (List UInt8)) {i : ι}
    (hleft : left i = chunks.flatten) :
    let segments := Feed.segments chunks.flatten
    let edited := (LineSource.ofEditor editor).results prompts i
    let plain := LineSource.plain.results prompts (chunks.map .chunk)
    (∀ n < prompts.length, segments[n]? = none →
        edited[n]? = some (.ok .ended) ∧ plain[n]? = some (.ok .ended)) ∧
      (∀ n < prompts.length, ∀ segment, segments[n]? = some segment →
        plain[n]? = some (.ok (.line (Line.fit (Utf8.decodeLossy segment)))) ∧
          (∀ text, segment = Utf8.encode text →
            edited[n]? = some (.ok (.line (Line.fit (Line.dropEnding text ++ ['\n']))))) ∧
          ((∀ text, segment ≠ Utf8.encode text) → ∃ e, edited[n]? = some (.error e))) ∧
      left ((LineSource.ofEditor editor).after prompts i) =
        (LineSource.plain.after prompts (chunks.map .chunk)).bytes ∧
      (∀ text, chunks.flatten = Utf8.encode text → Feed.Terminated chunks.flatten →
        ¬ ['\r', '\n'] <:+: text → edited = plain) := by
  intro segments edited plain
  have hplain : ∀ n < prompts.length, plain[n]? = some (.ok ((segments[n]?.map fun segment =>
      Read.line (Line.ofBytes segment)).getD .ended)) := by
    intro n hn
    have hresults : plain = Feed.results prompts.length (chunks.map .chunk) :=
      LineSource.results_plain prompts _
    rw [hresults, Feed.getElem?_results_chunks, if_pos hn]
  have hedited : ∀ n < prompts.length,
      ∃ result, edited[n]? = some result ∧ LineEditor.Gives segments[n]? result := by
    intro n hn
    have hgives := h.getElem?_results prompts i hn
    rwa [hleft] at hgives
  have hended : ∀ n < prompts.length, segments[n]? = none →
      edited[n]? = some (.ok .ended) ∧ plain[n]? = some (.ok .ended) := by
    intro n hn hnone
    obtain ⟨result, hresult, hgives⟩ := hedited n hn
    rw [hnone] at hgives
    exact ⟨hresult.trans (congrArg some hgives), by rw [hplain n hn, hnone]; rfl⟩
  have hsegment : ∀ n < prompts.length, ∀ segment, segments[n]? = some segment →
      plain[n]? = some (.ok (.line (Line.fit (Utf8.decodeLossy segment)))) ∧
        (∀ text, segment = Utf8.encode text →
          edited[n]? = some (.ok (.line (Line.fit (Line.dropEnding text ++ ['\n']))))) ∧
        ((∀ text, segment ≠ Utf8.encode text) → ∃ e, edited[n]? = some (.error e)) := by
    intro n hn segment hsome
    obtain ⟨result, hresult, hgives⟩ := hedited n hn
    rw [hsome] at hgives
    obtain ⟨htext, hnoText⟩ := hgives
    refine ⟨by rw [hplain n hn, hsome]; rfl, fun text hencode => ?_, fun hnone => ?_⟩
    · rw [hresult, htext text hencode]
    · obtain ⟨e, he⟩ := hnoText hnone
      exact ⟨e, hresult.trans (congrArg some he)⟩
  refine ⟨hended, hsegment, ?_, fun text htext hends hreturn => ?_⟩
  · obtain ⟨-, chunks', hafter, hflatten⟩ := Feed.lines_chunks prompts.length chunks
    rw [h.left_after, hleft, LineSource.after_plain, hafter, Feed.bytes_chunks, hflatten]
  · refine List.ext_getElem? fun n => ?_
    by_cases hn : n < prompts.length
    · cases hsome : segments[n]? with
      | none =>
        obtain ⟨hedited, hplain⟩ := hended n hn hsome
        rw [hedited, hplain]
      | some segment =>
        obtain ⟨hplain, hedited, -⟩ := hsegment n hn segment hsome
        obtain ⟨line, rfl, hline⟩ := Feed.exists_line_of_mem_segments hends htext hreturn
          (List.mem_of_getElem? hsome)
        rw [hplain, hedited line rfl, hline, Utf8.decodeLossy_encode]
    · have hlength : prompts.length ≤ n := Nat.le_of_not_lt hn
      rw [List.getElem?_eq_none (by rwa [LineSource.length_results]),
        List.getElem?_eq_none (by rwa [LineSource.length_results])]

/-- A line that is no text, a line that ends with a carriage return and a newline, and a last line
without a newline; and then a text on which the two readers agree. -/
theorem readers_in_step_resumed :
    let prompts : List Text := List.replicate 4 "> ".toList
    let chunks : List (List UInt8) := [[0xE9], [0x0A, 0xC3], [0xA9, 0x0D, 0x0A, 0x78]]
    let text : Text := "é\n\nx\n".toList
    let edited := LineSource.edited.results prompts chunks.flatten
    let plain := LineSource.plain.results prompts (chunks.map .chunk)
    ((∃ e, edited[0]? = some (Except.error e)) ∧
        plain[0]? = some (Except.ok (Read.line "\uFFFD\n".toList))) ∧
      (edited[1]? = some (Except.ok (Read.line "é\n".toList)) ∧
        plain[1]? = some (Except.ok (Read.line "é\r\n".toList))) ∧
      (edited[2]? = some (Except.ok (Read.line "x\n".toList)) ∧
        plain[2]? = some (Except.ok (Read.line "x".toList))) ∧
      (edited[3]? = some (Except.ok Read.ended) ∧ plain[3]? = some (Except.ok Read.ended)) ∧
      LineSource.edited.results prompts (Utf8.encode text) =
        LineSource.plain.results prompts [.chunk (Utf8.encode text)] := by
  intro prompts chunks text edited plain
  obtain ⟨hended, hsegment, -⟩ :=
    readers_in_step LineEditor.offTerminal_offTerminal prompts chunks (i := chunks.flatten) rfl
  obtain ⟨-, -, -, hsame⟩ := readers_in_step LineEditor.offTerminal_offTerminal prompts
    [Utf8.encode text] (i := Utf8.encode text) (List.append_nil _).symm
  have hnoText : ∀ text, [0xE9, 0x0A] ≠ Utf8.encode text := by
    intro text htext
    have hnone : Utf8.decode? [0xE9, 0x0A] = none := by decide +kernel
    rw [(Utf8.decode?_eq_some_iff _ _).mpr htext] at hnone
    cases hnone
  obtain ⟨hplain₀, -, hedited₀⟩ := hsegment 0 (by decide) [0xE9, 0x0A] (by decide +kernel)
  obtain ⟨hplain₁, hedited₁, -⟩ :=
    hsegment 1 (by decide) [0xC3, 0xA9, 0x0D, 0x0A] (by decide +kernel)
  obtain ⟨hplain₂, hedited₂, -⟩ := hsegment 2 (by decide) [0x78] (by decide +kernel)
  refine ⟨⟨hedited₀ hnoText, hplain₀.trans (by decide +kernel)⟩, ⟨?_, ?_⟩, ⟨?_, ?_⟩, ?_, ?_⟩
  · exact (hedited₁ "é\r\n".toList (by decide +kernel)).trans (by decide +kernel)
  · exact hplain₁.trans (by decide +kernel)
  · exact (hedited₂ "x".toList (by decide +kernel)).trans (by decide +kernel)
  · exact hplain₂.trans (by decide +kernel)
  · exact hended 3 (by decide) (by decide +kernel)
  · exact hsame text (List.append_nil _) (by decide +kernel) (by decide +kernel)

end LineShell
