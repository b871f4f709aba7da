import LineShell.Proofs.Composed
import LineShell.Proofs.Cutting
import LineShell.Proofs.Decoding
import LineShell.Proofs.Reading

/-!
# Lines that fit the buffer

A line as it is stored has something in it, takes fewer bytes than the buffer has, and ends with
its newline if it has one: `Line.Fits`.  Every line that is read from bytes is of this kind,
whatever the bytes are (`Feed.fits_of_next`).  A newline ends the bytes of a line, decoding neither
makes nor moves one, and cutting a line takes away its end and puts a newline there.

The texts that a command hands to the system shell are not longer than its line: `joined` puts one
space after each argument, and on the line each of them has a space or more before it
(`size_base_add_size_joined_le`).
-/

namespace LineShell

/-- The line has something in it, leaves a byte of the buffer free, and has no newline before its
end. -/
structure Line.Fits (line : Text) : Prop where
  nonempty : line ≠ []
  size : Utf8.size line < capacity
  newline : '\n' ∉ line.dropLast

namespace Line

/-- A text with a newline at its end only fits the buffer after it is cut. -/
lemma fits_fit {line : Text} (hnonempty : line ≠ []) (hnewline : '\n' ∉ line.dropLast) :
    Fits (fit line) where
  nonempty := fit_ne_nil hnonempty
  size := size_fit_lt line
  newline := newline_notMem_dropLast_fit hnewline

/-! ## Reading a line -/

/-- The line of some bytes fits if the bytes have a newline at their end only. -/
lemma fits_ofBytes {bytes : List UInt8} (hnonempty : bytes ≠ [])
    (hnewline : Feed.newline ∉ bytes.dropLast) : Fits (ofBytes bytes) := by
  refine fits_fit (mt (Utf8.decodeLossy_eq_nil_iff bytes).mp hnonempty) fun hmem => ?_
  obtain ⟨body, b, rfl⟩ := List.eq_nil_or_concat' bytes |>.resolve_left hnonempty
  rw [List.dropLast_concat] at hnewline
  by_cases hb : b = Feed.newline
  · have hdecoded : Utf8.decodeLossy (body ++ [b]) = Utf8.decodeLossy body ++ ['\n'] := by
      rw [hb]
      exact Utf8.decodeLossy_append_newline body []
    rw [hdecoded, List.dropLast_concat, Utf8.newline_mem_decodeLossy_iff] at hmem
    exact hnewline hmem
  · have hbyte := (Utf8.newline_mem_decodeLossy_iff _).mp (List.mem_of_mem_dropLast hmem)
    rcases List.mem_append.mp hbyte with hbody | hlast
    · exact hnewline hbody
    · exact hb (List.mem_singleton.mp hlast).symm

end Line

namespace Feed

/-- The bytes of a line have a newline at their end only. -/
lemma newline_notMem_takeFrom {held : List UInt8} {feed : Feed} {bytes : List UInt8}
    (hheld : newline ∉ held) (htake : (takeFrom held feed).1 = .ok bytes) :
    newline ∉ bytes.dropLast := by
  have hends : ∀ {held : List UInt8}, newline ∉ held →
      (Except.ok held : Except IoError _) = .ok bytes → newline ∉ bytes.dropLast := by
    intro held hheld hbytes hmem
    rw [← Except.ok.inj hbytes] at hmem
    exact hheld (List.mem_of_mem_dropLast hmem)
  fun_induction takeFrom held feed with
  | case1 held => exact hends hheld htake
  | case2 held feed => exact hends hheld htake
  | case3 held e feed => cases htake
  | case4 held chunk feed line rest hcut =>
    obtain ⟨body, hbody, hline, -⟩ := cutAfterNewline?_eq_some hcut
    simp only at hline
    rw [← Except.ok.inj htake, hline, ← List.append_assoc, List.dropLast_concat, List.mem_append]
    exact fun hmem => hmem.elim hheld hbody
  | case5 held chunk feed hcut ih =>
    refine ih ?_ htake
    rw [List.mem_append]
    exact fun hmem => hmem.elim hheld (cutAfterNewline?_eq_none hcut)

/-- **A line that is read fits**, whatever the input is. -/
theorem fits_of_next {feed : Feed} {line : Text} (hline : feed.next.1 = .ok (.line line)) :
    Line.Fits line := by
  unfold next at hline
  cases htake : feed.take.1 with
  | error e =>
    rw [htake] at hline
    cases hline
  | ok bytes =>
    rw [htake] at hline
    have hread : Read.ofBytes bytes = .line line := Except.ok.inj hline
    have hnewline := newline_notMem_takeFrom List.not_mem_nil htake
    cases bytes with
    | nil => cases hread
    | cons b bs =>
      rw [← Read.line.inj hread]
      exact Line.fits_ofBytes (List.cons_ne_nil b bs) hnewline

end Feed

/-! ## The texts of commands -/

namespace Command

/-- One space follows each argument in the joined text. -/
lemma joined_cons (argument : Text) (arguments : List Text) :
    joined (argument :: arguments) = argument ++ ' ' :: joined arguments := by
  simp [joined]

/-- The pieces of a text with a space after each make up the text and one space more. -/
lemma joined_pieces (t : Text) : joined (pieces ' ' t) = t ++ [' '] := by
  induction t with
  | nil => rfl
  | cons c t ih =>
    rw [pieces]
    split_ifs with hc
    · rw [hc, List.cons_append, ← ih]
      rfl
    · cases hpieces : pieces ' ' t with
      | nil =>
        rw [hpieces] at ih
        simp [joined] at ih
      | cons piece rest =>
        rw [hpieces] at ih
        rw [List.cons_append, ← ih]
        rfl

/-- What parsing makes of a line, by its tokens. -/
lemma parse_eq (line : Text) :
    parse line =
      { base := ((Line.tokens line).head?.map Line.upToNewline).getD []
        arguments := ((Line.tokens line).tail.take argumentLimit).map Line.upToNewline
        raw := line } := by
  unfold parse
  cases Line.tokens line with
  | nil => rfl
  | cons base tokens => simp [List.map_take]

/-- The base of a line and its arguments, each with a space after it, take no more bytes than the
line: the space before the first argument makes room for the one after the last. -/
lemma size_base_add_size_joined_le (line : Text) :
    Utf8.size (parse line).base + Utf8.size (joined (parse line).arguments) ≤
      Utf8.size line := by
  have htokens : Utf8.size (joined (Line.tokens line)) ≤ Utf8.size line + 1 := by
    have hfilter : (Line.tokens line).Sublist (pieces ' ' line) := List.filter_sublist
    have hpieces := Utf8.size_le_of_sublist (hfilter.flatMap (· ++ [' ']))
    have hsize := congrArg Utf8.size (joined_pieces line)
    rw [Utf8.size_append] at hsize
    exact hpieces.trans hsize.le
  have hcut : Utf8.size (joined (parse line).arguments) ≤
      Utf8.size (joined (Line.tokens line).tail) := by
    rw [parse_eq, joined, List.flatMap_map]
    refine (Utf8.size_le_of_sublist (List.Sublist.flatMap_right _ fun token _ => ?_)).trans
      (Utf8.size_le_of_sublist ((List.take_sublist _ _).flatMap _))
    exact (List.takeWhile_sublist _).append_right _
  have hbase : (parse line).base = ((Line.tokens line).head?.map Line.upToNewline).getD [] :=
    congrArg base (parse_eq line)
  rw [hbase]
  cases hcons : Line.tokens line with
  | nil =>
    rw [hcons] at hcut
    exact (Nat.zero_add _).trans_le (hcut.trans (Nat.zero_le _))
  | cons base tokens =>
    have hspace : Char.utf8Size ' ' = 1 := by decide
    have hkept : Utf8.size (Line.upToNewline base) ≤ Utf8.size base :=
      Utf8.size_le_of_sublist (List.takeWhile_sublist _)
    rw [hcons, List.tail_cons] at hcut
    rw [hcons, joined_cons, Utf8.size_append, Utf8.size_cons, hspace] at htokens
    change Utf8.size (Line.upToNewline base) + _ ≤ _
    omega

/-- Arguments have no newline. -/
lemma newline_notMem_joined {line : Text} {arguments : List Text}
    (h : arguments.Sublist (parse line).arguments) : '\n' ∉ joined arguments := by
  intro hmem
  obtain ⟨argument, hargument, hnewline⟩ := List.mem_flatMap.mp hmem
  have hkept := h.subset hargument
  rw [parse_eq] at hkept
  obtain ⟨token, -, rfl⟩ := List.mem_map.mp hkept
  rcases List.mem_append.mp hnewline with htoken | hspace
  · have hstays := List.mem_takeWhile_imp htoken
    simp at hstays
  · simp at hspace

/-- **A text handed over fits** where its line does, and if it is made of arguments it has no
newline at all. -/
theorem Does.fits {line text : Text} (hline : Line.Fits line)
    (hdoes : (parse line).Does (.hands text)) :
    Utf8.size text < Line.capacity ∧ '\n' ∉ text.dropLast ∧
      ((parse line).verb ≠ .delegate → '\n' ∉ text) := by
  have hjoined : ∀ {arguments : List Text}, arguments.Sublist (parse line).arguments →
      text = joined arguments → Utf8.size text < Line.capacity ∧ '\n' ∉ text := by
    rintro arguments h rfl
    have hsize := Utf8.size_le_of_sublist (h.flatMap (· ++ [' ']))
    have hspared := (Nat.le_add_left _ _).trans (size_base_add_size_joined_le line)
    exact ⟨(hsize.trans hspared).trans_lt hline.size, newline_notMem_joined h⟩
  rcases hdoes.hands with ⟨-, htext⟩ | ⟨-, htext⟩ | ⟨hverb, htext⟩
  · obtain ⟨hsize, hnewline⟩ := hjoined (List.Sublist.refl _) htext
    exact ⟨hsize, mt List.mem_of_mem_dropLast hnewline, fun _ => hnewline⟩
  · obtain ⟨hsize, hnewline⟩ := hjoined (List.tail_sublist _) htext
    exact ⟨hsize, mt List.mem_of_mem_dropLast hnewline, fun _ => hnewline⟩
  · rw [htext, parse_raw]
    exact ⟨hline.size, hline.newline, fun h => absurd hverb h⟩

end Command

end LineShell
