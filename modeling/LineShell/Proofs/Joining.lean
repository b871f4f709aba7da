import LineShell.Proofs.Delegation
import LineShell.Proofs.Layouts

/-!
# Joined arguments

A timed or a repeated command hands its arguments over as one text, with a space after each.  That
text is a line again, and parsing undoes the joining: what comes back are the arguments that are not
empty (`Plain.parse_joined`).  An argument is empty where a token of the line begins with a newline,
and joined with the others it leaves a second space, which is all that is ever lost.  So joining the
text again, behind another `time`, changes it at most once.

All that the statements need of the arguments of a line is that they are `Plain`, the bound on the
size of the text apart, and the arguments that are not empty are plain as well.
-/

namespace LineShell

variable {σ ι : Type}

namespace Command

/-! ## The tokens of joined texts -/

/-- The tokens of joined texts without spaces are those that are not empty. -/
lemma tokens_joined {arguments : List Text} (h : ∀ argument ∈ arguments, ' ' ∉ argument) :
    Line.tokens (joined arguments) = arguments.filter (· ≠ []) := by
  induction arguments with
  | nil => rfl
  | cons argument arguments ih =>
    obtain ⟨hargument, harguments⟩ := List.forall_mem_cons.mp h
    rw [joined_cons, Line.tokens_append_space, Line.tokens_of_notMem hargument, ih harguments]
    by_cases hempty : argument = [] <;> simp [hempty]

/-- The joined text has the characters of the arguments and one space for each of them. -/
lemma length_joined (arguments : List Text) :
    (joined arguments).length = arguments.flatten.length + arguments.length := by
  induction arguments with
  | nil => rfl
  | cons argument arguments ih =>
    rw [joined_cons, List.length_append, List.length_cons, ih, List.flatten_cons,
      List.length_append, List.length_cons]
    omega

/-- Leaving out empty texts shortens the joined text by one space for each. -/
lemma joined_filter_eq_iff (arguments : List Text) :
    joined (arguments.filter (· ≠ [])) = joined arguments ↔ [] ∉ arguments := by
  constructor
  · intro h hmem
    have hlength := congrArg List.length h
    have hflatten : (arguments.filter (· ≠ [])).flatten = arguments.flatten :=
      List.flatten_filter_ne_nil
    rw [length_joined, length_joined, hflatten, Nat.add_left_cancel_iff,
      List.length_filter_eq_length_iff] at hlength
    simpa using hlength [] hmem
  · intro h
    rw [List.filter_eq_self.mpr]
    intro argument hargument
    rw [decide_eq_true_eq]
    rintro rfl
    exact h hargument

/-! ## Plain arguments -/

namespace Plain

variable {arguments : List Text}

/-- Some of some plain arguments are plain. -/
lemma of_sublist (h : Plain arguments) {some : List Text} (hsome : some.Sublist arguments) :
    Plain some where
  length := hsome.length_le.trans h.length
  space := fun a ha => h.space a (hsome.subset ha)
  newline := fun a ha => h.newline a (hsome.subset ha)

/-- Plain arguments are not cut again. -/
lemma map_upToNewline (h : Plain arguments) : arguments.map Line.upToNewline = arguments := by
  have hsame : ∀ argument ∈ arguments, Line.upToNewline argument = argument := by
    intro argument hargument
    refine List.takeWhile_eq_self_iff.mpr fun c hc => ?_
    rw [decide_eq_true_eq]
    rintro rfl
    exact h.newline argument hargument hc
  rw [List.map_congr_left hsame, List.map_id']

/-- **Parsing undoes joining**: the text of plain arguments parses as those that are not empty. -/
lemma parse_joined (h : Plain arguments) :
    parse (joined arguments) =
      { base := (arguments.filter (· ≠ [])).headD []
        arguments := (arguments.filter (· ≠ [])).tail
        raw := joined arguments } := by
  have hkept : Plain (arguments.filter (· ≠ [])) := h.of_sublist List.filter_sublist
  rw [parse_eq, tokens_joined h.space]
  cases hwords : arguments.filter (· ≠ []) with
  | nil => rfl
  | cons base rest =>
    rw [hwords] at hkept
    obtain ⟨hbase, hrest⟩ := List.cons.inj hkept.map_upToNewline
    have hall : rest.take argumentLimit = rest :=
      List.take_of_length_le ((Nat.le_succ _).trans hkept.length)
    simp only [List.head?_cons, Option.map_some, Option.getD_some, List.tail_cons, List.headD_cons]
    rw [hbase, hall, hrest]

end Plain

/-! ## Joining again -/

/-- The text that `time` hands over where it stands before a text. -/
def timed (text : Text) : Text :=
  joined (parse ("time ".toList ++ text)).arguments

/-- A `time` before a text is its base, and the tokens of the text are the arguments, as many as are
kept. -/
lemma parse_time (text : Text) :
    parse ("time ".toList ++ text) =
      { base := "time".toList
        arguments := ((Line.tokens text).take argumentLimit).map Line.upToNewline
        raw := "time ".toList ++ text } := by
  have htokens : Line.tokens ("time ".toList ++ text) = "time".toList :: Line.tokens text :=
    Line.tokens_append_space "time".toList text
  rw [parse_eq, htokens]
  rfl

/-- Joining plain arguments again leaves out the empty ones. -/
lemma Plain.timed_joined {arguments : List Text} (h : Plain arguments) :
    timed (joined arguments) = joined (arguments.filter (· ≠ [])) := by
  have hkept : Plain (arguments.filter (· ≠ [])) := h.of_sublist List.filter_sublist
  rw [timed, parse_time, tokens_joined h.space, List.take_of_length_le hkept.length,
    hkept.map_upToNewline]

/-- Once it is joined again, a text of plain arguments stays as it is. -/
lemma Plain.timed_timed {arguments : List Text} (h : Plain arguments) :
    timed (timed (joined arguments)) = timed (joined arguments) := by
  have hkept : Plain (arguments.filter (· ≠ [])) := h.of_sublist List.filter_sublist
  rw [h.timed_joined, hkept.timed_joined, List.filter_filter]
  simp

end Command

/-- A command that is no recall sends what its name and its arguments ask for. -/
lemma texts_dispatch_here (host : Host σ) (settings : Settings) {c : Command} (hc : ¬ c.IsRecall)
    (s : Shell σ ι) : Event.texts (dispatch host settings c s).events = c.handed := by
  rw [dispatch, dispatchWithin_of_not_isRecall host _ _ hc]
  exact texts_performHere host hc s

/-- A timed command sends the text of its arguments. -/
lemma texts_dispatch_time (host : Host σ) (settings : Settings) {c : Command}
    (hc : c.base = "time".toList) (s : Shell σ ι) :
    Event.texts (dispatch host settings c s).events = [Command.joined c.arguments] := by
  have hhere : ¬ c.IsRecall := by simp [Command.isRecall_iff, hc]
  have hsilent : ¬ c.IsSilent := by simp [Command.IsSilent, hc]
  rw [texts_dispatch_here host settings hhere, Command.handed, if_neg hsilent, if_pos hc]

/-- A repeated command sends the text of its arguments but the first, in every round. -/
lemma texts_dispatch_repeat (host : Host σ) (settings : Settings) {c : Command}
    (hc : c.base = "repeat".toList) (s : Shell σ ι) :
    Event.texts (dispatch host settings c s).events =
      List.replicate (max 0 c.count).toNat (Command.joined c.arguments.tail) := by
  have hhere : ¬ c.IsRecall := by simp [Command.isRecall_iff, hc]
  have hsilent : ¬ c.IsSilent := by simp [Command.IsSilent, hc]
  have htime : c.base ≠ "time".toList := by simp [hc]
  rw [texts_dispatch_here host settings hhere, Command.handed, if_neg hsilent, if_neg htime,
    if_pos hc]

namespace Command

/-- **Joining undoes splitting.**  A timed command hands over the joined text of all its arguments
and a repeated one that of all but the first.  Take such arguments of any line.  Their text has no
newline, and it takes no more bytes than the line without its base.  It parses as those of the
arguments that are not empty, the first of them the base and all others kept.  Where `time` stands
before the text, the arguments are joined again; that changes the text once at most, and not at all
just if no argument is empty. -/
theorem parse_joined_arguments (line : Text) {arguments : List Text}
    (h : arguments = (parse line).arguments ∨ arguments = (parse line).arguments.tail) :
    let text := joined arguments
    let words := arguments.filter (· ≠ [])
    '\n' ∉ text ∧
      Utf8.size text + Utf8.size (parse line).base ≤ Utf8.size line ∧
      parse text = { base := words.headD [], arguments := words.tail, raw := text } ∧
      timed (timed text) = timed text ∧ (timed text = text ↔ [] ∉ arguments) ∧
      ∀ {σ ι : Type} (host : Host σ) (settings : Settings) (s : Shell σ ι),
        (∀ c : Command, c.base = "time".toList →
          Event.texts (dispatch host settings c s).events = [joined c.arguments]) ∧
        (∀ c : Command, c.base = "repeat".toList →
          Event.texts (dispatch host settings c s).events =
            List.replicate (max 0 c.count).toNat (joined c.arguments.tail)) ∧
        ∀ t, Event.texts (dispatch host settings (parse ("time ".toList ++ t)) s).events =
          [timed t] := by
  intro text words
  have hsublist : arguments.Sublist (parse line).arguments := by
    rcases h with rfl | rfl
    · exact List.Sublist.refl _
    · exact List.tail_sublist _
  have hplain : Plain arguments := (plain_arguments line).of_sublist hsublist
  refine ⟨newline_notMem_joined hsublist, ?_, hplain.parse_joined, hplain.timed_timed, ?_, ?_⟩
  · have hline := size_base_add_size_joined_le line
    have htext : Utf8.size text ≤ Utf8.size (joined (parse line).arguments) :=
      Utf8.size_le_of_sublist (hsublist.flatMap _)
    omega
  · rw [hplain.timed_joined]
    exact joined_filter_eq_iff arguments
  · intro σ ι host settings s
    refine ⟨fun c hc => texts_dispatch_time host settings hc s,
      fun c hc => texts_dispatch_repeat host settings hc s, fun t => ?_⟩
    have hbase : (parse ("time ".toList ++ t)).base = "time".toList := by rw [parse_time]
    exact texts_dispatch_time host settings hbase s

/-- A newline between spaces is an empty argument, which leaves two spaces in the text of the
repeated command and one when that is joined again. -/
theorem parse_joined_arguments_empty :
    let line := "repeat 2 a \n b\tc\n".toList
    let arguments : List Text := ["a".toList, [], "b\tc".toList]
    arguments = (parse line).arguments.tail ∧ joined arguments = "a  b\tc ".toList ∧
      parse (joined arguments) =
        { base := "a".toList, arguments := ["b\tc".toList], raw := "a  b\tc ".toList } ∧
      timed (joined arguments) = "a b\tc ".toList ∧
      timed (timed (joined arguments)) = "a b\tc ".toList := by
  intro line arguments
  have htail : arguments = (parse line).arguments.tail := by decide
  have htimed : timed (joined arguments) = "a b\tc ".toList := by decide
  obtain ⟨-, -, hparse, hstable, -⟩ := parse_joined_arguments line (Or.inr htail)
  exact ⟨htail, rfl, hparse, htimed, hstable.trans htimed⟩

end Command

end LineShell
