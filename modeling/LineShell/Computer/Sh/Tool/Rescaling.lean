import LineShell.Computer.Number.Scale
import LineShell.Computer.Sh.Tool.Options
import LineShell.Computer.Sh.Tool.Selection

/-!
# The tool that gives numbers other units

Numbers in chosen fields are read with units and written with other ones; the other fields stay as they
are.
-/

namespace LineShell.Sh.Tool

namespace Rescaling

/-- How the tool takes options. -/
def usage : Usage :=
  .free (OptionForm.valuedNames ["from", "from-unit", "to", "to-unit", "round", "padding", "suffix"] ++
    OptionForm.names ["grouping"] ++ OptionForm.valuedFlags [('d', "delimiter")] ++
    OptionForm.valuedNames ["field"] ++ OptionForm.names ["debug"] ++
    OptionForm.names ["-debug"] ++ [⟨none, some "header", .perhaps⟩] ++
    OptionForm.valuedNames ["format", "invalid"] ++ OptionForm.flags [('z', "zero-terminated")])

/-- What happens to what is no number. -/
inductive Leniency where
  /-- The tool stops. -/
  | stops
  /-- The tool fails at the end. -/
  | fails
  | warns
  | ignores
deriving DecidableEq, Repr

/-- How numbers are laid out. -/
structure Pattern where
  /-- What is in front of a number, and behind it. -/
  front : Text
  behind : Text
  /-- How wide a number is at least. -/
  width : Nat
  isLeft : Bool
  /-- How wide a number is at least when it is filled with zeros. -/
  zeros : Nat
  places : Option Nat

/-- What is asked for. -/
structure Wish where
  source : Scale
  target : Scale
  sourceUnit : Nat
  targetUnit : Nat
  rounding : WholeRounding
  suffix : Text
  delimiter : Option Char
  fields : List Range
  header : Nat
  leniency : Leniency
  pattern : Pattern
  /-- Numbers are as wide as they were. -/
  keepsWidth : Bool
  /-- What ends a line. -/
  ending : UInt8
  isTalkative : Bool

/-- The size of a unit that a text names. -/
def unitOf (t : Text) : Except Text Nat :=
  let complaint : Text := "invalid unit size: ".toList ++ Quoting.word t
  let bare := t.dropWhile isSpace
  let bare := if bare.head? = some '+' then bare.drop 1 else bare
  let digits := bare.takeWhile Char.isDigit
  let n := if digits.isEmpty then 1 else digitsValue digits
  let rest := if digits.isEmpty then t else bare.drop digits.length
  let power (c : Char) : Option Nat := (Scale.letters.findIdx? (· = c)).map (· + 1)
  let size? : Option Nat := match rest with
    | [] => if digits.isEmpty then none else some n
    | [c] => (power c).map fun p => n * Nat.pow 1000 p
    | [c, 'i'] => (power c).map fun p => n * Nat.pow 1024 p
    | _ => none
  match size? with
  | some size => if size = 0 ∨ 18446744073709551615 < size then .error complaint else .ok size
  | none => .error complaint

/-- What follows the blanks and flags of a directive, and whether zeros fill it. -/
def flagsOf : (fuel : Nat) → (zeros : Bool) → Text → Bool × Text
  | 0, zeros, t => (zeros, t)
  | fuel + 1, zeros, t =>
    match t with
    | ' ' :: rest => flagsOf fuel zeros rest
    | '\'' :: rest => flagsOf fuel zeros rest
    | '0' :: rest => flagsOf fuel true rest
    | _ => (zeros, t)

/-- The length of what is in front of the first directive, and how many characters it has if two percent
signs count as one. -/
def frontOf : (fuel : Nat) → Text → Option (Nat × Nat)
  | 0, _ => none
  | fuel + 1, t =>
    match t with
    | [] => none
    | '%' :: '%' :: rest => (frontOf fuel rest).map fun (n, m) => (n + 2, m + 1)
    | '%' :: _ => some (0, 0)
    | _ :: rest => (frontOf fuel rest).map fun (n, m) => (n + 1, m + 1)

/-- There is no directive in a text. -/
def isPlain : (fuel : Nat) → Text → Bool
  | 0, _ => true
  | fuel + 1, t =>
    match t with
    | [] => true
    | '%' :: '%' :: rest => isPlain fuel rest
    | '%' :: _ => false
    | _ :: rest => isPlain fuel rest

/-- A pattern with the directive that a text holds. -/
def Pattern.ofText (p : Pattern) (t : Text) : Except Text Pattern := do
  let quoted := Quoting.word t
  let wrong (message : String) : Text := "format ".toList ++ quoted ++ message.toList
  match frontOf (t.length + 1) t with
  | none => throw (wrong " has no % directive")
  | some (place, count) =>
    let (zeros, rest) := flagsOf t.length false (t.drop (place + 1))
    let (width, rest) : Int × Text := match LeadingInteger.ofText? false rest with
      | some i => (i.value, i.left)
      | none => (0, rest)
    if width < -9223372036854775807 ∨ 9223372036854775807 < width then
      throw ("invalid format ".toList ++ quoted ++ " (width overflow)".toList)
    if rest.isEmpty then throw (wrong " ends in %")
    let (places, rest) ← match rest with
      | '.' :: more =>
        let bad : Text := "invalid precision in format ".toList ++ quoted
        if more.head?.any fun c => c = ' ' || c = '\t' || c = '+' then throw bad
        match LeadingInteger.ofText? false more with
        | some i =>
          if i.value < 0 ∨ ¬ i.isHeld then throw bad
          pure (some i.value.toNat, i.left)
        | none => pure (some 0, more)
      | rest => pure (none, rest)
    match rest with
    | 'f' :: behind =>
      if !isPlain (behind.length + 1) behind then throw (wrong " has too many % directives")
      let p := { p with front := t.take count, behind, places }
      if width < 0 then return { p with width := width.natAbs, isLeft := true }
      else if width = 0 then return p
      else if zeros then return { p with zeros := width.toNat }
      else return { p with width := width.toNat }
    | _ =>
      throw ("invalid format ".toList ++ quoted ++
        ", directive must be %[0]['][-][N][.][N]f".toList)

/-- A count that an option gives, which may not be zero. -/
def countOf (complaint : String) (signed : Bool) (t : Text) : Except Misuse Int :=
  match LeadingInteger.ofText? false t with
  | some i =>
    if i.left.isEmpty && i.isHeld && i.value ≠ 0 && (signed || 0 < i.value) then .ok i.value
    else .error (.ofValue (complaint.toList ++ Quoting.word t))
  | none => .error (.ofValue (complaint.toList ++ Quoting.word t))

/-- What options ask for. -/
def Wish.ofGiven (given : Given) : Except Misuse Wish := do
  let ofForm {α : Type} (found : Except Text α) : Except Misuse α := found.mapError .ofForm
  let ofValue {α : Type} (found : Except Text α) : Except Misuse α := found.mapError .ofValue
  let plain := [(["none"], Scale.plain)]
  let units := [(["si"], Scale.decimal), (["iec"], .binary), (["iec-i"], .marked)]
  let source ← ofForm (Choice.ofGiven given "from" "from" (plain ++ [(["auto"], .auto)] ++ units))
  let target ← ofForm (Choice.ofGiven given "to" "to" (plain ++ units))
  let rounding ← ofForm (Choice.ofGiven given "round" "round" [(["up"], WholeRounding.up),
    (["down"], .down), (["from-zero"], .fromZero), (["towards-zero"], .towardsZero),
    (["nearest"], .nearest)])
  let leniency ← ofForm (Choice.ofGiven given "invalid" "invalid" [(["abort"], Leniency.stops),
    (["fail"], .fails), (["warn"], .warns), (["ignore"], .ignores)])
  let sourceUnits ← (given.values "from-unit").mapM (ofValue ∘ unitOf)
  let targetUnits ← (given.values "to-unit").mapM (ofValue ∘ unitOf)
  let paddings ← (given.values "padding").mapM (countOf "invalid padding value " true)
  let headers ← ((given.values "header").filter (!·.isEmpty)).mapM
    (countOf "invalid header value " false)
  let fields ← match given.values "field" with
    | [] => pure [⟨1, some 1⟩]
    | [['-']] => pure [⟨1, none⟩]
    | [t] => ofForm (Range.listOf Range.Wording.fields t)
    | _ => throw (.ofValue "multiple field specifications".toList)
  let delimiters ← (given.values "d").mapM fun
    | [] => .ok '\x00'
    | [c] => .ok c
    | _ => .error (Misuse.ofValue "the delimiter must be a single character".toList)
  if given.has "format" && given.has "grouping" then
    throw (.ofValue "--grouping cannot be combined with --format".toList)
  let padding := paddings.getLastD 0
  let usual : Pattern := ⟨[], [], padding.natAbs, padding < 0, 0, none⟩
  let pattern ← match given.value? "format" with
    | some t => ofValue (usual.ofText t)
    | none => pure usual
  let target := target.getD .plain
  if given.has "grouping" && target ≠ .plain then
    throw (.ofValue "grouping cannot be combined with --to".toList)
  return {
    source := source.getD .plain
    target
    sourceUnit := sourceUnits.getLastD 1
    targetUnit := targetUnits.getLastD 1
    rounding := rounding.getD .fromZero
    suffix := (given.value? "suffix").getD []
    delimiter := delimiters.getLast?
    fields
    header := if given.has "header" then (headers.getLastD 1).toNat else 0
    leniency := leniency.getD .stops
    pattern
    keepsWidth := pattern.width = 0 && delimiters.isEmpty
    ending := if given.has "z" then 0 else newline
    isTalkative := given.has "debug" || given.has "-debug" }

/-- The message about a text that is no number. -/
def faultMessage (t : Text) : Scale.Fault → Text
  | .tooGreat => "value too large to be converted: ".toList ++ Quoting.word t
  | .malformed => "invalid number: ".toList ++ Quoting.word t
  | .badSuffix => "invalid suffix in input: ".toList ++ Quoting.word t
  | .unwanted =>
    "rejecting suffix in input: ".toList ++ Quoting.word t ++ " (consider using --from)".toList
  | .missingMark =>
    "missing 'i' suffix in input: ".toList ++ Quoting.word t ++ " (e.g Ki/Mi/Gi)".toList
  | .leftover rest =>
    "invalid suffix in input ".toList ++ Quoting.word t ++ ": ".toList ++ Quoting.word rest

/-- A number in a short form. -/
def shortly (x : Binary) : Text :=
  let (n, d) := Scale.fraction x
  (if x.isNegative then ['-'] else []) ++ Written.general false 6 n d

/-- A number as it is written, or why it is not. -/
def Wish.written (w : Wish) (x : Binary) (places : Nat) : Except Text Text :=
  let used := w.pattern.places.getD places
  let size := Scale.magnitude x
  let tooGreat (rest : String) : Except Text Text :=
    .error ("value too large to be printed: '".toList ++ shortly x ++ rest.toList)
  if w.target = .plain ∧ Scale.exactDigits < size + used then
    if used = 0 then tooGreat "' (consider using --to)"
    else .error ("value/precision too large to be printed: '".toList ++ shortly x ++ '/' ::
      numeral used ++ "' (consider using --to)".toList)
  else if Scale.mostDigits - 1 < size then tooGreat "' (cannot handle values > 999Y)"
  else if w.target = .plain then .ok (Scale.writtenPlain w.rounding used w.pattern.zeros x)
  else .ok (w.target.written w.rounding w.pattern.places w.pattern.zeros x)

/-- A field with its number in other units, or the message about it and what is left of it. -/
def Wish.converted (w : Wish) (number : Nat) (field : Text) : Except (Text × Text) (Text × Bool) :=
  let field := if ¬ w.suffix.isEmpty ∧ w.suffix.length < field.length ∧ w.suffix.isSuffixOf field then
      field.take (field.length - w.suffix.length)
    else field
  let bare := field.dropWhile fun c => c = ' ' || c = '\t'
  let width := if !w.keepsWidth then w.pattern.width
    else if bare.length < field.length ∨ 1 < number then field.length else 0
  match w.source.read bare with
  | .error fault => .error (faultMessage bare fault, field)
  | .ok r =>
    let x := if w.sourceUnit = 1 ∧ w.targetUnit = 1 then r.value
      else Scale.dividedBy w.targetUnit (Scale.times w.sourceUnit r.value)
    match w.written x r.places with
    | .error message => .error (message, field)
    | .ok t =>
      let t := t ++ w.suffix
      let blanks := List.replicate (width - t.length) ' '
      let t := if w.pattern.isLeft then t ++ blanks else blanks ++ t
      .ok (w.pattern.front ++ t ++ w.pattern.behind, r.isInexact)

/-- The fields of a line, each with the blanks in front of it. -/
def fieldsOf (delimiter : Option Char) (line : Text) : List Text :=
  match delimiter with
  | some c => pieces c line
  | none => go (line.length + 1) line
where
  /-- The fields of what is left. -/
  go : (fuel : Nat) → Text → List Text
    | 0, _ => []
    | fuel + 1, t =>
      let isBlank (c : Char) : Bool := c = ' ' || c = '\t' || c = '\n'
      let blanks := t.takeWhile isBlank
      let word := (t.drop blanks.length).takeWhile (!isBlank ·)
      let field := blanks ++ word
      match t.drop field.length with
      | [] => [field]
      | _ :: rest => field :: go fuel rest

/-- Writes a line with numbers in other units, and tells if all of them are valid; nothing if the tool
stops. -/
def writeLine (w : Wish) (line : Text) (ends : Bool) : Task (Option Bool) := do
  let fields := fieldsOf w.delimiter line
  let mut isValid := true
  for (field, i) in fields.zip (List.range fields.length) do
    if 0 < i then print [w.delimiter.getD ' ']
    if w.fields.any (·.holds (i + 1)) then
      match w.converted (i + 1) field with
      | .ok (t, isInexact) =>
        if isInexact && w.isTalkative then
          complain ("large input value ".toList ++ Quoting.word field ++
            ": possible precision loss".toList)
        print t
      | .error (message, field) =>
        isValid := false
        unless w.leniency = .ignores do complain message
        if w.leniency = .stops then return none
        print field
    else print field
  if ends then emit [w.ending]
  return some isValid

end Rescaling

/-- Gives numbers other units. -/
def numfmt (given : Given) (operands : List Text) : Task Int := do
  match Rescaling.Wish.ofGiven given with
  | .error misuse => misuse.refuse 1
  | .ok w =>
    let isIdle := w.source = .plain ∧ w.target = .plain ∧ ¬ given.has "grouping" ∧
      ¬ given.has "padding" ∧ ¬ given.has "format"
    if w.isTalkative ∧ isIdle then complain "no conversion option specified".toList
    if w.isTalkative ∧ given.has "grouping" then
      complain "grouping has no effect in this locale".toList
    let failure : Int := 2
    let finish (isValid : Bool) : Task Int := do
      if w.isTalkative ∧ ¬ isValid then
        complain "failed to convert some of the input numbers".toList
      return if isValid || w.leniency = .warns || w.leniency = .ignores then 0 else failure
    if operands.isEmpty then
      let useLine (state : Nat × Bool) (line : List UInt8) (ends : Bool) :
          Task (Except (Nat × Bool) (Nat × Bool)) := do
        let (header, isValid) := state
        if header ≠ 0 then
          emit (if ends then line ++ [w.ending] else line)
          return .ok (header - 1, isValid)
        match ← Rescaling.writeLine w (Raw.ofBytes line) ends with
        | none => return .error (0, false)
        | some isLineValid => return .ok (0, isValid && isLineValid)
      match ← eachLine 0 w.ending useLine (w.header, true) with
      | .ok (.ok (_, isValid)) => finish isValid
      | .ok (.error _) => return failure
      | .error fault =>
        complain ("error reading input: ".toList ++ fault.message)
        finish true
    else
      if w.isTalkative ∧ w.header ≠ 0 then
        complain "--header ignored with command-line input".toList
      let mut isValid := true
      for operand in operands do
        match ← Rescaling.writeLine w operand true with
        | none => return failure
        | some isLineValid => isValid := isValid && isLineValid
      finish isValid

end LineShell.Sh.Tool
