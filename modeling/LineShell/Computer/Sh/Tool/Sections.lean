import LineShell.Computer.Search.Syntax
import LineShell.Computer.Sh.Format
import LineShell.Computer.Sh.Tool.Entries

/-!
# The tool that cuts a file at lines

The lines of a file are put into several files.  A new one begins at a line with a given number, or at
the next line that an expression fits, or some lines away from it.
-/

namespace LineShell.Sh.Tool

namespace Sections

/-- How the tool takes options. -/
def usage : Usage :=
  .free (OptionForm.valuedFlags [('b', "suffix-format"), ('f', "prefix")] ++
    OptionForm.flags [('k', "keep-files")] ++ OptionForm.valuedFlags [('n', "digits")] ++
    OptionForm.flags [('q', "quiet"), ('s', "silent"), ('z', "elide-empty-files")] ++
    OptionForm.names ["suppress-matched"])

/-- Where the file is cut. -/
inductive Place where
  /-- At a line with a number. -/
  | line (n : Nat)
  /-- Some lines away from the next one that an expression fits; the lines before may be left out. -/
  | fitting (e : Search.Expression) (offset : Int) (isLeftOut : Bool)

/-- How often a place is sought again. -/
inductive Repetition where
  | times (n : Nat)
  | always

/-- A place with its text, and how often it is sought. -/
structure Cut where
  text : Text
  place : Place
  repetition : Repetition

/-- The number of times that a text in braces names. -/
def repetitionOf (t : Text) : Except Text Repetition :=
  if t.getLast? ≠ some '\x7d' then
    .error (Quoting.word t ++ ": '\x7d' is required in repeat count".toList)
  else
    let inner := t.drop 1 |>.dropLast
    if inner = ['*'] then .ok .always
    else
      match LeadingInteger.ofText? false inner with
      | some i =>
        if i.left.isEmpty && 0 ≤ i.value && i.isHeld then .ok (.times i.value.toNat)
        else .error (Quoting.word t.dropLast ++ "\x7d: integer required between '\x7b' and '\x7d'".toList)
      | none =>
        .error (Quoting.word t.dropLast ++ "\x7d: integer required between '\x7b' and '\x7d'".toList)

/-- The place that a text between signs names. -/
def matchOf (sign : Char) (t : Text) : Except Text Place := do
  let behind := t.reverse.takeWhile (· ≠ sign)
  if behind.length = t.length then
    throw (sign :: t ++ ": closing delimiter '".toList ++ [sign] ++ "' missing".toList)
  let expression := t.take (t.length - behind.length - 1)
  let quoted := Quoting.word (sign :: t)
  let e ← match Search.compile .basic (Search.symbols expression).toList with
    | .ok compiled => pure compiled.expression
    | .error fault => throw (quoted ++ ": invalid regular expression: ".toList ++ fault.message.toList)
  let offset ← match behind.reverse with
    | [] => pure 0
    | number =>
      match LeadingInteger.ofText? false number with
      | some i =>
        if i.left.isEmpty && i.isHeld then pure i.value
        else throw (quoted ++ ": integer expected after delimiter".toList)
      | none => throw (quoted ++ ": integer expected after delimiter".toList)
  return .fitting e offset (sign = '%')

/-- The places that texts name; `last` is the number of the line of the last place that is a line. -/
def cutsOf (last : Nat) : List Text → Task (Except Text (List Cut))
  | [] => return .ok []
  | t :: rest => do
    let place : Except Text Place := match t with
      | '/' :: more => matchOf '/' more
      | '%' :: more => matchOf '%' more
      | _ =>
        match LeadingInteger.ofText? false t with
        | some i =>
          if !i.left.isEmpty || i.value < 0 || !i.isHeld || (t.dropWhile isSpace).head? = some '-' then
            .error (Quoting.word t ++ ": invalid pattern".toList)
          else if i.value = 0 then .error (t ++ ": line number must be greater than zero".toList)
          else if i.value < last then
            .error ("line number ".toList ++ Quoting.word t ++
              " is smaller than preceding line number, ".toList ++ numeral last)
          else .ok (.line i.value.toNat)
        | none => .error (Quoting.word t ++ ": invalid pattern".toList)
    match place with
    | .error message => return .error message
    | .ok place =>
      let next := match place with
        | .line n => n
        | .fitting .. => last
      if let .line n := place then
        if n = last then
          complain ("warning: line number ".toList ++ Quoting.word t ++
            " is the same as preceding line number".toList)
      match rest with
      | count@('\x7b' :: _) :: rest =>
        match repetitionOf count with
        | .error message => return .error message
        | .ok repetition =>
          return (← cutsOf next rest).map (⟨t, place, repetition⟩ :: ·)
      | rest => return (← cutsOf next rest).map (⟨t, place, .times 0⟩ :: ·)

/-- How the ends of names are written. -/
inductive Ending where
  | digits (n : Nat)
  /-- As a directive says, which stands between two texts. -/
  | directive (front flags : Text) (width : Nat) (precision : Option Nat) (letter : Char) (behind : Text)

/-- The end of the name of a file. -/
def Ending.written (e : Ending) (n : Nat) : Text :=
  match e with
  | .digits width => paddedNumeral width n
  | .directive front flags width precision letter behind =>
    front ++ Format.integer flags width precision letter n ++ behind

/-- A text in which two percent signs stand for one, as far as the next directive, and what follows. -/
def plainPart : (fuel : Nat) → Text → Text × Text
  | 0, _ => ([], [])
  | fuel + 1, t =>
    match t with
    | [] => ([], [])
    | '%' :: '%' :: rest =>
      let (front, rest) := plainPart fuel rest
      ('%' :: front, rest)
    | '%' :: rest => ([], '%' :: rest)
    | c :: rest =>
      let (front, rest) := plainPart fuel rest
      (c :: front, rest)

/-- How the ends of names are written that a pattern describes. -/
def Ending.ofText (t : Text) : Except Text Ending := do
  let fuel := t.length + 1
  let (front, rest) := plainPart fuel t
  match rest with
  | [] => throw "missing % conversion specification in suffix".toList
  | _ :: rest =>
    let flags := rest.takeWhile fun c => "'-0#".toList.contains c
    let rest := rest.drop flags.length
    let width := rest.takeWhile Char.isDigit
    let (precision, rest) : Option Nat × Text := match rest.drop width.length with
      | '.' :: more =>
        let digits := more.takeWhile Char.isDigit
        (some (digitsValue digits), more.drop digits.length)
      | rest => (none, rest)
    match rest with
    | [] => throw "missing conversion specifier in suffix".toList
    | c :: rest =>
      let bad (sign : Char) : Text :=
        "invalid flags in conversion specification: %".toList ++ [sign, c]
      if ¬ "diuoxX".toList.contains c then
        let shown := if ' ' ≤ c ∧ c ≤ '~' then [c] else
          '\\' :: List.replicate (3 - (Nat.toDigits 8 c.toNat).length) '0' ++ Nat.toDigits 8 c.toNat
        throw ("invalid conversion specifier in suffix: ".toList ++ shown)
      let isDecimal := c = 'd' ∨ c = 'i' ∨ c = 'u'
      if isDecimal ∧ flags.contains '#' then throw (bad '#')
      if ¬ isDecimal ∧ flags.contains '\'' then throw (bad '\'')
      let (behind, more) := plainPart fuel rest
      if ¬ more.isEmpty then throw "too many % conversion specifications in suffix".toList
      let letter := if c = 'u' then 'd' else c
      return .directive front (flags.filter (· ≠ '\'')) (digitsValue width) precision letter behind

/-- What is asked for. -/
structure Wish where
  front : Text
  ending : Ending
  keepsFiles : Bool
  isQuiet : Bool
  dropsEmpty : Bool
  /-- The line at a place is left out. -/
  dropsMatched : Bool

/-- What options ask for. -/
def Wish.ofGiven (given : Given) : Except Text Wish := do
  let digits ← (given.values "n").mapM fun t =>
    match LeadingInteger.ofText? false t with
    | some i =>
      if i.left.isEmpty && 0 ≤ i.value && i.value ≤ 2147483647 then .ok i.value.toNat
      else if i.left.isEmpty then
        .error ("invalid number: ".toList ++ Quoting.word t ++
          (if i.isHeld && i.value < 0 then ": Numerical result out of range"
            else ": Value too large for defined data type").toList)
      else .error ("invalid number: ".toList ++ Quoting.word t)
    | none => .error ("invalid number: ".toList ++ Quoting.word t)
  return {
    front := (given.value? "f").getD "xx".toList
    ending := ← match given.value? "b" with
      | some t => Ending.ofText t
      | none => pure (.digits (digits.getLastD 2))
    keepsFiles := given.has "k"
    isQuiet := given.hasAny "sq"
    dropsEmpty := given.has "z"
    dropsMatched := given.has "suppress-matched" }

/-- A file that is being written. -/
structure Section where
  path : Text
  /-- The lines that belong to it, the last one first. -/
  lines : List (List UInt8)

/-- What has been done so far. -/
structure Progress where
  /-- All lines of the input, with what ends them. -/
  lines : Array (List UInt8)
  /-- How many of them have been taken. -/
  taken : Nat
  /-- The number of the line that was looked at last. -/
  current : Nat
  /-- How many files there are. -/
  created : Nat
  isOpen : Option Section

/-- Work that goes on until it stops with an exit code. -/
abbrev Run := ExceptT Int (StateT Progress Task)

/-- Does a task. -/
def ofTask {α : Type} (task : Task α) : Run α :=
  liftM (m := StateT Progress Task) (liftM (m := Task) task)

/-- The name of a file. -/
def Wish.path (w : Wish) (n : Nat) : Text :=
  w.front ++ w.ending.written n

/-- Removes a file, if it is there. -/
def removeFile (path : Text) : Task Unit := do
  match ← alter fun files directory now => files.remove directory path now with
  | .ok () => pure ()
  | .error .missing => pure ()
  | .error fault => complainAbout path fault

/-- Removes all files, unless they are to be kept. -/
def removeFiles (w : Wish) : Run Unit := do
  unless w.keepsFiles do
    for i in List.range (← get).created do
      ofTask (removeFile (w.path i))
  modify fun p => { p with created := 0 }

/-- Ends the file that is being written. -/
def closeFile (w : Wish) : Run Unit := do
  let p ← get
  match p.isOpen with
  | none => return ()
  | some s =>
    set { p with isOpen := none }
    let bytes := s.lines.reverse.flatten
    if bytes.isEmpty && w.dropsEmpty then
      ofTask (removeFile s.path)
      modify fun p => { p with created := p.created - 1 }
    else
      let _ ← ofTask (writeTo { writes := true } s.path bytes)
      unless w.isQuiet do ofTask (printLine (numeral bytes.length))

/-- Ends with a failure, after the files have been removed. -/
def failCleanly {α : Type} (w : Wish) : Run α := do
  closeFile w
  removeFiles w
  throw 1

/-- Begins a file. -/
def openFile (w : Wish) : Run Unit := do
  let path := w.path (← get).created
  match ← ofTask (writeTo .output path []) with
  | .ok () => modify fun p => { p with created := p.created + 1, isOpen := some ⟨path, []⟩ }
  | .error fault =>
    ofTask (complainAbout path fault)
    failCleanly w

/-- Takes the next line, if there is one. -/
def takeLine : Run (Option (List UInt8)) := do
  let p ← get
  match p.lines[p.taken]? with
  | none => return none
  | some line =>
    set { p with taken := p.taken + 1, current := max p.current (p.taken + 1) }
    return some line

/-- Adds a line to the file that is being written. -/
def save (line : List UInt8) : Run Unit :=
  modify fun p => { p with isOpen := p.isOpen.map fun s => { s with lines := line :: s.lines } }

/-- Adds all lines that are left to the file that is being written. -/
def saveRest : Run Unit :=
  modify fun p =>
    let rest := (p.lines.extract p.taken p.lines.size).toList.reverse
    { p with
      taken := p.lines.size
      current := max p.current p.lines.size
      isOpen := p.isOpen.map fun s => { s with lines := rest ++ s.lines } }

/-- The number of the first line that has not been taken. -/
def firstLine : Run Nat := do
  let p ← get
  if p.taken < p.lines.size then return p.taken + 1
  ofTask (complain "input disappeared".toList)
  throw 1

/-- The line that would be looked at next is not there. -/
def isAtEnd : Run Bool := do
  let p ← get
  return p.lines.size ≤ p.current

/-- Fails with a message about something that was sought for the given time. -/
def failSeeking {α : Type} (w : Wish) (message : Text) (repetition : Nat) (keepsRest : Bool) :
    Run α := do
  let times := if repetition = 0 then [] else " on repetition ".toList ++ numeral repetition
  ofTask (complain (message ++ times))
  if keepsRest then
    saveRest
    closeFile w
  failCleanly w

/-- Puts the lines up to one with a number into a file. -/
def cutAtLine (w : Wish) (n repetition : Nat) : Run Unit := do
  let fail : Run Unit :=
    failSeeking w (Quoting.word (numeral n) ++ ": line number out of range".toList) repetition false
  openFile w
  if w.dropsMatched then
    if ← isAtEnd then fail
  let first ← firstLine
  for _ in List.range (n * (repetition + 1) - first) do
    match ← takeLine with
    | some line => save line
    | none => fail
  closeFile w
  if w.dropsMatched then
    let _ ← takeLine
  else if ← isAtEnd then fail

/-- Looks for the next line that an expression fits, and tells if there is one.  Lines that it does not
fit are put into the file, if so told. -/
def seek (e : Search.Expression) (takes isLeftOut : Bool) : (fuel : Nat) → Run Bool
  | 0 => return false
  | fuel + 1 => do
    let p ← get
    set { p with current := p.current + 1 }
    match p.lines[p.current]? with
    | none => return false
    | some line =>
      let t := Raw.ofBytes (if line.getLast? = some newline then line.dropLast else line)
      let subject : Search.Subject := ⟨Search.symbols t, false, false, false⟩
      if (e.search subject 0).isSome then return true
      if takes then
        if let some line ← takeLine then
          unless isLeftOut do save line
      seek e takes isLeftOut fuel

/-- Takes the lines before one with a number. -/
def takeUpTo (w : Wish) (text : Text) (isLeftOut : Bool) (stop : Int) : Run Unit := do
  let outOfRange : Run Unit := do
    ofTask (complain (Quoting.word text ++ ": line number out of range".toList))
    failCleanly w
  let first ← firstLine
  if stop < first then outOfRange
  for _ in List.range (stop - first).toNat do
    match ← takeLine with
    | some line => unless isLeftOut do save line
    | none => outOfRange

/-- Puts the lines up to one that an expression fits into a file. -/
def cutAtMatch (w : Wish) (cut : Cut) (e : Search.Expression) (offset : Int) (isLeftOut : Bool)
    (repetition : Nat) : Run Unit := do
  unless isLeftOut do openFile w
  let isFound ← seek e (0 ≤ offset) isLeftOut ((← get).lines.size + 1)
  unless isFound do
    match cut.repetition with
    | .always =>
      unless isLeftOut do
        saveRest
        closeFile w
      throw 0
    | .times _ =>
      failSeeking w (Quoting.word cut.text ++ ": match not found".toList) repetition (!isLeftOut)
  let stop := ((← get).current : Int) + offset
  takeUpTo w cut.text isLeftOut stop
  unless isLeftOut do closeFile w
  if w.dropsMatched then
    let _ ← takeLine
  if 0 < offset then modify fun p => { p with current := stop.toNat }

/-- Cuts the file at all places. -/
def cutAll (w : Wish) (cuts : List Cut) : Run Int := do
  let size := (← get).lines.size
  for cut in cuts do
    let times := match cut.repetition with
      | .times n => n + 1
      | .always => size + 2
    for repetition in List.range times do
      match cut.place with
      | .line n => cutAtLine w n repetition
      | .fitting e offset isLeftOut => cutAtMatch w cut e offset isLeftOut repetition
  openFile w
  saveRest
  closeFile w
  return 0

/-- The lines of some bytes, each with what ends it. -/
def linesOf (bytes : List UInt8) : Array (List UInt8) :=
  let ls := lines bytes
  let isWhole := bytes.getLast? = some newline
  ((ls.zip (List.range ls.length)).map fun (l, i) =>
    if i + 1 = ls.length ∧ ¬ isWhole then l else l ++ [newline]).toArray

end Sections

/-- Cuts a file at lines. -/
def csplit (given : Given) (operands : List Text) : Task Int := do
  match Sections.Wish.ofGiven given, operands with
  | .error message, _ =>
    complain message
    return 1
  | .ok _, [] => refuse "missing operand".toList 1
  | .ok _, [path] => refuse ("missing operand after ".toList ++ Quoting.word path) 1
  | .ok w, path :: texts =>
    let opened ← withInput path fun descriptor => do
      match ← Sections.cutsOf 0 texts with
      | .error message =>
        complain message
        return (1 : Int)
      | .ok cuts =>
        match ← Task.takeAll descriptor with
        | .ok bytes =>
          let progress : Sections.Progress := ⟨Sections.linesOf bytes, 0, 0, 0, none⟩
          match (← (Sections.cutAll w cuts).run.run progress).1 with
          | .ok status => return status
          | .error status => return status
        | .error fault =>
          let isBegun : Bool := match cuts with
            | ⟨_, .fitting _ _ true, _⟩ :: _ => false
            | _ => true
          if isBegun && !w.isQuiet && !w.dropsEmpty then printLine ['0']
          complain ("read error: ".toList ++ fault.message)
          return 1
    match opened with
    | .ok status => return status
    | .error fault =>
      complain ("cannot open ".toList ++ Quoting.always path ++ " for reading: ".toList ++ fault.message)
      return 1

end LineShell.Sh.Tool
