import LineShell.Computer.Search.Syntax
import LineShell.Computer.Sh.Pattern
import LineShell.Computer.Sh.Tool.Entries
import LineShell.Computer.Sh.Tool.Options
import LineShell.Computer.Sh.Tool.Size

/-!
# The tool that searches files

Lines are selected if one of several expressions is found in them, or if none is.  Selected lines
are shown with those around them, or only what was found, or only counted.
-/

namespace LineShell.Sh.Tool

open Search

/-- How `grep` takes options. -/
def grepForms : List OptionForm :=
  OptionForm.flags [('E', "extended-regexp"), ('F', "fixed-strings"), ('G', "basic-regexp"),
      ('P', "perl-regexp"), ('i', "ignore-case"), ('w', "word-regexp"), ('x', "line-regexp"),
      ('z', "null-data"), ('s', "no-messages"), ('v', "invert-match"), ('b', "byte-offset"),
      ('n', "line-number"), ('H', "with-filename"), ('h', "no-filename"), ('o', "only-matching"),
      ('q', "quiet"), ('a', "text"), ('r', "recursive"), ('R', "dereference-recursive"),
      ('L', "files-without-match"), ('l', "files-with-matches"), ('c', "count"),
      ('T', "initial-tab"), ('Z', "null"), ('U', "binary")] ++
    OptionForm.letters "yIu0123456789" ++
    OptionForm.names ["no-ignore-case", "silent", "line-buffered", "no-group-separator"] ++
    OptionForm.valuedFlags [('e', "regexp"), ('f', "file"), ('m', "max-count"),
      ('d', "directories"), ('D', "devices"), ('A', "after-context"), ('B', "before-context"),
      ('C', "context")] ++
    OptionForm.valuedNames ["label", "binary-files", "include", "exclude", "exclude-from",
      "exclude-dir", "group-separator"] ++
    [⟨none, some "color", .perhaps⟩, ⟨none, some "colour", .perhaps⟩]

/-- What lines are selected by. -/
structure Criterion where
  expressions : List Expression
  ignoresCase : Bool
  /-- Only matches that are whole words count. -/
  takesWords : Bool
  /-- Only matches that are whole lines count. -/
  takesLines : Bool
  /-- Of several ways to match the first one counts, not the longest. -/
  takesFirst : Bool

namespace Criterion

/-- The better one of two matches: the one that begins earlier, or else the longer one. -/
def better (a b : Found) : Found :=
  if b.first < a.first || (b.first = a.first && a.last < b.last) then b else a

/-- The longest match at a position that is a whole word. -/
def wordAt? (c : Criterion) (s : Subject) (i : Nat) : Option Found :=
  if i ≠ 0 && s.isWordAt (i - 1) then none
  else
    let ends := c.expressions.flatMap fun e => s.ends e.looksBack e ⟨i, []⟩
    let whole := ends.filter fun p => !s.isWordAt p.position
    whole.foldl (fun best p =>
      let found : Found := ⟨i, p.position, p.groups⟩
      some (match best with
        | none => found
        | some b => better b found)) none

/-- The first match from a position on that is a whole word, among at most `fuel` positions. -/
def wordFrom? (c : Criterion) (s : Subject) : (fuel : Nat) → (i : Nat) → Option Found
  | 0, _ => none
  | fuel + 1, i =>
    match c.wordAt? s i with
    | some found => some found
    | none => c.wordFrom? s fuel (i + 1)

/-- An expression describes a whole text. -/
def describes (s : Subject) (e : Expression) : Bool :=
  (s.ends e.looksBack e ⟨0, []⟩).any fun p => p.position = s.text.size

/-- The first match from a position on. -/
def find? (c : Criterion) (s : Subject) (i : Nat) : Option Found :=
  if c.takesLines then
    if i = 0 && c.expressions.any (describes s) then some ⟨0, s.text.size, []⟩ else none
  else if c.takesWords then c.wordFrom? s (s.text.size + 1 - i) i
  else
    (c.expressions.filterMap fun e => e.search s i).foldl (fun best found =>
      some (match best with
        | none => found
        | some b => better b found)) none

/-- All matches from a position on that are not empty, at most as many as given. -/
def all (c : Criterion) (s : Subject) : (fuel : Nat) → (i : Nat) → List Found
  | 0, _ => []
  | fuel + 1, i =>
    match c.find? s i with
    | none => []
    | some found =>
      if found.first = found.last then
        if found.first < s.text.size then c.all s fuel (found.first + 1) else []
      else found :: c.all s fuel found.last

/-- What is searched when a line is. -/
def subject (c : Criterion) (line : Text) : Subject :=
  ⟨symbols line, c.ignoresCase, false, c.takesFirst⟩

end Criterion

/-- What is shown of files in which something is searched. -/
inductive Answer where
  | lines
  /-- What was found, each on a line of its own. -/
  | matched
  | count
  /-- The names of files with selected lines. -/
  | namesWith
  /-- The names of files without selected lines. -/
  | namesWithout
  /-- Nothing but the exit code. -/
  | nothing
deriving DecidableEq, Repr

/-- How files are searched. -/
structure Hunt where
  criterion : Criterion
  answer : Answer
  given : Given
  /-- Lines without a match are selected. -/
  isInverted : Bool
  /-- How many lines are shown before and after a selected one; nothing if only that is. -/
  around : Option (Nat × Nat)
  most : Option Nat
  isColored : Bool
  ending : UInt8
  /-- Whether files with bytes that are no text are shown, told of, or passed over. -/
  binary : String

/-- How far the lines of a file have been searched. -/
structure Progress where
  /-- The name of the file in front of lines, if it is shown. -/
  name : Option Text
  /-- How many digits the numbers in front of lines have at most, if those are aligned. -/
  digits : Nat
  /-- How many lines there were. -/
  lineNumber : Nat
  offset : Nat
  /-- The lines that may be shown before a selected one, last one first, with their numbers and
  offsets. -/
  before : List (Nat × Nat × Text)
  /-- How many lines are still shown after a selected one. -/
  after : Nat
  /-- How many bytes there were since the last selected line. -/
  beyond : Nat
  selected : Nat
  /-- The number of the last line that was shown. -/
  shown : Option Nat
  /-- Some of the bytes are no text. -/
  isBinary : Bool
  /-- A line was not shown since it is no text. -/
  isMalformed : Bool
  /-- As many lines as wanted have been selected. -/
  isFull : Bool

namespace Hunt

/-- A text in a color. -/
def colored (h : Hunt) (color : String) (t : Text) : Text :=
  if h.isColored then
    "\x1b[".toList ++ color.toList ++ "m\x1b[K".toList ++ t ++ "\x1b[m\x1b[K".toList
  else t

/-- What separates the parts in front of a line. -/
def separator (h : Hunt) (c : Char) : Text := h.colored "36" [c]

/-- The name of a file in front of a line or a number, with what separates them. -/
def nameFront (h : Hunt) (name : Option Text) (c : Char) : Text :=
  match name with
  | none => []
  | some t => h.colored "35" t ++ if h.given.has "Z" then ['\x00'] else h.separator c

/-- What stands in front of a line. -/
def front (h : Hunt) (p : Progress) (number offset : Nat) (c : Char) : Text :=
  let isAligned := h.given.has "T"
  let counted (n : Nat) : Text :=
    let t := numeral n
    (if isAligned then List.replicate (p.digits - t.length) ' ' else []) ++ t
  let head := h.nameFront p.name c ++
    (if h.given.has "n" then
      h.colored "32" (counted number) ++ h.separator c else []) ++
    (if h.given.has "b" then h.colored "32" (counted offset) ++ h.separator c else [])
  if isAligned && !head.isEmpty then head ++ ['\t'] else head

/-- The line is no text. -/
def isMalformed (h : Hunt) (line : Text) : Bool :=
  h.binary ≠ "text" && (Raw.units line).any fun unit => unit.2.isNone

/-- A line with the colored parts in it that were found. -/
def withColors (h : Hunt) (s : Subject) : (i : Nat) → List Found → Text
  | i, [] => between s i s.text.size
  | i, f :: fs => between s i f.first ++ h.colored "01;31" (between s f.first f.last) ++
      h.withColors s f.last fs
where
  /-- The text between two positions. -/
  between (s : Subject) (i j : Nat) : Text := (s.text.extract i j).toList.flatMap textOf

/-- Shows a line, as a selected one or as one around it. -/
def showLine (h : Hunt) (p : Progress) (number offset : Nat) (line : Text) (isSelected : Bool) :
    Task Progress := do
  let mark := if isSelected then ':' else '-'
  let isGap := match p.shown with
    | some last => last + 1 < number
    | none => false
  let p := { p with shown := some number }
  if isGap && h.around.isSome && !h.given.has "no-group-separator" then
    print (h.colored "36" ((h.given.value? "group-separator").getD "--".toList) ++ ['\n'])
  let s := h.criterion.subject line
  let found := if (h.answer = .matched || h.isColored) && isSelected != h.isInverted then
    h.criterion.all s (s.text.size + 1) 0 else []
  if h.answer = .matched then
    for f in if isSelected then found else [] do
      let lead := Hunt.withColors.between s 0 f.first
      let t := Hunt.withColors.between s f.first f.last
      print (h.front p number (offset + lead.length) mark ++ h.colored "01;31" t)
      emit [h.ending]
    return p
  if h.isMalformed line then return { p with isMalformed := true }
  print (h.front p number offset mark ++ if found.isEmpty then line else h.withColors s 0 found)
  emit [h.ending]
  return p

/-- Shows the lines before a selected one. -/
def showBefore (h : Hunt) : List (Nat × Nat × Text) → Progress → Task Progress
  | [], p => return p
  | (number, offset, line) :: rest, p => do
    let p ← h.showLine p number offset line false
    h.showBefore rest p

/-- Deals with a line, and tells by an error that the others do not matter. -/
def useLine (h : Hunt) (p : Progress) (bytes : List UInt8) (isWhole : Bool) :
    Task (Except Progress Progress) := do
  let line := Raw.ofBytes bytes
  let number := p.lineNumber + 1
  let offset := p.offset
  let size := bytes.length + if isWhole then 1 else 0
  let p := { p with lineNumber := number, offset := offset + size }
  let isFound := !p.isFull && (h.criterion.find? (h.criterion.subject line) 0).isSome
  if !p.isFull && isFound != h.isInverted then
    let p := { p with selected := p.selected + 1, beyond := 0 }
    let isFull := h.most = some p.selected
    let isSilent := p.isBinary || [Answer.namesWith, .namesWithout, .nothing].contains h.answer
    if h.answer = .count then return if isFull then .error p else .ok p
    if isSilent then return .error p
    let p ← h.showBefore p.before.reverse { p with before := [] }
    let p ← h.showLine p number offset line true
    let after := (h.around.map Prod.snd).getD 0
    let p := { p with after, isFull }
    return if isFull && after = 0 then .error p else .ok p
  let p := { p with beyond := p.beyond + size }
  if 0 < p.after then
    let p ← h.showLine p number offset line false
    let p := { p with after := p.after - 1 }
    return if p.isFull && p.after = 0 then .error p else .ok p
  let kept := (h.around.map Prod.fst).getD 0
  return .ok { p with before := ((number, offset, line) :: p.before).take kept }

/-- The name under which an input is told of. -/
def inputName (h : Hunt) (path : Text) : Text :=
  if path = ['-'] then (h.given.value? "label").getD "(standard input)".toList else path

/-- The size of the file to which a descriptor is connected. -/
def sizeOf? (descriptor : Nat) : Task (Option Nat) := do
  match ← Task.channel? descriptor with
  | some (.file id ..) => return ((← Task.files).node? id).map Node.size
  | _ => return none

/-- Searches what a descriptor is connected to, and gives the number of selected lines. -/
def searchInput (h : Hunt) (isNamed : Bool) (path : Text) (descriptor : Nat) :
    Task (Except FileFault Nat) := do
  let name := h.inputName path
  let look (p : Progress) (bytes : List UInt8) : Progress :=
    if h.binary ≠ "text" && h.ending ≠ 0 && bytes.contains 0 then { p with isBinary := true } else p
  let size? ← sizeOf? descriptor
  let digits := match size? with
    | some n => (numeral (if h.given.has "n" then n + 1 else n)).length
    | none => 20
  let start : Progress :=
    ⟨if isNamed then some name else none, digits, 0, 0, [], 0, 0, 0, none, false, false, false⟩
  match ← eachLineSeen look descriptor h.ending h.useLine start with
  | .error fault => return .error fault
  | .ok result =>
    let p := match result with
      | .ok p => p
      | .error p => p
    if h.most = some p.selected then Task.giveBack descriptor p.beyond
    else if let .error _ := result then
      if ← Task.readsFile descriptor then
        let _ ← Task.take descriptor Task.blockSize
    let selected := if p.isBinary && h.binary = "without-match" then 0 else p.selected
    match h.answer with
    | .count =>
      print (h.nameFront p.name ':' ++ numeral selected ++ ['\n'])
    | .namesWith =>
      if selected ≠ 0 then
        print (h.colored "35" name ++ [if h.given.has "Z" then '\x00' else '\n'])
    | .namesWithout =>
      if selected = 0 then
        print (h.colored "35" name ++ [if h.given.has "Z" then '\x00' else '\n'])
    | .nothing => pure ()
    | _ =>
      if h.binary = "binary" && (p.isMalformed || (p.isBinary && selected ≠ 0)) then
        complain (name ++ ": binary file matches".toList)
    return .ok selected

/-- A descriptor is connected to the file that the tool writes to. -/
def isOutput (descriptor : Nat) : Task Bool := do
  match ← Task.channel? descriptor, ← Task.channel? 1 with
  | some (.file id ..), some (.file id' ..) => return id = id'
  | _, _ => return false

/-- What has been searched so far: whether a line was selected, and whether there was a fault. -/
abbrev Outcome := Bool × Bool

/-- Searches the file at a path. -/
def searchFile (h : Hunt) (isNamed : Bool) (path : Text) (o : Outcome) : Task Outcome := do
  if h.answer = .nothing && o.1 then return o
  let isLoud := !h.given.has "s"
  let use (descriptor : Nat) : Task (Except FileFault (Option Nat)) := do
    let isShown := h.answer = .lines || h.answer = .matched
    if isShown && h.most ≠ some 1 && (← isOutput descriptor) then
      if isLoud then complain (h.inputName path ++ ": input file is also the output".toList)
      return .ok none
    return (← h.searchInput isNamed path descriptor).map some
  match (← withInput path use).bind id with
  | .ok (some n) => return (o.1 || n ≠ 0, o.2)
  | .ok none => return (o.1, true)
  | .error fault =>
    if isLoud then complain (h.inputName path ++ ": ".toList ++ fault.message)
    return (o.1, true)

/-- A name is passed over. -/
def isExcluded (h : Hunt) (isDirectory : Bool) (path : Text) : Bool :=
  let fits (pattern : Text) : Bool :=
    let pattern := if isDirectory then Path.bare pattern else pattern
    let p := Pattern.ofGlyphs .fileNames (Glyph.plain pattern)
    p.isMatch path || p.isMatch (Path.lastName path)
  if isDirectory then (h.given.values "exclude-dir").any fits
  else
    let rules := h.given.filter fun entry => entry.1 = "include" || entry.1 = "exclude"
    match rules.reverse.find? fun entry => fits entry.2 with
    | some entry => entry.1 = "exclude"
    | none => rules.head?.any (·.1 = "include")

/-- Searches files and what is in directories, as deeply as given. -/
def searchTree (h : Hunt) (isNamed : Option Bool) (isTop : Bool) :
    (fuel : Nat) → Text → Outcome → Task Outcome
  | 0, _, o => return o
  | fuel + 1, path, o => do
    let followsAll := h.given.has "R"
    match ← look (isTop || followsAll) path with
    | .error fault =>
      unless h.given.has "s" do complain (path ++ ": ".toList ++ fault.message)
      return (o.1, true)
    | .ok (id, node) =>
      match node.kind with
      | .directory .. =>
        if h.isExcluded true path then return o
        let mut outcome := o
        let entries ← match (← Task.files).listed id with
          | .ok entries => pure entries
          | .error fault =>
            unless h.given.has "s" do complain (path ++ ": ".toList ++ fault.message)
            return (o.1, true)
        for (name, _) in entries do
          let inner := if path = [] then name else Path.join path name
          outcome ← h.searchTree (some (isNamed.getD true)) false fuel inner outcome
        return outcome
      | .link _ => return o
      | .file _ =>
        if h.isExcluded false path then return o
        h.searchFile (isNamed.getD false) path o
      | _ => if isTop then h.searchFile (isNamed.getD false) path o else return o

end Hunt

/-- How expressions are written, by the options. -/
inductive Matcher where
  | written (d : Dialect)
  | asIs

/-- The lines of a text with several expressions. -/
def expressionLines (t : Text) : List Text := pieces '\n' t

/-- An expression that describes one text. -/
def exactly (t : Text) : Expression :=
  match (symbols t).toList with
  | [] => .empty
  | a :: rest => rest.foldl (fun e b => .inOrder e (.literal b)) (.literal a)

/-- The numbers of lines around selected ones, if options ask for them, or what is wrong. -/
def aroundOf (given : Given) : Except Text (Option (Nat × Nat)) := do
  let number (key : String) : Except Text (Option Nat) :=
    match given.value? key with
    | none => .ok none
    | some t =>
      match wholeInteger? false t with
      | some n =>
        if 0 ≤ n then .ok (some n.toNat) else .error (t ++ ": invalid context length argument".toList)
      | none => .error (t ++ ": invalid context length argument".toList)
  let digits := (given.filter fun entry => entry.1.toList.all Char.isDigit && entry.1.length = 1).map
    fun entry => entry.1.toList.headD '0'
  let both ← number "C"
  let both := if digits.isEmpty then both else some (digitsValue digits)
  let before ← number "B"
  let after ← number "A"
  match before, after, both with
  | none, none, none => return none
  | before, after, both => return some ((before <|> both).getD 0, (after <|> both).getD 0)

/-- Complains of a call without what is needed. -/
def misuseSearch : Task Int := do
  Task.print 2 "Usage: grep [OPTION]... PATTERNS [FILE]...\n".toList
  Task.print 2 "Try 'grep --help' for more information.\n".toList
  return 2

/-- The way in which expressions are written, or what is wrong. -/
def matcherOf (given : Given) : Except Text Matcher :=
  let asked := (given.filterMap fun entry => "EFGP".toList.find? fun c =>
    entry.1 = String.singleton c).eraseDups
  match asked with
  | [] => .ok (.written .basic)
  | ['G'] => .ok (.written .basic)
  | ['E'] => .ok (.written .lenient)
  | ['F'] => .ok .asIs
  | ['P'] => .ok (.written .rich)
  | _ => .error "conflicting matchers specified".toList

/-- The expressions that options and operands name, the operands that are left, and whether there
are any expressions at all. -/
def expressionsOf (given : Given) (operands : List Text) :
    Task (Except Text (Option (List Text × List Text))) := do
  if given.has "e" || given.has "f" then
    let mut found := []
    for (key, value) in given do
      if key = "e" then found := found ++ expressionLines value
      else if key = "f" then
        match ← bytesOf value with
        | .error fault => return .error (value ++ ": ".toList ++ fault.message)
        | .ok bytes => found := found ++ (lines bytes).map Raw.ofBytes
    return .ok (some (found, operands))
  match operands with
  | [] => return .ok none
  | t :: rest => return .ok (some (expressionLines t, rest))

/-- Reads expressions, and tells of what is odd about them. -/
def readExpressions (m : Matcher) : List Text → Task (Option (List Expression))
  | [] => return some []
  | t :: ts => do
    match m with
    | .asIs => return (← readExpressions m ts).map (exactly t :: ·)
    | .written d =>
      match compile d (symbols t).toList with
      | .error fault =>
        complain (if d.hasLaziness && fault = .openGroup then "missing closing parenthesis".toList
          else fault.message.toList)
        return none
      | .ok c =>
        for warning in c.warnings do
          complain ("warning: ".toList ++ warning.toList)
        return (← readExpressions m ts).map (c.expression :: ·)

/-- What is shown of files, by the options. -/
def answerOf (given : Given) : Answer :=
  if given.hasAny "q" || given.has "silent" then .nothing
  else match given.lastOf "lL" with
    | some 'l' => .namesWith
    | some _ => .namesWithout
    | none => if given.has "c" then .count else if given.has "o" then .matched else .lines

/-- What is done with directories among the files. -/
inductive Folders where
  | read
  | descend
  | skip
deriving DecidableEq, Repr

/-- Searches files for expressions, as options tell. -/
def grepWith (given : Given) (operands : List Text) : Task Int := do
  let fail (message : Text) : Task Int := do
    complain message
    return 2
  let word (key : String) (usual : String) : String :=
    ((given.value? key).map String.ofList).getD usual
  let matcher ← match matcherOf given with
    | .ok m => pure m
    | .error message => return ← fail message
  let around ← match aroundOf given with
    | .ok around => pure around
    | .error message => return ← fail message
  let most ← match given.value? "m" with
    | none => pure none
    | some t =>
      match Amount.ofText Amount.usualLetters t, t.head? with
      | .ok n, _ => pure (some n)
      | .error .tooGreat, _ => pure none
      | _, some '-' => pure none
      | _, _ => return ← fail "invalid max count".toList
  let kinds := ["binary", "text", "without-match"]
  let last := (given.reverse.find? fun entry => ["a", "I", "binary-files"].contains entry.1)
  let binary := match last with
    | some ("a", _) => "text"
    | some ("I", _) => "without-match"
    | some (_, t) => String.ofList t
    | none => "binary"
  unless kinds.contains binary do
    return ← fail "unknown binary-files type".toList
  let folders ← match Choice.ofGiven given "d" "directories" [(["read"], Folders.read),
      (["recurse"], .descend), (["skip"], .skip)] with
    | .ok folders => pure (folders.getD .read)
    | .error message => do
      complain message
      return ← misuseSearch
  unless ["read", "skip"].contains (word "D" "read") do
    return ← fail "unknown devices method".toList
  match ← expressionsOf given operands with
  | .error message => fail message
  | .ok none => misuseSearch
  | .ok (some (texts, paths)) =>
    if most = some 0 then return 1
    let isRich := given.has "P"
    if isRich && 1 < texts.length then
      return ← fail "the -P option only supports a single pattern".toList
    match ← readExpressions matcher texts with
    | none => return 2
    | some expressions =>
      let criterion : Criterion :=
        { expressions
          ignoresCase := given.hasAny "iy" && !given.has "no-ignore-case"
          takesWords := given.has "w"
          takesLines := given.has "x"
          takesFirst := isRich }
      let h : Hunt :=
        { criterion
          answer := answerOf given
          given
          isInverted := given.has "v"
          around
          most
          isColored := word "color" (word "colour" "never") = "always"
          ending := if given.has "z" then 0 else newline
          binary }
      let isRecursive := given.hasAny "rR" || folders == .descend
      let asked := match given.lastOf "hH" with
        | some 'H' => some true
        | some _ => some false
        | none => if 1 < paths.length then some true else none
      let depth := (← Task.files).nodes.size + 1
      let mut outcome := (false, false)
      if paths.isEmpty && isRecursive then
        let m ← get
        for (name, _) in m.files.entries m.process.directory do
          outcome ← h.searchTree (some (asked.getD true)) false depth name outcome
      for path in if paths.isEmpty && !isRecursive then [['-']] else paths do
        if path ≠ ['-'] && isRecursive then
          outcome ← h.searchTree asked true depth path outcome
        else if path ≠ ['-'] && h.isExcluded false path then pure ()
        else if folders == .skip && (← isDirectoryAt path) then pure ()
        else outcome ← h.searchFile (asked.getD false) path outcome
      let (isFound, isFaulty) := outcome
      if h.answer = .nothing && isFound then return 0
      return if isFaulty then 2 else if isFound then 0 else 1

/-- Searches files for expressions. -/
def grep (arguments : List Text) : Task Int := do
  match Given.read grepForms .free none arguments with
  | .ok (given, operands) => grepWith given operands
  | .error message =>
    complain message
    misuseSearch

end LineShell.Sh.Tool
