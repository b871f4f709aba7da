import LineShell.Computer.Sh.Tool.Edit.Syntax
import LineShell.Computer.Sh.Tool.Entries
import LineShell.Computer.Sh.Tool.Intake
import LineShell.Computer.Sh.Tool.Launch

/-!
# The tool that edits lines

It takes its input line by line, carries out a script for each, and shows what has become of the
line.  A second text is kept from line to line.  Files may also be edited in their place.
-/

namespace LineShell.Sh.Tool

open Search

namespace Edit

/-- Where something is written. -/
inductive Outlet where
  /-- Where lines are shown. -/
  | shown
  | descriptor (n : Nat)
deriving DecidableEq, Repr

/-- What is written when the line is done with. -/
inductive Addition where
  | text (t : Text)
  | file (path : Text)

/-- How far the lines have come that a command selects. -/
inductive Range where
  | outside
  /-- Up to the line with a number. -/
  | upTo (n : Nat)
  /-- Up to a line that is recognized when it is there. -/
  | upToMatch
deriving DecidableEq, Repr

/-- How editing is done. -/
structure Settings where
  script : Script
  isSilent : Bool
  /-- Each file has lines of its own. -/
  isSeparate : Bool
  /-- Files are edited in their place, where what they were is kept under a name with this ending. -/
  inPlace : Option Text
  width : Nat
  ending : UInt8
  launcher : Launcher

/-- Where editing has come to. -/
structure Editor where
  settings : Settings
  pattern : Text
  /-- What ends the line is there. -/
  isWhole : Bool
  held : Text
  /-- What ended the text that is kept was there. -/
  isHeldWhole : Bool
  lineNumber : Nat
  ranges : Array Range
  isReplaced : Bool
  /-- What is written when the line is done with, last one first. -/
  additions : List Addition
  lastSought : Option Sought
  intake : Option Intake
  /-- The name of the file that is read. -/
  name : Text
  remaining : List Text
  status : Int
  targets : List (Text × Outlet)
  /-- The files from which lines are taken one by one. -/
  readers : List (Text × Option Intake)
  /-- Where the last line lacks its end. -/
  unfinished : List Outlet
  /-- What has been written in the place of the file, last piece first. -/
  rewritten : List (List UInt8)

/-- What edits, or ends early with an exit code. -/
abbrev Editing := StateT Editor (ExceptT Int Task)

namespace Editing

/-- Does a task. -/
def doing {α : Type} (task : Task α) : Editing α :=
  fun e => ExceptT.mk do
    let a ← task
    return .ok (a, e)

/-- Complains and ends. -/
def fail {α : Type} (message : Text) (code : Int) : Editing α := do
  doing (complain message)
  throw code

/-- Writes bytes. -/
def put (target : Outlet) (bytes : List UInt8) : Editing Unit := do
  match target with
  | .shown =>
    if (← get).settings.inPlace.isSome then
      modify fun e => { e with rewritten := bytes :: e.rewritten }
    else doing (emit bytes)
  | .descriptor 1 => doing (emit bytes)
  | .descriptor d => doing do let _ ← Task.write d bytes

/-- Ends the last line if it lacks its end. -/
def settle (target : Outlet) : Editing Unit := do
  if (← get).unfinished.contains target then
    put target [newline]
    modify fun e => { e with unfinished := e.unfinished.filter (· ≠ target) }

/-- Writes a text on lines of its own. -/
def putText (target : Outlet) (t : Text) : Editing Unit := do
  settle target
  put target (Raw.bytes t)

/-- Writes a line, with what ends it if the line that is edited has that. -/
def putLine (target : Outlet) (t : Text) : Editing Unit := do
  settle target
  let e ← get
  put target (Raw.bytes t ++ if e.isWhole then [e.settings.ending] else [])
  unless e.isWhole do modify fun e => { e with unfinished := target :: e.unfinished }

/-- Writes what was to be written when the line is done with. -/
def putAdditions : Editing Unit := do
  let e ← get
  set { e with additions := [] }
  for addition in e.additions.reverse do
    match addition with
    | .text t => putText .shown t
    | .file path =>
      if let .ok bytes ← doing (bytesOf (if path = "/dev/stdin".toList then ['-'] else path)) then
        unless bytes.isEmpty do
          settle .shown
          put .shown bytes

/-- The path under which an edited file is kept. -/
def keptPath (path suffix : Text) : Text :=
  let name := Path.lastName path
  let kept := if suffix.contains '*' then suffix.flatMap fun c => if c = '*' then name else [c]
    else name ++ suffix
  if kept.contains '/' then kept else path.take (path.length - name.length) ++ kept

/-- Replaces the file that has been edited. -/
def finishFile : Editing Unit := do
  let e ← get
  match e.settings.inPlace, e.intake with
  | some suffix, some _ =>
    let content := Content.ofBytes e.rewritten.reverse.flatten
    set { e with rewritten := [], unfinished := e.unfinished.filter (· ≠ Outlet.shown) }
    if let some (_, node) ← doing (look? true e.name) then
      let made := e.name ++ ".edited".toList
      let _ ← doing (alter fun files directory now =>
        (files.plant directory made now ⟨.file content, node.mode, now⟩).map Prod.snd)
      unless suffix.isEmpty do
        let _ ← doing (alter fun files directory now =>
          files.rename directory e.name (keptPath e.name suffix) now)
      let _ ← doing (alter fun files directory now => files.rename directory made e.name now)
  | _, _ => pure ()

/-- The states of the ranges before the first line. -/
def freshRanges (s : Script) : Array Range :=
  s.commands.map fun c =>
    match c.first with
    | some (.line 0) => .upToMatch
    | _ => .outside

/-- Opens the next file that can be read. -/
def openNext : List Text → Editing Unit
  | [] => modify fun e => { e with remaining := [], intake := none }
  | path :: rest => do
    let e ← get
    let opened ← if path = ['-'] && e.settings.inPlace.isNone then pure (.ok 0)
      else doing (Task.openFree .input path)
    match opened with
    | .error fault =>
      doing (complain ("can't read ".toList ++ path ++ ": ".toList ++ fault.message))
      modify fun e => { e with status := 2 }
      openNext rest
    | .ok descriptor =>
      if e.settings.inPlace.isSome then
        if let some (_, node) ← doing (look? true path) then
          unless node.isFile do
            fail ("couldn't edit ".toList ++ path ++ ": not a regular file".toList) 4
      modify fun e => { e with
        intake := some (.ofDescriptor descriptor)
        name := path
        remaining := rest
        lineNumber := if e.settings.isSeparate then 0 else e.lineNumber
        ranges := if e.settings.isSeparate then freshRanges e.settings.script else e.ranges }

/-- Closes the file that is read. -/
def closeFile : Editing Unit := do
  finishFile
  if let some s := (← get).intake then
    unless s.descriptor = 0 do doing (Task.disconnect s.descriptor)
  modify fun e => { e with intake := none }

/-- Takes from the file that is read, or ends. -/
def taking {α : Type} (task : Task (Except FileFault α)) : Editing α := do
  match ← doing task with
  | .ok a => return a
  | .error fault =>
    fail ("read error on ".toList ++ (← get).name ++ ": ".toList ++ fault.message) 4

/-- There are more lines, in this file or in one of `fuel` others; if so told, others do not
matter. -/
def hasMore (inFile : Bool) : (fuel : Nat) → Editing Bool
  | 0 => return false
  | fuel + 1 => do
    match (← get).intake with
    | some s =>
      let s ← taking s.looked
      modify fun e => { e with intake := some s }
      if ¬ s.ahead.isEmpty then return true
      if inFile then return false
      closeFile
      hasMore inFile fuel
    | none =>
      if (← get).remaining.isEmpty then return false
      openNext (← get).remaining
      hasMore inFile fuel

/-- There are more lines; those of other files do not count if each has its own. -/
def isMore (inFile : Bool) : Editing Bool := do
  let e ← get
  hasMore (inFile && e.settings.isSeparate) (2 * e.remaining.length + 3)

/-- Takes the next line, after what is there or in its place.  Nothing happens if there is none. -/
def takeLine (isMore? : Editing Bool) (joins : Bool) : Editing Bool := do
  putAdditions
  modify fun e => { e with isReplaced := false }
  unless ← isMore? do return false
  let e ← get
  match e.intake with
  | none => return false
  | some s =>
    match ← taking (s.next e.settings.ending) with
    | (none, _) => return false
    | (some (line, isWhole), s) =>
      let t := Raw.ofBytes line
      let separator := Raw.ofBytes [e.settings.ending]
      modify fun e => { e with
        intake := some s
        pattern := if joins then e.pattern ++ separator ++ t else t
        isWhole
        lineNumber := e.lineNumber + 1 }
      return true

/-- What is searched for, which is the last one unless it is told. -/
def resolved (sought : Option Sought) : Editing Sought := do
  match sought, (← get).lastSought with
  | some s, _ =>
    modify fun e => { e with lastSought := some s }
    return s
  | none, some s => return s
  | none, none => fail "-e expression #1, char 0: no previous regular expression".toList 1

/-- The line as it is searched. -/
def subject (s : Sought) : Editing Subject := do
  return ⟨symbols (← get).pattern, s.ignoresCase, s.isMultiline, false⟩

/-- The line is at an address. -/
def isAt (a : Address) : Editing Bool := do
  let n := (← get).lineNumber
  match a with
  | .line m => return n = m
  | .last => return !(← isMore true)
  | .every first step => return first ≤ n && (n - first) % step = 0
  | .matching sought =>
    let s ← resolved sought
    return (s.expression.search (← subject s) 0).isSome

/-- A command selects the line. -/
def isSelected (i : Nat) (c : Command) : Editing Bool := do
  let setRange (r : Range) : Editing Unit :=
    modify fun e => { e with ranges := e.ranges.setIfInBounds i r }
  let e ← get
  let n := e.lineNumber
  match c.first, c.limit with
  | none, _ => return true
  | some a, none => isAt a
  | some a, some limit =>
    match e.ranges.getD i .outside with
    | .upTo last =>
      if last ≤ n then setRange .outside
      if n ≤ last then return true
      isAt a
    | .upToMatch =>
      if let .at b := limit then
        if ← isAt b then setRange .outside
      return true
    | .outside =>
      unless ← isAt a do return false
      let last? : Option Nat :=
        match limit with
        | .at (.line m) => some m
        | .plus m => some (n + m)
        | .multiple m => some (if m = 0 then n else (n / m + 1) * m)
        | .at _ => none
      match last? with
      | some last => if n < last then setRange (.upTo last)
      | none => setRange .upToMatch
      return true

/-- How letters are altered: all of them, and the next one. -/
structure CaseState where
  all : CaseChange
  next : CaseChange

/-- A text with its letters altered. -/
def altered (s : CaseState) (t : List Symbol) : List Symbol × CaseState :=
  match t with
  | [] => ([], s)
  | a :: rest =>
    let whole (a : Symbol) : Symbol :=
      match s.all with
      | .upper => capital a
      | .lower => small a
      | _ => a
    let first := match s.next with
      | .upperNext => capital a
      | .lowerNext => small a
      | _ => whole a
    (first :: rest.map whole, { s with next := .none })

/-- What replaces a match. -/
def replacementFor (text : Array Symbol) (found : Found) : CaseState → List Piece → List Symbol
  | _, [] => []
  | s, .text t :: rest =>
    let (t, s) := altered s (symbols t).toList
    t ++ replacementFor text found s rest
  | s, .group n :: rest =>
    let t := match found.group? n with
      | some (i, j) => (text.extract i j).toList
      | none => []
    let (t, s) := altered s t
    t ++ replacementFor text found s rest
  | s, .change c :: rest =>
    let s : CaseState := match c with
      | .upperNext => { s with next := c }
      | .lowerNext => { s with next := c }
      | c => ⟨c, .none⟩
    replacementFor text found s rest

/-- Texts one after another that are read as one, so that characters may come from several. -/
def mergedTexts : List Piece → List Piece
  | .text s :: rest =>
    match mergedTexts rest with
    | .text t :: rest => .text (s ++ t) :: rest
    | rest => .text s :: rest
  | p :: rest => p :: mergedTexts rest
  | [] => []

/-- The line with what is found replaced, from a position on, if anything is.  `count` matches have
been found before, the last of which ended at `lastEnd`. -/
def substituted (u : Substitution) (e : Expression) (s : Subject) (pieces : List Piece) :
    (fuel : Nat) → (position count : Nat) → (lastEnd : Option Nat) → List Symbol × Bool
  | 0, i, _, _ => ((s.text.extract i s.text.size).toList, false)
  | fuel + 1, i, count, lastEnd =>
    let rest (i : Nat) : List Symbol := (s.text.extract i s.text.size).toList
    if s.text.size < i then ([], false)
    else
      match e.search s i with
      | none => (rest i, false)
      | some f =>
        let before := (s.text.extract i f.first).toList
        let step := (s.text.extract f.last (f.last + 1)).toList
        if f.first = f.last ∧ lastEnd = some f.first then
          let (after, isReplaced) := substituted u e s pieces fuel (f.last + 1) count none
          (before ++ step ++ after, isReplaced)
        else
          let count := count + 1
          let isChosen := max u.number 1 ≤ count
          let own := if isChosen then replacementFor s.text f ⟨.none, .none⟩ pieces
            else (s.text.extract f.first f.last).toList
          if isChosen ∧ ¬ u.isGlobal then (before ++ own ++ rest f.last, true)
          else if f.first = f.last then
            let (after, isReplaced) := substituted u e s pieces fuel (f.last + 1) count none
            (before ++ own ++ step ++ after, isChosen || isReplaced)
          else
            let (after, isReplaced) := substituted u e s pieces fuel f.last count (some f.last)
            (before ++ own ++ after, isChosen || isReplaced)

/-- Where the file at a path is written to. -/
def targetFor (path : Text) : Editing Outlet := do
  return ((← get).targets.lookup path).getD .shown

/-- A text without a newline at its end. -/
def withoutNewline (t : Text) : Text :=
  if t.getLast? = some '\n' then t.dropLast else t

/-- Replaces what is found. -/
def substitute (u : Substitution) : Editing Unit := do
  let sought ← resolved u.sought
  let s ← subject sought
  let (t, isReplaced) := substituted u sought.expression s (mergedTexts u.replacement)
    (s.text.size + 2) 0 0 none
  unless isReplaced do return
  modify fun e => { e with pattern := t.flatMap textOf, isReplaced := true }
  if u.evaluates then
    let e ← get
    let bytes ← doing (e.settings.launcher.output e.pattern)
    set { e with pattern := withoutNewline (Raw.ofBytes bytes) }
  if u.prints then putLine .shown (← get).pattern
  if let some path := u.target then putLine (← targetFor path) (← get).pattern

/-- A line in which all that does not show is spelled, in pieces. -/
def spelledPieces (t : Text) : List Text :=
  t.map fun c =>
    match ("\\\x07\x08\x0c\n\x0d\t\x0b".toList.zip "\\abfnrtv".toList).lookup c with
    | some letter => ['\\', letter]
    | none =>
      if ' ' ≤ c ∧ c ≤ '~' then [c]
      else '\\' :: [c.toNat / 64, c.toNat / 8 % 8, c.toNat % 8].map Nat.digitChar

/-- Pieces in lines of a width, which end with backslashes where they are broken. -/
def wrapped (width : Nat) : (column : Nat) → List Text → Text
  | _, [] => ['$']
  | column, t :: ts =>
    if width ≠ 0 ∧ width < column + t.length + 1 then
      '\\' :: '\n' :: t ++ wrapped width t.length ts
    else t ++ wrapped width (column + t.length) ts

/-- The next line of a file from which lines are taken one by one. -/
def lineOf (path : Text) : Editing (Option Text) := do
  let e ← get
  let source ← match e.readers.lookup path with
    | some source => pure source
    | none =>
      if path = "/dev/stdin".toList then pure (some (.ofDescriptor 0))
      else pure (((← doing (Task.openFree .input path)).toOption).map Intake.ofDescriptor)
  match source with
  | none => return none
  | some s =>
    match ← doing (s.next e.settings.ending) with
    | .ok (line, s) =>
      modify fun e => { e with readers := Task.assign path (some s) e.readers }
      return line.map fun (bytes, isWhole) => Raw.ofBytes bytes ++ if isWhole then ['\n'] else []
    | .error _ => return none

/-- How a line ends to be edited. -/
inductive Outcome where
  /-- It is shown. -/
  | done
  /-- It is not shown. -/
  | dropped
  /-- What is left of it is edited again. -/
  | again
  /-- Nothing more is edited. -/
  | stopped (code : Int)
deriving DecidableEq, Repr

/-- Shows the line unless lines are not shown. -/
def showUnlessSilent : Editing Unit := do
  let e ← get
  unless e.settings.isSilent do putLine .shown e.pattern

/-- Carries out a command that selects the line, and tells how the line has ended or which command is
next. -/
def act (i : Nat) (c : Command) : Editing (Except Outcome Nat) := do
  let next : Editing (Except Outcome Nat) := return .ok (i + 1)
  let e ← get
  let ending := Raw.ofBytes [e.settings.ending]
  let firstLine := e.pattern.takeWhile (!ending.contains ·)
  match c.action with
  | .block _ => next
  | .nothing => next
  | .append t =>
    modify fun e => { e with additions := .text t :: e.additions }
    next
  | .insert t =>
    putText .shown t
    next
  | .change t =>
    if c.limit.isNone || c.isNegated || e.ranges.getD i .outside = .outside then putText .shown t
    return .error .dropped
  | .delete => return .error .dropped
  | .deleteFirst =>
    if firstLine.length = e.pattern.length then return .error .dropped
    modify fun e => { e with pattern := e.pattern.drop (firstLine.length + 1) }
    return .error .again
  | .print =>
    putLine .shown e.pattern
    next
  | .printFirst =>
    if firstLine.length = e.pattern.length then putLine .shown firstLine
    else putText .shown (firstLine ++ ending)
    next
  | .number =>
    putText .shown (numeral e.lineNumber ++ ['\n'])
    next
  | .name =>
    putText .shown (e.name ++ ['\n'])
    next
  | .recall =>
    modify fun e => { e with pattern := e.held, isWhole := e.isHeldWhole }
    next
  | .recallMore =>
    modify fun e => { e with
      pattern := e.pattern ++ ending ++ e.held
      isWhole := e.isHeldWhole }
    next
  | .keep =>
    modify fun e => { e with held := e.pattern, isHeldWhole := e.isWhole }
    next
  | .keepMore =>
    modify fun e => { e with
      held := e.held ++ ending ++ e.pattern
      isHeldWhole := e.isWhole }
    next
  | .exchange =>
    modify fun e => { e with
      held := e.pattern
      isHeldWhole := e.isWhole
      pattern := e.held
      isWhole := e.isHeldWhole }
    next
  | .next =>
    unless ← isMore true do return .error .done
    showUnlessSilent
    if ← takeLine (isMore true) false then next else return .error .dropped
  | .nextMore =>
    unless ← isMore true do return .error .done
    if ← takeLine (isMore true) true then next else return .error .done
  | .spell width =>
    putText .shown (wrapped (width.getD e.settings.width) 0 (spelledPieces e.pattern) ++ ending)
    next
  | .quit code =>
    showUnlessSilent
    putAdditions
    return .error (.stopped code)
  | .quitSilently code => return .error (.stopped code)
  | .readFile path =>
    modify fun e => { e with additions := .file path :: e.additions }
    next
  | .readLine path =>
    if let some line ← lineOf path then
      modify fun e => { e with additions := .text line :: e.additions }
    next
  | .write path =>
    putLine (← targetFor path) e.pattern
    next
  | .writeFirst path =>
    let target ← targetFor path
    if firstLine.length = e.pattern.length then putLine target firstLine
    else putText target (firstLine ++ ending)
    next
  | .substitute u =>
    substitute u
    next
  | .translate table =>
    let translate (a : Symbol) : Symbol := (table.lookup a).getD a
    modify fun e => { e with
      pattern := (symbols e.pattern).toList.flatMap fun a => textOf (translate a) }
    next
  | .clear =>
    modify fun e => { e with pattern := [] }
    next
  | .jump occasion label =>
    let jumps : Bool := match occasion with
      | .always => true
      | .afterReplacing => e.isReplaced
      | .unlessReplacing => !e.isReplaced
    if occasion ≠ .always then modify fun e => { e with isReplaced := false }
    if ¬ jumps then next
    else
      return .ok (if label.isEmpty then e.settings.script.commands.size
        else (e.settings.script.labels.lookup label).getD 0)
  | .run (some command) =>
    let bytes ← doing (e.settings.launcher.output command)
    settle .shown
    put .shown bytes
    next
  | .run none =>
    let bytes ← doing (e.settings.launcher.output e.pattern)
    modify fun e => { e with pattern := withoutNewline (Raw.ofBytes bytes) }
    next

/-- Carries out commands from a number on, in at most `fuel` steps. -/
def steps : (fuel : Nat) → (i : Nat) → Editing Outcome
  | 0, _ => return .done
  | fuel + 1, i => do
    match (← get).settings.script.commands[i]? with
    | none => return .done
    | some c =>
      if (← isSelected i c) != c.isNegated then
        match ← act i c with
        | .ok i => steps fuel i
        | .error outcome => return outcome
      else
        match c.action with
        | .block after => steps fuel after
        | _ => steps fuel (i + 1)

/-- Edits lines, at most as many as given, and gives the exit code.  If so told, the line is the one
that is there. -/
def cycles : (fuel : Nat) → (isThere : Bool) → Editing Int
  | 0, _ => return 0
  | fuel + 1, isThere => do
    if isThere then putAdditions
    else unless ← takeLine (isMore false) false do return 0
    match ← steps Task.blockLimit 0 with
    | .done =>
      showUnlessSilent
      cycles fuel false
    | .dropped => cycles fuel false
    | .again => cycles fuel true
    | .stopped code => return code

/-- Edits all lines, and gives the exit code. -/
def whole : Editing Int := do
  let code ← cycles Task.blockLimit false
  putAdditions
  if let some s := (← get).intake then doing s.release
  finishFile
  let e ← get
  return if e.status ≠ 0 then e.status else code

end Editing

end Edit

open Edit

/-- The options of `sed`. -/
def sedForms : List OptionForm :=
  OptionForm.flags [('n', "quiet"), ('E', "regexp-extended"), ('s', "separate"), ('u', "unbuffered"),
      ('z', "null-data"), ('b', "binary")] ++
    OptionForm.letters "r" ++
    OptionForm.names ["silent", "posix", "debug", "sandbox", "follow-symlinks", "zero-terminated"] ++
    OptionForm.valuedFlags [('e', "expression"), ('f', "file"), ('l', "line-length")] ++
    [⟨some 'i', some "in-place", .perhaps⟩]

/-- Tells how `sed` is called. -/
def misuseEdit : Task Int := do
  Task.print 2
    "Usage: sed [OPTION]... \x7bscript-only-if-no-other-script\x7d [input-file]...\n\n".toList
  return 1

/-- The pieces of the script that options name, or what is wrong, with the exit code. -/
def scriptPieces (n : Nat) : Given → Task (Except EditFault (List (Origin × Text)))
  | [] => return .ok []
  | ("e", t) :: rest => do
    return (← scriptPieces (n + 1) rest).map ((.argument n, t) :: ·)
  | ("f", path) :: rest => do
    match ← bytesOf path with
    | .ok bytes =>
      let t := Raw.ofBytes bytes
      return (← scriptPieces n rest).map ((.file path, t) :: ·)
    | .error fault =>
      return .error ⟨"couldn't open file ".toList ++ path ++ ": ".toList ++ fault.message, 4⟩
  | _ :: rest => scriptPieces n rest

/-- Opens the files that a script writes to. -/
def openTargets (inPlace : Bool) : List Text → Task (Except EditFault (List (Text × Outlet)))
  | [] => return .ok []
  | path :: rest => do
    let more ← openTargets inPlace rest
    match more with
    | .error fault => return .error fault
    | .ok more =>
      if (more.lookup path).isSome then return .ok more
      if path = "/dev/stdout".toList then
        return .ok ((path, if inPlace then .descriptor 1 else .shown) :: more)
      if path = "/dev/stderr".toList then return .ok ((path, .descriptor 2) :: more)
      match ← Task.openFree .output path with
      | .ok descriptor => return .ok ((path, .descriptor descriptor) :: more)
      | .error fault =>
        return .error ⟨"couldn't open file ".toList ++ path ++ ": ".toList ++ fault.message, 4⟩

/-- Edits files, as options tell. -/
def sedWith (l : Launcher) (given : Given) (operands : List Text) : Task Int := do
  let isGiven := given.has "e" || given.has "f"
  let pieces? ← if isGiven then scriptPieces 1 given
    else pure (.ok ((operands.take 1).map fun t => (.argument 1, t)))
  let paths := if isGiven then operands else operands.drop 1
  if ¬ isGiven ∧ operands.isEmpty then return ← misuseEdit
  let fail (fault : EditFault) : Task Int := do
    complain fault.message
    return fault.code
  match pieces? with
  | .error fault => fail fault
  | .ok pieces =>
    let dialect := if given.hasAny "Er" then Dialect.extended else Dialect.basic
    match Edit.Script.ofPieces dialect pieces with
    | .error fault => fail fault
    | .ok script =>
      let inPlace := given.value? "i"
      if inPlace.isSome ∧ paths.isEmpty then
        return ← fail ⟨"no input files".toList, 4⟩
      match ← openTargets inPlace.isSome script.targets with
      | .error fault => fail fault
      | .ok targets =>
        let settings : Edit.Settings :=
          { script
            isSilent := given.hasAny "n" || given.has "silent" || script.isSilent
            isSeparate := given.has "s" || inPlace.isSome
            inPlace
            width := match given.value? "l" with
              | some t => digitsValue (t.takeWhile Char.isDigit)
              | none => 70
            ending := if given.has "z" || given.has "zero-terminated" then 0 else newline
            launcher := l }
        let editor : Editor :=
          { settings
            pattern := []
            isWhole := true
            held := []
            isHeldWhole := true
            lineNumber := 0
            ranges := Editing.freshRanges script
            isReplaced := false
            additions := []
            lastSought := none
            intake := none
            name := ['-']
            remaining := if paths.isEmpty then [['-']] else paths
            status := 0
            targets
            readers := []
            unfinished := []
            rewritten := [] }
        match ← (Editing.whole.run editor).run with
        | .ok (code, _) => return code
        | .error code => return code

/-- Edits files. -/
def sed (l : Launcher) (arguments : List Text) : Task Int := do
  match Given.read sedForms .free none arguments with
  | .ok (given, operands) => sedWith l given operands
  | .error message =>
    complain message
    misuseEdit

end LineShell.Sh.Tool
