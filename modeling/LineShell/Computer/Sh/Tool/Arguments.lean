import LineShell.Computer.Sh.Tool.Launch

/-!
# Arguments that are read

A tool reads words from its input and runs another program with as many of them as arguments as fit.
Words stand between blanks, and may hold blanks between quotes or behind a backslash; or else they
are what stands between bytes of one kind, which have no other meaning then.
-/

namespace LineShell.Sh.Tool.Arguments

/-- What is special between the words that are read. -/
inductive Manner where
  /-- Blanks separate words, and quotes and backslashes hide them.  If a word is to be put in a place
  of its own, it is a whole line, and only the blanks in front of it are skipped. -/
  | words (wholeLines : Bool)
  /-- A byte ends each word, and nothing else is special. -/
  | between (ending : UInt8)

/-- Where the next byte stands. -/
inductive Place where
  | between
  | plain
  | quoted (quote : UInt8)
  | escaped
deriving DecidableEq, Repr

/-- A word that is being read. -/
structure Gathering where
  place : Place
  /-- The bytes so far, last one first. -/
  reversed : List UInt8
  size : Nat
  /-- A word of the line has begun, though it may be empty. -/
  isBegun : Bool
  /-- It is the first word of its line. -/
  isFirst : Bool
  /-- The last byte is a blank, so that the line goes on in the next one. -/
  isBlank : Bool

namespace Gathering

/-- Nothing has been read. -/
def start : Gathering := ⟨.between, [], 0, false, true, false⟩

/-- The word, of which nothing is used after a null. -/
def word (g : Gathering) : Text :=
  Raw.ofBytes (g.reversed.reverse.takeWhile (· ≠ 0))

end Gathering

/-- What comes of a byte. -/
inductive Event where
  /-- It belongs to a word. -/
  | more
  /-- It ends a word, and so many lines. -/
  | ends (lines : Nat)
  /-- It ends a line within quotes. -/
  | unclosed (quote : UInt8)

/-- The byte is a blank within a line. -/
def isBlankByte (b : UInt8) : Bool := b = 0x20 || b = 0x09

/-- The byte is a blank or ends a line. -/
def isSpaceByte (b : UInt8) : Bool := b = 0x20 || (0x09 ≤ b && b ≤ 0x0D)

/-- Takes one more byte. -/
def Gathering.step (manner : Manner) (g : Gathering) (b : UInt8) : Gathering × Event :=
  let keep (g : Gathering) : Gathering × Event :=
    ({ g with place := .plain, reversed := b :: g.reversed, size := g.size + 1 }, .more)
  match manner with
  | .between ending => if b = ending then (g, .ends 1) else keep { g with isBegun := true }
  | .words wholeLines =>
    let wasBlank := g.isBlank
    let g := { g with isBlank := isBlankByte b }
    match g.place with
    | .escaped => keep g
    | .quoted quote =>
      if b = newline then (g, .unclosed quote)
      else if b = quote then ({ g with place := .plain }, .more)
      else ({ g with reversed := b :: g.reversed, size := g.size + 1 }, .more)
    | place =>
      if place = Place.between && isSpaceByte b then (g, .more)
      else if b = newline then (g, .ends (if wasBlank then 0 else 1))
      else
        let g := { g with isBegun := true }
        if !wholeLines && isBlankByte b then (g, .ends 0)
        else if b = 0x5C then ({ g with place := .escaped }, .more)
        else if b = 0x22 || b = 0x27 then ({ g with place := .quoted b }, .more)
        else keep g

/-- How the program is run. -/
structure Plan where
  manner : Manner
  command : List Text
  /-- The text in the arguments for which a word stands. -/
  mark : Option Text
  /-- The word that ends the input. -/
  last : Option Text
  perCall : Option Nat
  perLines : Option Nat
  /-- How long the arguments may be. -/
  room : Nat
  /-- Arguments that do not fit are an error. -/
  isExact : Bool
  shows : Bool
  asks : Bool
  /-- The input of the tool is not that of the program. -/
  leavesInput : Bool
  /-- The program is run even if there are no words. -/
  always : Bool
  /-- How many processes may run at once, where zero stands for any number. -/
  slots : Nat
  /-- The variable that holds the number of the slot. -/
  slotName : Option Text

/-- What has been gathered and done. -/
structure Progress where
  /-- The words that are not used yet, last one first. -/
  words : List Text
  /-- How long the arguments are, those that are always given included. -/
  size : Nat
  lines : Nat
  /-- The processes that run, with their slots. -/
  running : List (Nat × Nat)
  runs : Nat
  status : Int
  /-- A null in the input has been told of. -/
  isWarned : Bool

/-- Goes on, or stops with an exit code. -/
abbrev Run := ExceptT Int (StateT Progress Task)

namespace Run

/-- A task as a part of a run. -/
def ofTask {α : Type} (task : Task α) : Run α := liftM (m := Task) task

/-- Complains and stops. -/
def fail {α : Type} (message : String) : Run α := do
  ofTask (complain message.toList)
  throw 1

/-- Waits for one of the processes to end. -/
def collect (name : Text) : Run Unit := do
  let (id, ending) ← ofTask (Control.collectOne ((← get).running.map Prod.fst))
  modify fun p => { p with running := p.running.filter (·.1 ≠ id) }
  match ending.signal with
  | some signal =>
    ofTask (complain (name ++ ": terminated by signal ".toList ++ numeral signal))
    throw 125
  | none =>
    if ending.code = 255 then
      ofTask (complain (name ++ ": exited with status 255; aborting".toList))
      throw 124
    if ending.code ≠ 0 then modify fun p => { p with status := 123 }

/-- Waits for all processes to end. -/
def collectAll (name : Text) : Run Unit := do
  for _ in (← get).running do collect name

end Run

/-- The first slot that is free. -/
def freeSlot (running : List (Nat × Nat)) : Nat :=
  ((List.range running.length).find? fun n => running.all (·.2 ≠ n)).getD running.length

/-- Begins the program with some arguments. -/
def begin (l : Launcher) (plan : Plan) (arguments : List Text) : Run Unit := do
  let name := arguments.headD []
  if plan.slots ≠ 0 ∧ plan.slots ≤ (← get).running.length then Run.collect name
  let shown := (arguments.map Quoting.ifNeeded).intersperse [' ']
  if plan.shows ∨ plan.asks then Run.ofTask (Task.print 2 shown.flatten)
  if plan.asks then
    Run.fail "failed to open /dev/tty for reading: No such device or address"
  if plan.shows then Run.ofTask (Task.print 2 ['\n'])
  let slot := freeSlot (← get).running
  let start (p : Process) : Process :=
    match plan.slotName with
    | none => p
    | some name =>
      { p with bindings := Task.assign name (Variable.told (numeral slot)) p.bindings }
  let begun ← Run.ofTask do
    if plan.leavesInput then l.begins start name arguments.tail
    else
      match ← Task.openFree .input "/dev/null".toList with
      | .error _ => l.begins start name arguments.tail
      | .ok descriptor =>
        let channel := ((← Task.process).descriptors.lookup descriptor).getD 0
        let started ← l.begins (fun p => withConnections [(0, channel)] (start p)) name
          arguments.tail
        Task.disconnect descriptor
        return started
  match begun with
  | .error fault =>
    Run.ofTask (complain (name ++ ": ".toList ++ fault.message))
    throw (notRun fault)
  | .ok id =>
    modify fun p => { p with running := p.running ++ [(id, slot)], runs := p.runs + 1 }

/-- How long some arguments are, each with a null. -/
def sizeOf (arguments : List Text) : Nat :=
  arguments.foldl (fun n t => n + t.length + 1) 0

/-- Runs the program with the words that have been gathered. -/
def runGathered (l : Launcher) (plan : Plan) : Run Unit := do
  let words := (← get).words.reverse
  modify fun p => { p with words := [], size := sizeOf plan.command, lines := 0 }
  begin l plan (plan.command ++ words)

/-- Runs the program with what has been gathered, if that is allowed before an error. -/
def runIfPossible (l : Launcher) (plan : Plan) : Run Unit := do
  if plan.mark.isNone ∧ ¬ (← get).words.isEmpty ∧ ¬ plan.isExact then runGathered l plan

/-- A text with a word in all places of a mark, unless it gets too long.  The first number is how
much room is left; it bounds the places, too, as each of them takes some. -/
def replaced? (mark word : Text) : (fuel room : Nat) → Text → Option Text
  | 0, _, _ => none
  | fuel + 1, room, t =>
    let (found, before) : Bool × Text :=
      match (List.range (t.length + 1)).find? fun n => mark.isPrefixOf (t.drop n) with
      | some n => (true, t.take n)
      | none => (false, t)
    if room ≤ before.length then none
    else if ¬ found then some before
    else
      let room := room - before.length
      let rest := t.drop (before.length + mark.length)
      if room ≤ word.length then none
      else if rest.isEmpty then some (before ++ word)
      else (replaced? mark word fuel (room - word.length) rest).map (before ++ word ++ ·)

/-- Uses a word. -/
def useWord (l : Launcher) (plan : Plan) (word : Text) (size : Nat) : Run Unit := do
  match plan.mark with
  | some mark =>
    let mut arguments := []
    let mut size := sizeOf (plan.command.take 1)
    for t in plan.command.tail do
      match replaced? mark word (plan.room + 1) (plan.room - 1) t with
      | none => Run.fail "command too long"
      | some t =>
        size := size + t.length + 1
        if plan.room < size then
          Run.fail (if arguments.isEmpty ∧ plan.room < t.length + 1 then
            "cannot fit single argument within argument list size limit"
            else "argument list too long")
        arguments := t :: arguments
    begin l plan (plan.command.take 1 ++ arguments.reverse)
  | none =>
    let p ← get
    if plan.room < p.size + size + 1 then
      if p.words.isEmpty then
        Run.fail "cannot fit single argument within argument list size limit"
      if plan.isExact ∧ (plan.perLines.isSome ∨ plan.perCall.isSome) then
        Run.fail "argument list too long"
      runGathered l plan
    modify fun p => { p with words := word :: p.words, size := p.size + size + 1 }
    if plan.perCall = some (← get).words.length then runGathered l plan

/-- The message about quotes that are not closed. -/
def unclosedMessage (quote : UInt8) : String :=
  "unmatched " ++ (if quote = 0x22 then "double" else "single") ++
    " quote; by default quotes are special to xargs unless you use the -0 option"

/-- The message about a null in the input. -/
def nullMessage : String :=
  "WARNING: a NUL character occurred in the input.  It cannot be passed through in the argument " ++
    "list.  Did you mean to use the --null option?"

/-- How long a word may be. -/
def longest (plan : Plan) : Nat :=
  plan.room - (if plan.mark.isSome then 0 else sizeOf plan.command) - 1

/-- What is left to be read when the input is told to end. -/
abbrev Rest := List UInt8

/-- Reads the bytes of a block, with the word so far, and tells what is left of it when the input is
over. -/
def readBlock (l : Launcher) (plan : Plan) : (g : Gathering) → Rest →
    ExceptT (Int × Rest) (StateT Progress Task) (Gathering × Option Rest)
  | g, [] => return (g, none)
  | g, b :: rest => do
    let stopping (run : Run Unit) : ExceptT (Int × Rest) (StateT Progress Task) Unit := do
      match ← liftM (m := StateT Progress Task) run.run with
      | .ok () => pure ()
      | .error code => throw (code, rest)
    let (next, event) := g.step plan.manner b
    match event with
    | .unclosed quote =>
      stopping do
        runIfPossible l plan
        Run.fail (unclosedMessage quote)
      return (g, some rest)
    | .ends lines =>
      let word := next.word
      if plan.last.any (· = word) then
        if ¬ (plan.manner matches .between _) then return (.start, some rest)
      modify fun p => { p with lines := p.lines + lines }
      stopping do
        useWord l plan word next.size
        if plan.perLines.any (· ≤ (← get).lines) ∧ b = newline then runGathered l plan
      let isEnd : Bool := b == newline || plan.manner matches .between _
      readBlock l plan { Gathering.start with isFirst := isEnd, isBlank := next.isBlank } rest
    | .more =>
      if g.size < next.size then
        stopping do
          if longest plan ≤ g.size then
            runIfPossible l plan
            Run.fail "argument line too long"
          if b = 0 ∧ ¬ (plan.manner matches .between _) ∧ ¬ (← get).isWarned then
            modify fun p => { p with isWarned := true }
            Run.ofTask (complain nullMessage.toList)
      readBlock l plan next rest

/-- Reads blocks, until there are no more of them or the input is told to end, and gives what has
been read of a last word that nothing ends. -/
def readBlocks (l : Launcher) (plan : Plan) (descriptor : Nat) : (fuel : Nat) → Gathering →
    Run Gathering
  | 0, g => return g
  | fuel + 1, g => do
    match ← Run.ofTask (Task.take descriptor Task.blockSize) with
    | .error _ => return g
    | .ok [] => return g
    | .ok bytes =>
      match ← liftM (m := StateT Progress Task) (readBlock l plan g bytes).run with
      | .ok (g, none) => readBlocks l plan descriptor fuel g
      | .ok (_, some rest) =>
        Run.ofTask (Task.giveBack descriptor rest.length)
        return .start
      | .error (code, rest) =>
        Run.ofTask (Task.giveBack descriptor rest.length)
        throw code

/-- Reads all words and runs the program with them. -/
def runAll (l : Launcher) (plan : Plan) (descriptor : Nat) : Run Unit := do
  if plan.mark.isNone ∧ plan.room < sizeOf plan.command then
    Run.fail "cannot fit single argument within argument list size limit"
  let g ← readBlocks l plan descriptor Task.blockLimit .start
  if g.size ≠ 0 then
    if let .quoted quote := g.place then
      runIfPossible l plan
      Run.fail (unclosedMessage quote)
    let isLast : Bool :=
      g.isFirst && !(plan.manner matches .between _) && plan.last.any (· == g.word)
    if ¬ isLast then useWord l plan g.word g.size
  let p ← get
  if plan.mark.isNone ∧ (¬ p.words.isEmpty ∨ (plan.always ∧ p.runs = 0)) then runGathered l plan

/-- Runs the program as planned, and gives the exit code. -/
def run (l : Launcher) (plan : Plan) (descriptor : Nat) : Task Int := do
  let name := plan.command.headD []
  let (result, p) ← (runAll l plan descriptor).run.run
    ⟨[], sizeOf plan.command, 0, [], 0, 0, false⟩
  let (rest, q) ← (Run.collectAll name).run.run p
  match result, rest with
  | .ok (), .ok () => return q.status
  | .error code, .ok () => return if q.status ≠ 0 then q.status else code
  | _, .error code => return code

/-- How the tool takes options. -/
def usage : List OptionForm :=
  OptionForm.flags [('0', "null")] ++
    OptionForm.valuedFlags [('a', "arg-file"), ('d', "delimiter")] ++
    [⟨some 'e', some "eof", .perhaps⟩, ⟨some 'i', some "replace", .perhaps⟩,
      ⟨some 'l', some "max-lines", .perhaps⟩] ++
    OptionForm.valuedFlags [('n', "max-args")] ++
    OptionForm.flags [('o', "open-tty"), ('p', "interactive"), ('r', "no-run-if-empty")] ++
    OptionForm.valuedFlags [('s', "max-chars")] ++ OptionForm.flags [('t', "verbose")] ++
    OptionForm.names ["show-limits"] ++ OptionForm.flags [('x', "exit")] ++
    OptionForm.valuedFlags [('P', "max-procs")] ++ OptionForm.valuedNames ["process-slot-var"] ++
    OptionForm.valuedLetters "EIL"

/-- The greatest room for arguments besides the variables of the process. -/
def greatestRoom : Task Nat := do
  let size := ((← Task.process).bindings.filter (·.2.exported)).foldl
    (fun n (name, v) => n + name.length + ((v.value.getD []).length) + 2) 0
  return 2097152 - 2048 - size

/-- The room for arguments if nothing else is said. -/
def usualRoom : Nat := 131072

/-- What is wrong with a number that an option is given. -/
inductive Wrong where
  | invalid
  | tooSmall (least : Int)
  | tooGreat (greatest : Int)

/-- The number that an option is given. -/
def numberOf (least : Int) (greatest : Option Int) (t : Text) : Except Wrong Int :=
  match LeadingInteger.ofText? false t with
  | none => .error .invalid
  | some ⟨value, left⟩ =>
    let n := saturate value
    if ¬ left.isEmpty then .error .invalid
    else if n < least then .error (.tooSmall least)
    else
      match greatest with
      | some greatest => if greatest < n then .error (.tooGreat greatest) else .ok n
      | none => .ok n

/-- Tells what is wrong with a number that an option is given. -/
def tellWrong (letter : Char) (t : Text) (wrong : Wrong) : Task Unit :=
  let option := " for -".toList ++ letter :: " option ".toList
  match wrong with
  | .invalid =>
    complain ("invalid number \"".toList ++ t ++ "\" for -".toList ++ letter :: " option".toList)
  | .tooSmall least =>
    complain ("value ".toList ++ t ++ option ++ "should be >= ".toList ++ signedNumeral least)
  | .tooGreat greatest =>
    complain ("value ".toList ++ t ++ option ++ "should be <= ".toList ++ signedNumeral greatest)

/-- The byte that a text names, or what is wrong with it. -/
def delimiterOf (t : Text) : Except Text UInt8 :=
  let byte (c : Char) : UInt8 := UInt8.ofNat c.toNat
  let ofNumber (base : Nat) (greatest : String) (digits : Text) : Except Text UInt8 :=
    let used := digits.takeWhile fun c => (digitIn? base c).isSome
    let value := digitsIn base used
    let faulty := "Invalid escape sequence ".toList ++ t ++ " in input delimiter specification; ".toList
    if 255 < value then
      .error (faulty ++ ("character values must not exceed " ++ greatest ++ ".").toList)
    else if used.length ≠ digits.length then
      .error (faulty ++ "trailing characters ".toList ++ digits.drop used.length ++
        " not recognised.".toList)
    else .ok (UInt8.ofNat value)
  match t with
  | [c] => .ok (byte c)
  | '\\' :: c :: cs =>
    match ("abfnrtv\\".toList.zip "\x07\x08\x0c\n\x0d\t\x0b\\".toList).lookup c with
    | some c => .ok (byte c)
    | none =>
      if c = 'x' then ofNumber 16 "ff" cs
      else if c.isDigit then ofNumber 8 "377" (c :: cs)
      else
        .error ("Invalid escape sequence ".toList ++ t ++
          " in input delimiter specification.".toList)
  | _ =>
    .error ("Invalid input delimiter specification ".toList ++ t ++ (": the delimiter must be " ++
      "either a single character or an escape sequence starting with \\.").toList)

/-- Warns that an option makes another one void. -/
def warnVoid (option void : String) : Task Unit :=
  complain (("warning: options " ++ void ++ " and " ++ option ++
    " are mutually exclusive, ignoring previous " ++ void ++ " value").toList)

/-- Warns of options that another one makes void, and takes them out of a plan. -/
def voiding (option : String) (lines calls mark : Bool) (plan : Plan) : Task Plan := do
  let mut plan := plan
  if calls ∧ plan.perCall.isSome then
    warnVoid option "--max-args"
    plan := { plan with perCall := none }
  if lines ∧ plan.perLines.isSome then
    warnVoid option "--max-lines"
    plan := { plan with perLines := none }
  if mark ∧ plan.mark.isSome then
    warnVoid option "--replace"
    plan := { plan with mark := none }
  return plan

/-- A plan with an option taken into account, or an exit code. -/
def Plan.withOption (greatest : Nat) (key : String) (value : Text) (plan : Plan) :
    Task (Except Int Plan) := do
  let numbered (letter : Char) (least : Int) (most : Option Int) (use : Nat → Task Plan) :
      Task (Except Int Plan) := do
    match numberOf least most value with
    | .ok n => return .ok (← use n.toNat)
    | .error wrong =>
      tellWrong letter value wrong
      match wrong, letter with
      | .tooSmall n, 's' => return .ok (← use n.toNat)
      | .tooGreat n, 's' => return .ok (← use n.toNat)
      | _, _ =>
        pointToHelp
        return .error 1
  match key with
  | "0" => return .ok { plan with manner := .between 0 }
  | "d" =>
    match delimiterOf value with
    | .ok b => return .ok { plan with manner := .between b }
    | .error message =>
      complain message
      return .error 1
  | "E" => return .ok { plan with last := if value.isEmpty then none else some value }
  | "e" => return .ok { plan with last := if value.isEmpty then none else some value }
  | "I" =>
    return .ok { ← voiding "--replace/-I/-i" true true false plan with mark := some value }
  | "i" =>
    let mark := if value.isEmpty then "\x7b\x7d".toList else value
    return .ok { ← voiding "--replace/-I/-i" true true false plan with mark := some mark }
  | "L" =>
    numbered 'L' 1 none fun n => do
      return { ← voiding "-L" false true true plan with perLines := some n }
  | "l" =>
    if value.isEmpty then
      return .ok { ← voiding "--max-lines/-l" false true true plan with perLines := some 1 }
    numbered 'l' 1 none fun n => do
      return { ← voiding "--max-lines/-l" false true true plan with perLines := some n }
  | "n" =>
    numbered 'n' 1 none fun n => do
      if n = 1 ∧ plan.mark.isSome then return plan
      return { ← voiding "--max-args/-n" true false true plan with perCall := some n }
  | "s" => numbered 's' 1 (some greatest) fun n => return { plan with room := n }
  | "P" => numbered 'P' 0 (some 2147483647) fun n => return { plan with slots := n }
  | "process-slot-var" =>
    if value.contains '=' then
      complain "option --process-slot-var may not be set to a value which includes \x60='".toList
      return .error 1
    if value.isEmpty then
      complain "failed to unset environment variable : Invalid argument".toList
      return .error 1
    return .ok { plan with slotName := some value }
  | "p" => return .ok { plan with asks := true }
  | "r" => return .ok { plan with always := false }
  | "t" => return .ok { plan with shows := true }
  | "x" => return .ok { plan with isExact := true }
  | "a" => return .ok { plan with leavesInput := value ≠ ['-'] }
  | _ => return .ok plan

/-- The plan that options make, or an exit code. -/
def planOf (greatest : Nat) : Given → Plan → Task (Except Int Plan)
  | [], plan => return .ok plan
  | (key, value) :: given, plan => do
    match ← plan.withOption greatest key value with
    | .error code => return .error code
    | .ok plan => planOf greatest given plan

/-- Shows how long arguments may be. -/
def showLimits (greatest room : Nat) : Task Unit := do
  let size := 2097152 - 2048 - greatest
  Task.print 2 ("Your environment variables take up ".toList ++ numeral size ++
    " bytes\nPOSIX upper limit on argument length (this system): ".toList ++ numeral greatest ++
    ("\nPOSIX smallest allowable upper limit on argument length (all systems): 4096\n" ++
      "Maximum length of command we could actually use: ").toList ++ numeral (greatest - size) ++
    "\nSize of command buffer we are actually using: ".toList ++ numeral room ++
    "\nMaximum parallelism (--max-procs must be no greater): 2147483647\n".toList)

/-- Runs a program with arguments that are read. -/
def withOptions (l : Launcher) (given : Given) (operands : List Text) : Task Int := do
  let greatest ← greatestRoom
  let command := if operands.isEmpty then ["echo".toList] else operands
  let plan : Plan := ⟨.words false, command, none, none, none, none, usualRoom, false, false, false,
    false, true, 1, none⟩
  match ← planOf greatest given plan with
  | .error code => return code
  | .ok plan =>
    let plan := { plan with
      manner := match plan.manner with
        | .words _ => .words plan.mark.isSome
        | manner => manner
      isExact := plan.isExact || plan.mark.isSome || plan.perLines.isSome }
    if plan.last.isSome ∧ (plan.manner matches .between _) then
      complain "warning: the -E option has no effect if -0 or -d is used.\n".toList
    let path := (given.value? "a").getD ['-']
    let result ← withInput path fun descriptor => do
      if given.has "show-limits" then showLimits greatest plan.room
      run l plan descriptor
    match result with
    | .ok code => return code
    | .error fault =>
      complain ("Cannot open input file ".toList ++ Quoting.word path ++ ": ".toList ++
        fault.message)
      return 1

end Arguments

/-- Runs a program with arguments that are read. -/
def xargs (l : Launcher) (arguments : List Text) : Task Int :=
  (Usage.strict Arguments.usage).call (Arguments.withOptions l) arguments

end LineShell.Sh.Tool
