import LineShell.Computer.Search.Syntax
import LineShell.Computer.Sh.Pattern
import LineShell.Computer.Sh.Tool.Changes.Beside
import LineShell.Computer.Sh.Tool.Changes.Formats
import LineShell.Computer.Sh.Tool.Difference
import LineShell.Computer.Sh.Tool.Entries

/-!
# The tool that compares texts

Two files are compared line by line, and the changes that lead from one to the other are written.  Two
directories are compared file by file.
-/

namespace LineShell.Sh.Tool

namespace Changes

/-- How the tool takes options. -/
def forms : List OptionForm :=
  OptionForm.names ["binary"] ++ OptionForm.flags [('q', "brief")] ++
    OptionForm.valuedNames ["changed-group-format"] ++ [⟨none, some "color", .perhaps⟩,
      ⟨none, some "context", .perhaps⟩] ++
    OptionForm.flags [('e', "ed")] ++
    OptionForm.valuedFlags [('x', "exclude"), ('X', "exclude-from")] ++
    OptionForm.flags [('t', "expand-tabs"), ('f', "forward-ed")] ++
    OptionForm.valuedNames ["from-file", "horizon-lines"] ++
    OptionForm.valuedFlags [('D', "ifdef")] ++
    OptionForm.flags [('w', "ignore-all-space"), ('B', "ignore-blank-lines"),
      ('i', "ignore-case")] ++ OptionForm.names ["ignore-file-name-case"] ++
    OptionForm.valuedFlags [('I', "ignore-matching-lines")] ++
    OptionForm.flags [('b', "ignore-space-change"), ('E', "ignore-tab-expansion"),
      ('Z', "ignore-trailing-space")] ++ OptionForm.names ["inhibit-hunk-merge"] ++
    OptionForm.flags [('T', "initial-tab")] ++ OptionForm.valuedFlags [('L', "label")] ++
    OptionForm.names ["left-column"] ++
    OptionForm.valuedNames ["line-format"] ++ OptionForm.flags [('d', "minimal"),
      ('N', "new-file")] ++ OptionForm.valuedNames ["new-group-format", "new-line-format"] ++
    OptionForm.names ["no-dereference", "no-ignore-file-name-case", "normal"] ++
    OptionForm.valuedNames ["old-group-format", "old-line-format"] ++
    OptionForm.flags [('l', "paginate")] ++ OptionForm.valuedNames ["palette"] ++
    OptionForm.flags [('n', "rcs"), ('r', "recursive"), ('s', "report-identical-files"),
      ('p', "show-c-function")] ++
    OptionForm.valuedFlags [('F', "show-function-line")] ++
    OptionForm.flags [('y', "side-by-side"), ('H', "speed-large-files")] ++
    OptionForm.valuedFlags [('S', "starting-file")] ++
    OptionForm.names ["strip-trailing-cr", "suppress-blank-empty", "suppress-common-lines"] ++
    OptionForm.valuedNames ["tabsize"] ++ OptionForm.flags [('a', "text")] ++
    OptionForm.valuedNames ["to-file", "unchanged-group-format", "unchanged-line-format"] ++
    OptionForm.names ["unidirectional-new-file"] ++ [⟨none, some "unified", .perhaps⟩] ++
    OptionForm.valuedFlags [('W', "width")] ++
    OptionForm.letters "0123456789chuP" ++ OptionForm.valuedLetters "CU"

/-- What is asked for. -/
structure Wish where
  manner : Manner
  columns : Columns
  formats : Formats
  /-- It is only told that files differ. -/
  isBrief : Bool
  /-- It is told that files are the same. -/
  tellsSame : Bool
  /-- Directories within directories are compared too. -/
  isRecursive : Bool
  /-- Files that are missing count as empty. -/
  countsMissing : Bool
  /-- Files that are missing in the first directory count as empty. -/
  countsNew : Bool
  /-- All files count as texts. -/
  isText : Bool
  follows : Bool
  excluded : List Pattern
  startingFile : Text
  /-- The options, as they were given. -/
  switches : Text

/-- The layout for which an option asks. -/
def layoutOf? (option : String × Text) : Option Layout :=
  match option.1 with
  | "c" => some .context
  | "C" => some .context
  | "context" => some .context
  | "u" => some .unified
  | "U" => some .unified
  | "unified" => some .unified
  | "e" => some .script
  | "f" => some .forward
  | "n" => some .counted
  | "y" => some .beside
  | "D" => some .merged
  | "normal" => some .plain
  | "line-format" => some .merged
  | key =>
    if "-line-format".toList.isSuffixOf key.toList || "-group-format".toList.isSuffixOf key.toList then
      some .merged
    else none

/-- Refuses a call. -/
def refuse (misuse : Misuse) : Task Int := do
  if misuse.pointsToHelp then return ← refuseNamed misuse.message
  misuse.refuse 2

/-- The layout for which options ask. -/
def layoutOf (given : Given) : Except Misuse Layout :=
  match (given.filterMap layoutOf?).eraseDups with
  | [] => .ok (if given.has "p" then .context else .plain)
  | [layout] => .ok layout
  | _ => .error (.ofForm "conflicting output style options".toList)

/-- The number that digits among the options make up. -/
def digitsGiven : (digits : Option Text) → Given → Option Nat
  | digits, [] => digits.map digitsValue
  | digits, (key, _) :: rest =>
    match key.toList with
    | [c] =>
      if c.isDigit then digitsGiven (some (digits.getD [] ++ [c])) rest
      else digitsAfter digits rest
    | _ => digitsAfter digits rest
where
  /-- The number of the next digits, or else of those before. -/
  digitsAfter (digits : Option Text) (rest : Given) : Option Nat :=
    let next := rest.dropWhile fun (key, _) => !key.toList.all Char.isDigit
    if next.isEmpty then digits.map digitsValue
    else some (digitsValue ((next.takeWhile fun (key, _) => key.toList.all Char.isDigit).flatMap
      fun (key, _) => key.toList))

/-- How many lines around changes options ask for. -/
def aroundOf (given : Given) (layout : Layout) : Except Misuse Nat := do
  let sizes ← given.mapM fun (key, t) =>
    if key = "C" ∨ key = "U" ∨ ((key = "context" ∨ key = "unified") ∧ ¬ t.isEmpty) then
      if t.all Char.isDigit ∧ ¬ t.isEmpty then .ok (some (digitsValue t))
      else .error (.ofForm ("invalid context length '".toList ++ t ++ ['\'']))
    else .ok none
  let usual := if given.hasAny "cu" || given.any (fun (key, t) =>
      (key = "context" || key = "unified") && t.isEmpty) then 3 else 0
  let exact := sizes.filterMap id
  let size := exact.foldl max usual
  if ¬ layout.showsAround then return 0
  match digitsGiven none given with
  | some n => return if size < n || exact.isEmpty then n else size
  | none => return if exact.isEmpty then 3 else size

/-- An expression that options give. -/
def expressionOf (t : Text) : Except Misuse Search.Expression :=
  match Search.compile .basic (Search.symbols t).toList with
  | .ok compiled => .ok compiled.expression
  | .error fault => .error (.ofValue (t ++ ": ".toList ++ fault.message.toList))

/-- The blanks that do not count, as options say. -/
def blanksOf (given : Given) : Blanks :=
  if given.has "w" then .all
  else if given.has "b" then .amount
  else if given.has "Z" then .ending (given.has "E")
  else if given.has "E" then .tabs
  else .none

/-- A number that an option gives. -/
def sizeOf (given : Given) (key : String) (usual : Nat) (name : String) :
    Except Misuse Nat :=
  match given.value? key with
  | none => .ok usual
  | some t =>
    if t.all Char.isDigit && !t.isEmpty && digitsValue t ≠ 0 then .ok (digitsValue t)
    else .error (.ofForm ("invalid ".toList ++ name.toList ++ " '".toList ++ t ++ ['\'']))

/-- What options ask for. -/
def Wish.ofGiven (given : Given) (excluded : List Text) (switches : Text) :
    Except Misuse Wish := do
  let layout ← layoutOf given
  let around ← aroundOf given layout
  let tabSize ← sizeOf given "tabsize" 8 "tabsize"
  let width ← sizeOf given "W" 130 "width"
  let ignored ← (given.values "I").mapM expressionOf
  let named ← (given.values "F").mapM expressionOf
  let heads ← if given.has "p" then [expressionOf "^[[:alpha:]$_]".toList].mapM id else .ok []
  if 2 < (given.values "L").length then throw (.ofValue "too many file label options".toList)
  let likeness : Likeness := {
    ignoresCase := given.has "i"
    blanks := blanksOf given
    stripsReturns := given.has "strip-trailing-cr"
    ignoresEmpty := given.has "B"
    ignored
    isExact := given.has "d" }
  let manner : Manner := {
    layout
    likeness
    around
    expandsTabs := given.has "t"
    startsWithTab := given.has "T"
    baresEmpty := given.has "suppress-blank-empty"
    tabSize
    headings := if (heads ++ named).isEmpty then none else some (heads ++ named)
    labels := given.values "L" }
  return {
    manner
    columns := .ofWidth width tabSize (given.has "t") (given.has "suppress-common-lines")
      (given.has "left-column")
    formats := .ofGiven given
    isBrief := given.has "q"
    tellsSame := given.has "s"
    isRecursive := given.has "r"
    countsMissing := given.has "N"
    countsNew := given.has "P" || given.has "unidirectional-new-file"
    isText := given.has "a"
    follows := !given.has "no-dereference"
    excluded := excluded.map fun t => .ofGlyphs PatternRules.fileNames (Glyph.plain t)
    startingFile := (given.value? "S").getD []
    switches }

/-- What is compared. -/
inductive Item where
  /-- It is missing, and counts as empty. -/
  | nothing
  | standardInput
  | found (id : NodeId) (node : Node)
  | faulty (fault : FileFault)

namespace Item

/-- It is a directory. -/
def isDirectory : Item → Bool
  | found _ node => node.isDirectory
  | _ => false

/-- It is a file with content. -/
def isPlain : Item → Bool
  | found _ node => node.isFile
  | standardInput => true
  | _ => false

/-- What is at a path. -/
def ofPath (follow isTop : Bool) (path : Text) : Task Item := do
  if isTop ∧ path = ['-'] then return .standardInput
  match ← look follow path with
  | .ok (id, node) => return .found id node
  | .error fault => return .faulty fault

end Item

/-- The names of two things. -/
structure Names where
  first : Text
  second : Text

/-- Complains about a file. -/
def complainOfFile (path : Text) (fault : FileFault) : Task Int := do
  complain (path ++ ": ".toList ++ fault.message)
  return 2

/-- How many bytes tell if a file is a text. -/
def probeSize : Nat := 4096

/-- Tells that two files differ. -/
def tellDifferent (w : Wish) (n : Names) (kind : String) : Task Unit :=
  let shown (i : Nat) (name : Text) : Text := (w.manner.labels[i]?).getD name
  printLine (kind.toList ++ ' ' :: shown 0 n.first ++ " and ".toList ++ shown 1 n.second ++
    " differ".toList)

/-- Compares the bytes of two files. -/
def compareBytes (w : Wish) (n : Names) (isTop : Bool) (first second : Calendar.Moment × List UInt8) :
    Task Int := do
  let isBinary (bytes : List UInt8) : Bool := (bytes.take probeSize).contains 0
  if !w.isText && (isBinary first.2 || isBinary second.2) then
    if first.2 == second.2 then return 0
    tellDifferent w n (if w.isBrief then "Files" else "Binary files")
    return 1
  let m := w.manner
  let a := Sheet.ofBytes m.likeness n.first first.1 first.2
  let b := Sheet.ofBytes m.likeness n.second second.1 second.2
  let r : Report := ⟨m, a, b⟩
  let changes := changesBetween m.likeness m.around m.layout.isRobust a b
  let differ := changes.any fun c => (r.extent? [c]).isSome
  if w.isBrief then
    if differ then tellDifferent w n "Files"
    return if differ then 1 else 0
  let mut status : Int := if differ then 1 else 0
  unless m.layout.isRobust do
    for s in [a, b] do
      unless s.isEnded do
        complain (s.name ++ ": No newline at end of file\n".toList)
        status := 2
  let shown := match m.layout with
    | .beside => w.columns.written r 0 0 changes
    | .merged => w.formats.written r 0 0 changes
    | _ => r.written changes
  unless shown.isEmpty do
    unless isTop do
      printLine ("diff".toList ++ w.switches ++ ' ' :: n.first ++ ' ' :: n.second)
    emit shown
  return status

/-- The bytes of something, and when it was altered, or the exit code after a complaint. -/
def contentOf (path : Text) : Item → Task (Except Int (Calendar.Moment × List UInt8))
  | .nothing => return .ok (.ofSeconds 0 0, [])
  | .faulty fault => return .error (← complainOfFile path fault)
  | .standardInput => do
    let time := (← Task.process).time
    match ← Task.takeAll 0 with
    | .ok bytes => return .ok (.ofSeconds (time / 1000000 : Nat) (time % 1000000 * 1000), bytes)
    | .error fault => return .error (← complainOfFile path fault)
  | .found _ node => do
    match ← bytesOf (if path = ['-'] then "./-".toList else path) with
    | .ok bytes =>
      return .ok (.ofSeconds (node.time.fdiv 1000000) ((node.time.fmod 1000000).toNat * 1000), bytes)
    | .error fault => return .error (← complainOfFile path fault)

/-- Compares two files. -/
def compareFiles (w : Wish) (n : Names) (isTop : Bool) (first second : Item) : Task Int := do
  let isSame : Bool := match first, second with
    | .found i _, .found j _ => i == j
    | .standardInput, .standardInput => true
    | _, _ => false
  let showsSame := w.manner.layout = .beside && !w.columns.hidesCommon || w.manner.layout = .merged
  if isSame ∧ ¬ showsSame then return 0
  match ← contentOf n.first first with
  | .error status => return status
  | .ok a =>
    if isSame then return ← compareBytes w n isTop a a
    match ← contentOf n.second second with
    | .error status => return status
    | .ok b => compareBytes w n isTop a b

/-- Tells that something is in one directory only. -/
def tellOnly (directory name : Text) : Task Int := do
  printLine ("Only in ".toList ++ directory ++ ": ".toList ++ name)
  return 1

/-- The names in a directory that are compared, in order. -/
def namesIn (w : Wish) (path : Text) : Item → Task (Except Int (List Text))
  | .found id _ => do
    match (← Task.files).listed id with
    | .ok entries =>
      let names := entries.map Prod.fst
      return .ok (sorted (names.filter fun name =>
        !(w.excluded.any fun p => p.isMatch name) &&
          (w.startingFile.isEmpty || !comesFirst name w.startingFile || name = w.startingFile)))
    | .error fault => return .error (← complainOfFile path fault)
  | _ => return .ok []

/-- The names of two directories in one order; each is told with the sides on which it is. -/
def merged : (fuel : Nat) → List Text → List Text → List (Text × Bool × Bool)
  | 0, _, _ => []
  | _, [], bs => bs.map (·, false, true)
  | _, as, [] => as.map (·, true, false)
  | fuel + 1, a :: as, b :: bs =>
    if a = b then (a, true, true) :: merged fuel as bs
    else if comesFirst a b then (a, true, false) :: merged fuel as (b :: bs)
    else (b, false, true) :: merged fuel (a :: as) bs

/-- Tells that two things cannot be compared. -/
def tellKinds (n : Names) (a b : Node) : Task Int := do
  printLine ("File ".toList ++ n.first ++ " is a ".toList ++ kindWord a ++ " while file ".toList ++
    n.second ++ " is a ".toList ++ kindWord b)
  return 1

/-- Tells that two files are the same, if that is asked for. -/
def tellSame (w : Wish) (n : Names) (first : Item) (status : Int) : Task Unit := do
  if status = 0 ∧ w.tellsSame ∧ ¬ first.isDirectory then
    let shown (i : Nat) (name : Text) : Text := (w.manner.labels[i]?).getD name
    printLine ("Files ".toList ++ shown 0 n.first ++ " and ".toList ++ shown 1 n.second ++
      " are identical".toList)

/-- Compares two things within directories, or the directories themselves, as deeply as given.  They
are told with the directories in which they are. -/
def compareItems (w : Wish) : (fuel : Nat) → (around : Option Names) → (name : Text) → Names →
    Item → Item → Task Int
  | 0, _, _, _, _, _ => return 0
  | fuel + 1, around, name, n, first, second => do
    let isTop := around.isNone
    let directories : Task Int := do
      match ← namesIn w n.first first, ← namesIn w n.second second with
      | .error status, _ => return status
      | _, .error status => return status
      | .ok as, .ok bs =>
        let mut status : Int := 0
        for (name, inFirst, inSecond) in merged (as.length + bs.length + 1) as bs do
          let inner : Names := ⟨Path.join n.first name, Path.join n.second name⟩
          let counts := w.countsMissing || (w.countsNew && inSecond)
          let result ←
            if !(inFirst && inSecond) && !counts then
              tellOnly (if inFirst then n.first else n.second) name
            else do
              let a ← if inFirst then Item.ofPath w.follows false inner.first else pure .nothing
              let b ← if inSecond then Item.ofPath w.follows false inner.second else pure .nothing
              compareItems w fuel (some n) name inner a b
          status := max status result
        return status
    let status ← match first, second with
      | .faulty fault, .faulty other => do
        let _ ← complainOfFile n.first fault
        complainOfFile n.second other
      | .faulty fault, _ => complainOfFile n.first fault
      | _, .faulty fault => complainOfFile n.second fault
      | .nothing, .nothing => return 0
      | first, second =>
        if first.isDirectory && second.isDirectory then
          match first, second with
          | .found i _, .found j _ =>
            if i = j then return 0
          | _, _ => pure ()
          if w.manner.layout = .merged then
            complain "-D option not supported with directories".toList
            return 2
          if isTop || w.isRecursive then directories
          else
            printLine ("Common subdirectories: ".toList ++ n.first ++ " and ".toList ++ n.second)
            return 0
        else
          let isLone := (first.isDirectory || second.isDirectory) &&
            (match first, second with
              | .nothing, _ => true
              | _, .nothing => true
              | _, _ => false)
          if isLone then
            if w.isRecursive then directories
            else
              let place := around.getD n
              tellOnly (if first.isDirectory then place.first else place.second) name
          else
            match first, second with
            | .found _ a, .found _ b =>
              let isOdd := !(first.isPlain && second.isPlain) &&
                (!isTop || a.isLink != b.isLink)
              if first.isDirectory || second.isDirectory || isOdd then tellKinds n a b
              else compareFiles w n isTop first second
            | first, second => compareFiles w n isTop first second
    tellSame w n first status
    return status

/-- Compares what two operands name. -/
def compareOperands (w : Wish) (a b : Text) : Task Int := do
  let first ← Item.ofPath w.follows true a
  let second ← if a = b then pure first else Item.ofPath w.follows true b
  let isMissing : Item → Bool
    | .faulty .missing => true
    | .faulty .badDescriptor => true
    | _ => false
  let isThere : Item → Bool
    | .found _ _ => true
    | .standardInput => true
    | _ => false
  let first := if (w.countsMissing || w.countsNew) && isMissing first && isThere second
    then .nothing else first
  let second := if w.countsMissing && isMissing second && isThere first then .nothing else second
  let fuel := (← Task.files).nodes.size + 2
  let within (directory file : Text) : Text := Path.join directory (Path.lastName file)
  match first, second with
  | .found _ _, .standardInput =>
    if first.isDirectory then
      complain "cannot compare '-' to a directory".toList
      return 2
    compareItems w fuel none a ⟨a, b⟩ first second
  | .standardInput, .found _ _ =>
    if second.isDirectory then
      complain "cannot compare '-' to a directory".toList
      return 2
    compareItems w fuel none a ⟨a, b⟩ first second
  | .found _ x, .found _ y =>
    if x.isDirectory && !y.isDirectory then
      let path := within a b
      compareItems w fuel none a ⟨path, b⟩ (← Item.ofPath w.follows false path) second
    else if y.isDirectory && !x.isDirectory then
      let path := within b a
      compareItems w fuel none a ⟨a, path⟩ first (← Item.ofPath w.follows false path)
    else compareItems w fuel none a ⟨a, b⟩ first second
  | first, second => compareItems w fuel none a ⟨a, b⟩ first second

/-- The words of a call that are no operands, where both stand in reversed order. -/
def otherWords : (words operands : List Text) → List Text
  | [], _ => []
  | words, [] => words
  | word :: words, operand :: operands =>
    if word = operand then otherWords words operands
    else word :: otherWords words (operand :: operands)

/-- The patterns of names that are not compared, or what is wrong. -/
def exclusions (given : Given) : Task (Except Text (List Text)) := do
  let mut found := given.values "x"
  for path in given.values "X" do
    match ← bytesOf path with
    | .ok bytes => found := found ++ ((lines bytes).map Raw.ofBytes).filter (!·.isEmpty)
    | .error fault => return .error (path ++ ": ".toList ++ fault.message)
  return .ok found

end Changes

/-- Compares files line by line. -/
def diff (arguments : List Text) : Task Int := do
  match Given.read Changes.forms .free none arguments with
  | .error message => refuseNamed message
  | .ok (given, operands) =>
    let options := (Changes.otherWords arguments.reverse operands.reverse).reverse
    let switches := options.flatMap fun t => ' ' :: Quoting.ifNeeded t
    match ← Changes.exclusions given with
    | .error message =>
      complain message
      return 2
    | .ok excluded =>
      match Changes.Wish.ofGiven given excluded switches with
      | .error misuse => Changes.refuse misuse
      | .ok w =>
        let compareAll (pairs : List (Text × Text)) : Task Int := do
          let mut status : Int := 0
          for (a, b) in pairs do
            status := max status (← Changes.compareOperands w a b)
          return status
        match given.value? "from-file", given.value? "to-file", operands with
        | some _, some _, _ =>
          complain "--from-file and --to-file both specified".toList
          return 2
        | some a, none, operands => compareAll (operands.map (a, ·))
        | none, some b, operands => compareAll (operands.map (·, b))
        | none, none, [a, b] => compareAll [(a, b)]
        | none, none, operands =>
          match operands[2]? with
          | some extra => refuseNamed ("extra operand '".toList ++ extra ++ ['\''])
          | none =>
            let last := operands.getLast?.getD (arguments.getLastD (← Task.process).name)
            refuseNamed ("missing operand after '".toList ++ last ++ ['\''])

end LineShell.Sh.Tool
