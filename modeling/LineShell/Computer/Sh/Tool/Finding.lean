import LineShell.Computer.Sh.Tool.Arguments
import LineShell.Computer.Sh.Tool.Finding.Reading

/-!
# Finding files

Directories are searched from some paths on, and a criterion is asked of each file that is found.
-/

namespace LineShell.Sh.Tool

namespace Finding

/-- The files that are kept for a program, last one first. -/
structure Gathered where
  /-- The directory in which it is run. -/
  directory : NodeId
  paths : List Text
  size : Nat

/-- What has happened. -/
structure Progress where
  /-- The files kept for programs, by the places of the programs. -/
  gathered : List (Nat × Gathered)
  failed : Bool
  /-- What is in the present directory is passed over. -/
  prunes : Bool
  /-- How deep the last file was. -/
  level : Option Nat
  /-- It has been told why nothing is known of the present file. -/
  isTold : Bool

/-- Goes on, or stops because it is asked to. -/
abbrev Search := ExceptT Unit (StateT Progress Task)

namespace Search

/-- A task as a part of a search. -/
def ofTask {α : Type} (task : Task α) : Search α := liftM (m := Task) task

/-- Complains of something, so that the search fails. -/
def complainOf (message : Text) : Search Unit := do
  ofTask (complain message)
  modify fun p => { p with failed := true }

/-- Complains of a fault of a file. -/
def complainAbout (path : Text) (fault : FileFault) : Search Unit :=
  complainOf (Quoting.word path ++ ": ".toList ++ fault.message)

/-- Runs a program in a directory and tells if it succeeds. -/
def runProgram (l : Launcher) (directory : Option NodeId) (hasInput : Bool) (command : List Text) :
    Search Bool := do
  let name := command.headD []
  let input ← ofTask do
    if hasInput then return none
    return (← Task.openFree .input "/dev/null".toList).toOption
  let place (p : Process) : Process :=
    match directory with
    | some id => { p with directory := id }
    | none => p
  let begun ← ofTask do
    match input with
    | none => l.begins place name command.tail
    | some descriptor =>
      let channel := ((← Task.process).descriptors.lookup descriptor).getD 0
      let begun ← l.begins (fun p => withConnections [(0, channel)] (place p)) name command.tail
      Task.disconnect descriptor
      return begun
  match begun with
  | .error fault =>
    ofTask (complain (Quoting.word name ++ ": ".toList ++ fault.message))
    return false
  | .ok id =>
    let ending := (← ofTask (Control.collectOne [id])).2
    if let some signal := ending.signal then
      ofTask (complain (Quoting.word name ++ " terminated by signal ".toList ++ numeral signal))
    return ending.code = 0

/-- Runs a program with the files that are kept for it. -/
def runGathered (l : Launcher) (plan : Plan) (index : Nat) : Search Unit := do
  match (← get).gathered.lookup index, plan.gatherers[index]? with
  | some g, some gatherer =>
    modify fun p => { p with gathered := p.gathered.filter (·.1 ≠ index) }
    let directory := if gatherer.within then some g.directory else none
    if ¬ (← runProgram l directory true (gatherer.command ++ g.paths.reverse)) then
      modify fun p => { p with failed := true }
  | _, _ => pure ()

/-- Runs the programs for which files are kept: all of them, or those that are run in the directory
of the files. -/
def runAllGathered (l : Launcher) (plan : Plan) (all : Bool) : Search Unit := do
  for index in (← get).gathered.map Prod.fst do
    if all || (plan.gatherers[index]?).any (·.within) then runGathered l plan index

/-- A file by its name in its directory, and the directory. -/
def placed (e : Entry) : Search (Text × NodeId) := do
  let m ← ofTask get
  let around := if e.path.contains '/' then e.around ++ ['/'] else ['.']
  let around := if (Path.bare e.path).contains '/' then around else ['.']
  let directory := (m.files.find true m.process.directory around).toOption.getD m.process.directory
  let name := lastPart e.path
  return (if name = ['/'] then name else "./".toList ++ name, directory)

/-- A text with a path in the place of each pair of braces. -/
def filled (path : Text) : Text → Text
  | '\x7b' :: '\x7d' :: t => path ++ filled path t
  | c :: t => c :: filled path t
  | [] => []

/-- The letter of the kind that a file has if links count, or if they do not, while in the search
they do not, or do. -/
def otherKind (plan : Plan) (e : Entry) : Search (Except FileFault Char) := do
  if plan.follow = .all then return .ok (kindOf e.itself)
  if ¬ e.itself.isLink then return .ok (kindOf e.node)
  match ← ofTask (look true e.path) with
  | .ok (_, node) => return .ok (kindOf node)
  | .error fault => return .error fault

/-- Tells something of a file. -/
def tell (plan : Plan) (e : Entry) (descriptor : Nat) (telling : Telling) : Search Bool := do
  let write (t : Text) : Search Unit := ofTask do
    if descriptor = 1 then print t else Task.print descriptor t
  let files ← ofTask Task.files
  let withFacts (needed : Bool) (written : Search Text) : Search Bool := do
    match if needed then e.fault else none with
    | some fault =>
      unless (← get).isTold do complainAbout e.path fault
      modify fun p => { p with isTold := true }
      return false
    | none =>
      write (← written)
      return true
  match telling with
  | .line ending =>
    write (e.path ++ [ending])
    return true
  | .listing => withFacts true do return e.listed files (plan.now.fdiv 1000000) ++ ['\n']
  | .described pieces =>
    withFacts (pieces.any Piece.needsFacts) do
      let other := match ← ofTask (look true e.path) with
        | .ok (_, node) => kindOf node
        | .error .missing => 'N'
        | .error .notDirectory => 'N'
        | .error .tooManyLinks => 'L'
        | .error _ => '?'
      return e.described files other pieces

/-- Deletes a file. -/
def delete (e : Entry) : Search Bool := do
  if e.path = ['.'] then return true
  let result ← ofTask (alter fun files directory now =>
    if e.itself.isDirectory then files.removeDirectory directory e.path now
    else files.remove directory e.path now)
  match result with
  | .ok () => return true
  | .error fault =>
    complainOf ("cannot delete ".toList ++ Quoting.word e.path ++ ": ".toList ++ fault.message)
    return false

/-- Keeps a file for a program that is run with many of them. -/
def gather (l : Launcher) (plan : Plan) (e : Entry) (index : Nat) : Search Unit := do
  match plan.gatherers[index]? with
  | none => pure ()
  | some gatherer =>
    let (name, directory) ← placed e
    let path := if gatherer.within then name else e.path
    let initial := Arguments.sizeOf gatherer.command
    if let some g := (← get).gathered.lookup index then
      if Arguments.usualRoom < g.size + path.length + 1 then runGathered l plan index
    let g := ((← get).gathered.lookup index).getD ⟨directory, [], initial⟩
    let g := { g with paths := path :: g.paths, size := g.size + path.length + 1 }
    modify fun p => { p with gathered := Task.assign index g p.gathered }

/-- Does something with a file, and tells if it succeeds. -/
def act (l : Launcher) (plan : Plan) (e : Entry) : Action → Search Bool
  | .tell descriptor telling => tell plan e descriptor telling
  | .run command within asks => do
    if asks then
      ofTask flush
      ofTask (Task.print 2 ("< ".toList ++ command.headD [] ++ " ... ".toList ++ e.path ++
        " > ? ".toList))
      let answer (_ : Bool) (line : List UInt8) (_ : Bool) : Task (Except Bool Bool) :=
        return .error (line.head? = some 0x79 || line.head? = some 0x59)
      match ← ofTask (eachLine 0 newline answer false) with
      | .ok (.error true) => pure ()
      | _ => return false
    let (name, directory) ← placed e
    let path := if within then name else e.path
    runProgram l (if within then some directory else none) (!asks) (command.map (filled path))
  | .gather index => do
    gather l plan e index
    return true
  | .delete => delete e
  | .prune => do
    unless plan.innerFirst do modify fun p => { p with prunes := true }
    return true
  | .quit => do
    runAllGathered l plan true
    throw ()

/-- The questions for which something must be known of a file besides its name and kind. -/
def needsFacts : Test → Bool
  | .always _ => false
  | .pattern .. => false
  | .expression .. => false
  | .kind .. => false
  | .allows _ => false
  | _ => true

/-- Answers a question about a file. -/
def test (plan : Plan) (e : Entry) (t : Test) : Search Bool := do
  if needsFacts t then
    if let some fault := e.fault then
      unless (← get).isTold do complainAbout e.path fault
      modify fun p => { p with isTold := true }
      return false
  let node := e.node
  match t with
  | .always answer => return answer
  | .pattern .name p => return p.isMatch e.name
  | .pattern .path p => return p.isMatch e.path
  | .pattern .target p =>
    match node.kind with
    | .link target => return p.isMatch target
    | _ => return false
  | .expression expression ignoresCase =>
    let s : LineShell.Search.Subject := ⟨Search.symbols e.path, ignoresCase, false, false⟩
    return (expression.matchAt s 0).any fun found => found.last = s.text.size
  | .kind false letters => return letters.contains (kindOf node)
  | .kind true letters =>
    match ← otherKind plan e with
    | .ok c => return letters.contains c
    | .error .missing => return letters.contains 'l'
    | .error .notDirectory => return letters.contains 'l'
    | .error fault =>
      complainAbout e.path fault
      return false
  | .size unit bound => return bound.fits ((node.size + unit - 1) / unit)
  | .empty =>
    match node.kind with
    | .directory .. =>
      match (← ofTask Task.files).listed e.id with
      | .ok entries => return entries.isEmpty
      | .error fault =>
        complainAbout e.path fault
        return false
    | _ => return node.isFile && node.size = 0
  | .names bound => return bound.fits (Listing.linkCount (← ofTask Task.files) e.id)
  | .number bound => return bound.fits (e.id + 1000)
  | .owner bound => return bound.fits 0
  | .after moment => return moment < node.time
  | .window .more start _ => return start < node.time
  | .window .less start _ => return node.time < start
  | .window .equal start length => return start < node.time && node.time ≤ start + length
  | .mode likeness ofFiles ofDirectories =>
    let bits := if node.isDirectory then ofDirectories else ofFiles
    match likeness with
    | .exactly => return node.mode = bits
    | .every => return node.mode &&& bits = bits
    | .any => return node.mode &&& bits ≠ 0
  | .allows permission =>
    match ← ofTask (look true e.path) with
    | .error _ => return false
    | .ok (_, node) =>
      match permission with
      | .reading => return node.isReadable
      | .writing => return node.isWritable
      | .running => return if node.isDirectory then node.isRunnable else node.isExecutable
  | .same id => return e.id = id

/-- Asks a criterion of a file. -/
def ask (l : Launcher) (plan : Plan) (e : Entry) : Criterion → Search Bool
  | .test t => test plan e t
  | .act a => act l plan e a
  | .deny c => do return !(← ask l plan e c)
  | .both c d => do
    if ← ask l plan e c then ask l plan e d else return false
  | .either c d => do
    if ← ask l plan e c then return true else ask l plan e d
  | .second c d => do
    let _ ← ask l plan e c
    ask l plan e d

/-- Notes how deep a file is.  Programs that are run in the directory of files are run when files of
another depth come. -/
def reach (l : Launcher) (plan : Plan) (depth : Nat) : Search Unit := do
  if (← get).level.any (· ≠ depth) then runAllGathered l plan false
  modify fun p => { p with level := some depth }

/-- What is found at a path, or nothing if it is not to be asked.  The node is known if the path was
found in a directory. -/
def entryAt (plan : Plan) (start path : Text) (depth : Nat) (known : Option NodeId) :
    Search (Option Entry) := do
  let follows := plan.follow = .all || (plan.follow = .given && depth = 0)
  match ← ofTask (look false path), known with
  | .error fault, none =>
    complainAbout path fault
    return none
  | .error fault, some id =>
    return ((← ofTask Task.files).node? id).map fun node =>
      ⟨path, start, depth, id, node, node, some fault⟩
  | .ok (id, itself), _ =>
    let plain : Entry := ⟨path, start, depth, id, itself, itself, none⟩
    if ¬ (follows && itself.isLink) then return some plain
    match ← ofTask (look true path) with
    | .ok (id, node) => return some ⟨path, start, depth, id, node, itself, none⟩
    | .error .missing => return some plain
    | .error .notDirectory =>
      complainAbout path .notDirectory
      return some plain
    | .error fault =>
      complainAbout path fault
      return none

/-- The entries of a directory, or nothing if it cannot be read. -/
def entriesOf (e : Entry) : Search (Option (List (Text × NodeId))) := do
  match e.fault with
  | some fault =>
    complainAbout e.path fault
    return none
  | none =>
    match ← ofTask (look true e.path) with
    | .error fault =>
      complainAbout e.path fault
      return none
    | .ok (id, _) =>
      match (← ofTask Task.files).listed id with
      | .ok entries => return some entries
      | .error fault =>
        complainAbout e.path fault
        return none

/-- Asks a criterion of a file and of all that is in it.  `around` are the directories in which it
is. -/
def visit (l : Launcher) (plan : Plan) (criterion : Criterion) :
    (fuel : Nat) → (around : List (NodeId × Text)) → Entry → Search Unit
  | 0, _, _ => pure ()
  | fuel + 1, around, e => do
    reach l plan e.depth
    let asking : Search Unit := do
      if plan.least ≤ e.depth then
        let _ ← ask l plan e criterion
    match if e.node.isDirectory then around.lookup e.id else none with
    | some path =>
      complainOf ("File system loop detected; ".toList ++ Quoting.word e.path ++
        " is part of the same file system loop as ".toList ++ Quoting.word path ++ ['.'])
    | none =>
      modify fun p => { p with prunes := false, isTold := false }
      unless plan.innerFirst do asking
      let isPruned := (← get).prunes || (← get).isTold
      modify fun p => { p with prunes := false }
      if e.node.isDirectory ∧ plan.most.all (e.depth < ·) ∧ ¬ isPruned then
        for (name, id) in (← entriesOf e).getD [] do
          let path := Path.join e.path name
          if let some inner ← entryAt plan e.start path (e.depth + 1) (some id) then
            visit l plan criterion fuel ((e.id, e.path) :: around) inner
        reach l plan e.depth
      if plan.innerFirst then asking

/-- How deep directories may be. -/
def deepest : Nat := 2048

/-- Searches from some paths on. -/
def whole (l : Launcher) (plan : Plan) (criterion : Criterion) (paths : List Text) : Search Unit := do
  for path in paths do
    if let some e ← entryAt plan path path 0 none then visit l plan criterion deepest [] e
  runAllGathered l plan true

end Search

/-- The options in front of the paths, and the words after them; or else an exit code. -/
def leading (plan : Plan) : List Text → Task (Except Int (Plan × List Text))
  | ['-', 'H'] :: rest => leading { plan with follow := .given } rest
  | ['-', 'L'] :: rest => leading { plan with follow := .all } rest
  | ['-', 'P'] :: rest => leading { plan with follow := .none } rest
  | ['-', '-'] :: rest => return .ok (plan, rest)
  | ['-', 'D'] :: rest =>
    match rest with
    | [] => do
      complain "Missing argument after the -D option.".toList
      pointToHelp
      return .error 1
    | _ :: rest => leading plan rest
  | ('-' :: 'O' :: level) :: rest => do
    match level with
    | [] =>
      complain "The -O option must be immediately followed by a decimal integer".toList
      return .error 1
    | c :: _ =>
      if ¬ c.isDigit then
        complain "Please specify a decimal number immediately after -O".toList
        return .error 1
      leading plan rest
  | words => return .ok (plan, words)

/-- The paths in a file, between nulls; or else an exit code. -/
def listedPaths (source : Text) : Task (Except Int (List Text × Bool)) := do
  match ← bytesOf source with
  | .error fault =>
    complain ("cannot open ".toList ++ Quoting.word source ++ " for reading: ".toList ++
      fault.message)
    return .error 1
  | .ok bytes =>
    let all := linesFrom 0 [] bytes
    let shown := if source = ['-'] then "(standard input)".toList else source
    let mut paths := []
    let mut succeeds := true
    for (line, i) in all.zipIdx do
      if line.isEmpty then
        complain (Quoting.word shown ++ ':' :: numeral (i + 1) ++
          ": invalid zero-length file name".toList)
        succeeds := false
      else paths := Raw.ofBytes line :: paths
    return .ok (paths.reverse, succeeds)

/-- Finds files. -/
def run (l : Launcher) (arguments : List Text) : Task Int := do
  let now : Int := ((← Task.process).time : Nat)
  let plan : Plan := ⟨.none, false, false, 0, none, "findutils-default".toList, false, none, now,
    now - 86400 * 1000000, [], [], [], false, false, false, false, [], none⟩
  match ← leading plan arguments with
  | .error code => return code
  | .ok (plan, arguments) =>
    let paths := arguments.takeWhile fun t => !Reading.isWord true t
    let words := arguments.drop paths.length
    let reading : Reading Criterion := do
      Reading.words (words.length + 1) words
      Reading.criterion
    match ← (reading.run).run plan with
    | (.error code, _) => return code
    | (.ok criterion, plan) =>
      if plan.hasPrune ∧ plan.hasDelete ∧ ¬ plan.asksInnerFirst then
        complain (("The -delete action automatically turns on -depth, but -prune does nothing " ++
          "when -depth is in effect.  If you want to carry on anyway, just explicitly use the " ++
          "-depth option.").toList)
        return 1
      let found : Except Int (List Text × Bool) ← do
        match plan.paths, paths with
        | some _, path :: _ =>
          complain ("extra operand ".toList ++ Quoting.word path)
          complain "file operands cannot be combined with -files0-from".toList
          pure (.error 1)
        | some source, [] =>
          if plan.asks ∧ source = ['-'] then
            complain (("option -files0-from reading from standard input cannot be combined with " ++
              "-ok, -okdir\n").toList)
            pure (.error 1)
          else listedPaths source
        | none, [] => pure (.ok ([['.']], true))
        | none, paths => pure (.ok (paths, true))
      match found with
      | .error code => return code
      | .ok (paths, succeeds) =>
        let (_, p) ← ((Search.whole l plan criterion paths).run).run ⟨[], !succeeds, false, none, false⟩
        return if p.failed then 1 else 0

end Finding

/-- Finds files. -/
def find (l : Launcher) (arguments : List Text) : Task Int :=
  Finding.run l arguments

end LineShell.Sh.Tool
