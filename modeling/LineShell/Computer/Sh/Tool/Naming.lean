import LineShell.Computer.Sh.Tool.Basic

/-!
# Names of files

Tools that take paths apart, follow links, and tell where a path leads.
-/

namespace LineShell.Sh.Tool

/-- A path without the slashes at its end. -/
def unslashed (path : Text) : Text :=
  Path.bare path

/-- A name without an ending, unless it is nothing else. -/
def withoutSuffix (suffix name : Text) : Text :=
  if name ≠ suffix ∧ suffix.isSuffixOf name then name.take (name.length - suffix.length) else name

/-- How `basename` takes options. -/
def basenameUsage : Usage :=
  .strict (OptionForm.flags [('a', "multiple"), ('z', "zero")] ++
    OptionForm.valuedFlags [('s', "suffix")])

/-- Writes the last names of paths. -/
def basename (given : Given) (operands : List Text) : Task Int := do
  let ending := if given.has "z" then '\x00' else '\n'
  if operands.isEmpty then return ← refuse "missing operand".toList 1
  let isMultiple := given.has "a" || given.has "s"
  if ¬ isMultiple then
    if let some extra := operands[2]? then return ← refuseExtra extra
  let suffix := if isMultiple then (given.value? "s").getD [] else operands.getD 1 []
  for path in if isMultiple then operands else operands.take 1 do
    print (withoutSuffix suffix (Path.lastName path) ++ [ending])
  return 0

/-- The path of the directory in which the last name of a path stands. -/
def directoryName (path : Text) : Text :=
  let bare := Path.bare path
  if bare = ['/'] then bare
  else
    let before := (bare.reverse.dropWhile (· ≠ '/')).reverse
    if before.isEmpty then ['.'] else Path.bare before

/-- Writes the paths of the directories in which files stand. -/
def dirname (given : Given) (paths : List Text) : Task Int := do
  if paths.isEmpty then return ← refuse "missing operand".toList 1
  for path in paths do
    print (directoryName path ++ [if given.has "z" then '\x00' else '\n'])
  return 0

/-- Writes the current directory. -/
def pwd (given : Given) (operands : List Text) : Task Int := do
  unless operands.isEmpty do complain "ignoring non-option arguments".toList
  let m ← get
  let p ← Task.process
  let named := (p.bindings.lookup "PWD".toList).bind Variable.value
  let isHere (path : Text) : Bool :=
    match m.files.find true FileTree.root path with
    | .ok id => id = p.directory
    | .error _ => false
  match named with
  | some path =>
    if given.lastOf "LP" = some 'L' && Path.isAbsolute path && isHere path then
      printLine path
      return 0
  | none => pure ()
  printLine (m.files.pathOf p.directory)
  return 0

/-- How much of a path has to be there. -/
inductive Presence where
  /-- All of it. -/
  | whole
  /-- All but the last name. -/
  | directory
  /-- Nothing. -/
  | none
deriving DecidableEq, Repr

/-- The path of an entry of a directory, from the root. -/
def entryPath (files : FileTree) (directory : NodeId) (name : Text) : Text :=
  Path.join (files.pathOf directory) name

/-- Names after a path, where dots are understood without a look at files. -/
def appended (path : Text) : List Text → Text
  | [] => path
  | name :: names =>
    if name = [] ∨ name = ['.'] then appended path names
    else if name = ['.', '.'] then appended (directoryName path) names
    else appended (Path.join path name) names

/-- Where a path leads, from the root and without links.  At most `fuel` names at its end may be
missing. -/
def canonicalWithin (files : FileTree) (start : NodeId) (path : Text) :
    (fuel : Nat) → (names missing : List Text) → Except FileFault Text
  | 0, _, _ => .error .missing
  | fuel + 1, names, missing =>
    let text := if names.isEmpty then (if Path.isAbsolute path then ['/'] else ['.'])
      else (if Path.isAbsolute path then ['/'] else []) ++ ['/'].intercalate names
    match files.walk true start text with
    | .ok (.found (some (directory, name)) id) =>
      if files.isDirectory id then .ok (appended (files.pathOf id) missing)
      else .ok (appended (entryPath files directory name) missing)
    | .ok (.found none id) => .ok (appended (files.pathOf id) missing)
    | .ok (.absent directory name _) =>
      .ok (appended (entryPath files directory name) missing)
    | .error .tooManyLinks => .error .tooManyLinks
    | .error _ =>
      match names.getLast? with
      | none => .error .missing
      | some last => canonicalWithin files start path fuel names.dropLast (last :: missing)

/-- Where a path leads, from the root and without links. -/
def canonical (files : FileTree) (start : NodeId) (presence : Presence) (path : Text) :
    Except FileFault Text := do
  if path.isEmpty then throw .missing
  let names := (Path.names path).filter (!·.isEmpty)
  match presence with
  | .none => canonicalWithin files start path (names.length + 1) names []
  | presence =>
    match ← files.walk true start path with
    | .found (some (directory, name)) id =>
      if files.isDirectory id then return files.pathOf id
      return entryPath files directory name
    | .found none id => return files.pathOf id
    | .absent directory name _ =>
      if presence = .whole then throw .missing
      return entryPath files directory name

/-- How `readlink` takes options. -/
def readlinkUsage : Usage :=
  .free (OptionForm.flags [('f', "canonicalize"), ('e', "canonicalize-existing"),
    ('m', "canonicalize-missing"), ('n', "no-newline"), ('q', "quiet"), ('s', "silent"),
    ('v', "verbose"), ('z', "zero")])

/-- Writes where links lead. -/
def readlink (given : Given) (paths : List Text) : Task Int := do
  if paths.isEmpty then return ← refuse "missing operand".toList 1
  let mut status : Int := 0
  let ending : Text := if given.has "z" then ['\x00']
    else if given.has "n" && paths.length = 1 then [] else ['\n']
  if given.has "n" && 1 < paths.length then
    complain "ignoring --no-newline with multiple arguments".toList
  for path in paths do
    let m ← get
    let found : Except FileFault Text := match given.lastOf "fem" with
      | some 'f' => canonical m.files m.process.directory .directory path
      | some 'e' => canonical m.files m.process.directory .whole path
      | some _ => canonical m.files m.process.directory .none path
      | none =>
        match m.files.nodeAt false m.process.directory path with
        | .ok ⟨.link target, _, _⟩ => .ok target
        | .ok _ => .error .invalid
        | .error fault => .error fault
    match found with
    | .ok target => print (target ++ ending)
    | .error fault =>
      if given.has "v" then complainAbout path fault
      status := 1
  return status

/-- How `realpath` takes options. -/
def realpathUsage : Usage :=
  .free (OptionForm.flags [('e', "canonicalize-existing"), ('m', "canonicalize-missing"),
    ('L', "logical"), ('P', "physical"), ('q', "quiet"), ('s', "strip"), ('z', "zero")] ++
    OptionForm.names ["no-symlinks"] ++ OptionForm.valuedNames ["relative-to", "relative-base"])

/-- A path from the root as it is written from a directory, which is a path from the root too. -/
def relativeTo (directory path : Text) : Text :=
  let split (t : Text) : List Text := (Path.names t).filter (!·.isEmpty)
  let (start, target) := (split directory, split path)
  let common := ((start.zip target).takeWhile fun (a, b) => a = b).length
  let ups := List.replicate (start.length - common) ['.', '.']
  let result := ['/'].intercalate (ups ++ target.drop common)
  if result.isEmpty then ['.'] else result

/-- Writes where paths lead, from the root or from a directory. -/
def realpath (given : Given) (paths : List Text) : Task Int := do
  if paths.isEmpty then return ← refuse "missing operand".toList 1
  let presence : Presence := if given.has "e" then .whole else if given.has "m" then .none
    else .directory
  let m ← get
  let here := m.process.directory
  let resolve (presence : Presence) (path : Text) : Except FileFault Text :=
    if (given.has "s" || given.has "no-symlinks") && !path.isEmpty then
      .ok (appended (if Path.isAbsolute path then ['/'] else m.files.pathOf here)
        (Path.names path))
    else canonical m.files here presence path
  let mut base : Option Text := none
  let mut within : Option Text := none
  for (key, isBase) in [("relative-to", true), ("relative-base", false)] do
    if let some t := given.value? key then
      match resolve presence t with
      | .ok found => if isBase then base := some found else within := some found
      | .error fault =>
        complainAbout t fault
        return 1
  let mut status : Int := 0
  for path in paths do
    match resolve presence path with
    | .ok found =>
      let isWithin (t : Text) : Bool := t = ['/'] || t = found || (t ++ ['/']).isPrefixOf found
      let shown := match base, within with
        | some t, none => relativeTo t found
        | some t, some w => if isWithin w then relativeTo t found else found
        | none, some w => if isWithin w then relativeTo w found else found
        | none, none => found
      print (shown ++ [if given.has "z" then '\x00' else '\n'])
    | .error fault =>
      unless given.has "q" do complainAbout path fault
      status := 1
  return status

/-- How `printenv` takes options. -/
def printenvUsage : Usage where
  forms := OptionForm.flags [('0', "null")]
  mixing := .strict
  failure := 2

/-- Writes the variables that other processes know. -/
def printenv (given : Given) (names : List Text) : Task Int := do
  let ending := if given.has "0" then '\x00' else '\n'
  let known := (← Task.process).bindings.filterMap fun (name, v) =>
    if v.exported then v.value.map (name, ·) else none
  if names.isEmpty then
    for (name, value) in known do
      print (name ++ '=' :: value ++ [ending])
  for name in names do
    if let some value := known.lookup name then print (value ++ [ending])
  return if names.all fun name => (known.lookup name).isSome then 0 else 1

/-- Writes the paths of the programs that have certain names. -/
def which (arguments : List Text) : Task Int := do
  match Given.read (OptionForm.letters "a") .strict none arguments with
  | .error _ =>
    let letters := (arguments.filter (·.head? = some '-')).flatMap List.tail
    let letter := (letters.find? (· ≠ 'a')).getD '-'
    Task.print 2 ("Illegal option -".toList ++ [letter, '\n'])
    printLine "Usage: /usr/bin/which [-a] args".toList
    return 2
  | .ok (given, names) =>
    let m ← get
    let isProgram (path : Text) : Bool :=
      match m.files.nodeAt true m.process.directory path with
      | .ok node => node.isFile && node.isRunnable
      | .error _ => false
    let places := pieces ':' ((← Task.value? "PATH".toList).getD [])
    let mut status : Int := if names.isEmpty then 1 else 0
    for name in names do
      let paths := if name.contains '/' then [name]
        else places.map fun place => (if place.isEmpty then ['.'] else place) ++ '/' :: name
      let found := paths.filter isProgram
      for path in if given.has "a" then found else found.take 1 do
        printLine path
      if found.isEmpty then status := 1
    return status

end LineShell.Sh.Tool
