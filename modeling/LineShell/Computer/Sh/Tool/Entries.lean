import LineShell.Computer.Files.Mode
import LineShell.Computer.Sh.Commands
import LineShell.Computer.Sh.Tool.Naming

/-!
# Entries of directories

What tools have in common that make, move and remove files: they look at what a path leads to, ask
before they do something, find the place for something in a directory, and keep what they replace
under another name.
-/

namespace LineShell.Sh.Tool

/-- What a path leads to.  A link at its end is followed only if `follow` says so. -/
def look (follow : Bool) (path : Text) : Task (Except FileFault (NodeId × Node)) := do
  let m ← get
  match m.files.find follow m.process.directory path with
  | .error fault => return .error fault
  | .ok id =>
    match m.files.node? id with
    | some node => return .ok (id, node)
    | none => return .error .missing

/-- What a path leads to, if it leads anywhere. -/
def look? (follow : Bool) (path : Text) : Task (Option (NodeId × Node)) := do
  return (← look follow path).toOption

/-- The path leads to a directory. -/
def isDirectoryAt (path : Text) : Task Bool := do
  return (← look? true path).any (·.2.isDirectory)

/-- Asks a question, to which the next line of the standard input is the answer. -/
def ask (question : Text) : Task Bool := do
  flush
  Task.print 2 ((← Task.process).name ++ ": ".toList ++ question)
  let answer (_ : Bool) (line : List UInt8) (_ : Bool) : Task (Except Bool Bool) :=
    return .error (line.head? = some 0x79 || line.head? = some 0x59)
  match ← eachLine 0 newline answer false with
  | .ok (.error yes) => return yes
  | _ => return false

/-- What something is, in the words of questions. -/
def kindWord (node : Node) : Text :=
  match node.kind with
  | .directory .. => "directory".toList
  | .link _ => "symbolic link".toList
  | .pipe => "fifo".toList
  | .device _ => "character special file".toList
  | .file content => (if content.size = 0 then "regular empty file" else "regular file").toList
  | _ => "regular file".toList

/-- The names in a directory, in order of their making, by a path. -/
def entriesAt (path : Text) : Task (List Text) := do
  match ← look? true path with
  | some (id, _) => return (((← Task.files).listed id).toOption.getD []).map Prod.fst
  | none => return []

/-- Alters the tree as a function of paths does. -/
def alter (f : FileTree → (directory : NodeId) → (now : Int) → Except FileFault FileTree) :
    Task (Except FileFault Unit) :=
  Task.alterFiles f

/-- Makes a node at a path. -/
def plantAt (path : Text) (kind : Kind) (mode : Nat) : Task (Except FileFault Unit) := do
  let mode ← Task.maskedMode mode
  alter fun files directory now =>
    (files.plant directory path now ⟨kind, mode, now⟩).map Prod.snd

/-- Makes a directory at a path. -/
def makeDirectory (path : Text) (mode : Nat) : Task (Except FileFault Unit) :=
  plantAt path (.directory [] FileTree.root) mode

/-- Sets the permissions of a node. -/
def setModeOf (id : NodeId) (mode : Nat) : Task Unit :=
  modify fun m => { m with files := m.files.setMode id mode }

/-- Sets the time of a node. -/
def setTimeOf (id : NodeId) (time : Int) : Task Unit :=
  modify fun m => { m with files := m.files.setTime id time }

/-- Where several things go: into a directory, or in the place of one of them. -/
inductive Target where
  | within (directory : Text)
  | itself (path : Text)

/-- What keeps the things that are replaced: their names with an ending, or with a number. -/
structure Keeping where
  suffix : Text
  isNumbered : Bool
  /-- Numbers are used where there are some already. -/
  isMixed : Bool

/-- How replaced things are kept, if options ask for that. -/
def Keeping.ofGiven (given : Given) : Option Keeping :=
  let suffix := (given.value? "S").getD ['~']
  let kind := String.ofList ((given.value? "backup").getD [])
  if kind = "none" ∨ kind = "off" then none
  else if given.has "b" || given.has "S" || given.has "backup" then
    some ⟨suffix, kind = "numbered" || kind = "t", !(kind = "simple" || kind = "never")⟩
  else none

/-- The numbers under which something has been kept. -/
def keptNumbers (path : Text) : Task (List Nat) := do
  let names ← entriesAt (directoryName path)
  let front := Path.lastName path ++ ".~".toList
  return names.filterMap fun name =>
    if front.isPrefixOf name && name.getLast? = some '~' then
      let digits := (name.drop front.length).dropLast
      if digits.isEmpty || !digits.all Char.isDigit then none else some (digitsValue digits)
    else none

/-- Keeps what is at a path under another name, which is given. -/
def keepOld (k : Keeping) (path : Text) : Task Text := do
  let numbers ← keptNumbers path
  let path := Path.bare path
  let kept :=
    if k.isNumbered || (k.isMixed && !numbers.isEmpty) then
      path ++ ".~".toList ++ numeral (numbers.foldl max 0 + 1) ++ ['~']
    else path ++ k.suffix
  let _ ← alter fun files directory now => files.rename directory path kept now
  return kept

/-- The path of what is put into a directory. -/
def pathWithin (directory source : Text) : Text :=
  let name := Path.lastName source
  Path.join directory name

/-- Where operands go, or else the exit code after a complaint. -/
def targetOf (given : Given) (operands : List Text) : Task (Except Int (List Text × Target)) := do
  let isFile := given.has "T"
  match given.value? "t" with
  | some directory =>
    if isFile then
      complain "cannot combine --target-directory (-t) and --no-target-directory (-T)".toList
      return .error 1
    if operands.isEmpty then return .error (← refuse "missing file operand".toList 1)
    match ← look true directory with
    | .ok (_, node) =>
      if node.isDirectory then return .ok (operands, .within directory)
      complain ("target directory ".toList ++ Quoting.always directory ++
        ": Not a directory".toList)
      return .error 1
    | .error fault =>
      complainOf "target directory" directory fault
      return .error 1
  | none =>
    match operands, operands.getLast? with
    | [], _ => return .error (← refuse "missing file operand".toList 1)
    | [path], _ =>
      return .error (← refuse ("missing destination file operand after ".toList ++
        Quoting.always path) 1)
    | _, none => return .error 1
    | operands, some last =>
      let sources := operands.dropLast
      if isFile then
        if let some extra := operands[2]? then
          return .error (← refuse ("extra operand ".toList ++ Quoting.always extra) 1)
        return .ok (sources, .itself last)
      match ← look true last with
      | .ok (_, node) =>
        if node.isDirectory then return .ok (sources, .within last)
        if 1 < sources.length then
          complain ("target ".toList ++ Quoting.always last ++ ": Not a directory".toList)
          return .error 1
        return .ok (sources, .itself last)
      | .error fault =>
        if 1 < sources.length then
          complainOf "target" last fault
          return .error 1
        return .ok (sources, .itself last)

end LineShell.Sh.Tool
