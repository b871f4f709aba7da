import LineShell.Computer.Sh.Shell.Extended

/-!
# Programs that processes run

A program is a tool of the system or a file with a script.  It is found by a path or by a name, and
it runs in a process of its own, which knows only the variables that are told to others.
-/

namespace LineShell.Sh

/-- A program that has been found. -/
inductive Executable where
  /-- A tool of the system. -/
  | tool (name : Text)
  /-- A file with a script, which another program may be named to run. -/
  | script (path : Text) (bytes : List UInt8)
deriving Repr

namespace Executable

open Control Sh.Shell

/-- The program at a path, if it can be run. -/
def ofPath (files : FileTree) (directory : NodeId) (path : Text) : Except FileFault Executable :=
  match files.nodeAt true directory path with
  | .error fault => .error fault
  | .ok node =>
    match node.kind with
    | .program name => if node.isRunnable then .ok (.tool name) else .error .denied
    | .file content =>
      if node.isRunnable && node.isReadable then .ok (.script path content.toBytes)
      else .error .denied
    | _ => .error .denied

/-- The paths that a name may have in the directories that are named between colons. -/
def candidatesIn (searched name : Text) : List Text :=
  (pieces ':' searched).map fun directory =>
    if directory = [] then name else directory ++ '/' :: name

/-- The first program among some paths.  One that cannot be run is a fault of its own, unless
another one is found. -/
def first (files : FileTree) (directory : NodeId) (fault : FileFault) :
    List Text → Except FileFault (Text × Executable)
  | [] => .error fault
  | path :: rest =>
    match ofPath files directory path with
    | .ok found => .ok (path, found)
    | .error .denied => first files directory .denied rest
    | .error _ => first files directory fault rest

/-- The program that a command names: by a path if there is a slash in it, else by a name that is
looked for. -/
def ofCommand (files : FileTree) (directory : NodeId) (searched command : Text) :
    Except FileFault (Text × Executable) :=
  if command.contains '/' then (ofPath files directory command).map (command, ·)
  else first files directory .missing (candidatesIn searched command)

/-- The program that a tool asks for.  None has an empty name. -/
def asked (command : Text) (found : Except FileFault (Text × Executable)) :
    Except FileFault Executable :=
  if command = [] then .error .missing else found.map Prod.snd

/-- The program at a path, if the process can run it. -/
def at? (path : Text) : Task (Except FileFault Executable) := do
  let m ← get
  return ofPath m.files m.process.directory path

/-- Where the process looks for programs. -/
def searched : Task Text := do
  return (← Task.value? "PATH".toList).getD usualPath

/-- The paths that a name may have in the directories in which programs are looked for. -/
def candidates (name : Text) : Task (List Text) := do
  return candidatesIn (← searched) name

/-- The program that a command names. -/
def named (command : Text) : Task (Except FileFault (Text × Executable)) := do
  let m ← get
  return ofCommand m.files m.process.directory (← searched) command

/-- The program that the first line of a script names, and its argument. -/
def interpreter? (bytes : List UInt8) : Option (Text × List Text) :=
  match Raw.ofBytes (bytes.takeWhile (· ≠ 0x0A)) with
  | '#' :: '!' :: line =>
    let isBlank (c : Char) : Bool := c = ' ' || c = '\t'
    let line := ((line.dropWhile isBlank).reverse.dropWhile isBlank).reverse
    let path := line.takeWhile (!isBlank ·)
    let argument := (line.drop path.length).dropWhile isBlank
    if path = [] then none else some (path, if argument = [] then [] else [argument])
  | _ => none

/-- How much time passes until a program does something, in microseconds. -/
def startTime : Nat := 500

/-- The exit codes of tools that could not write what they printed, where they are not 1. -/
def failureCodes : List (String × Int) :=
  [("ls", 2), ("dir", 2), ("vdir", 2), ("sort", 2), ("grep", 2), ("awk", 2), ("mawk", 2), ("diff", 2),
    ("cmp", 2), ("printenv", 2), ("tty", 3), ("expr", 3), ("sed", 4), ("env", 125), ("nice", 125),
    ("hostname", 0)]

/-- The messages about what a tool could not write.  The tools that write line by line no longer know
the reason at their end, if it is that there was no space. -/
def lossMessages (name : Text) (fault : FileFault) : List Text :=
  let reason := fault.message
  let withReason (message : String) : Text := message.toList ++ ": ".toList ++ reason
  let isClosed := fault = .badDescriptor
  match String.ofList name with
  | "diff" => [withReason "standard output"]
  | "cmp" => [withReason "standard output"]
  | "yes" => [withReason "standard output"]
  | "cat" => [withReason (if isClosed then "standard output" else "write error")]
  | "awk" => [awkMessage reason]
  | "mawk" => [awkMessage reason]
  | "sed" => [withReason (if isClosed then "couldn't close stdout" else "couldn't flush stdout")]
  | "sort" => [withReason "fflush failed: 'standard output'", "write error".toList]
  | "find" => [Quoting.word "standard output".toList ++ ": ".toList ++ reason,
      if isClosed then withReason "write error" else "write error".toList]
  | "hostname" => []
  | word =>
    let isLineByLine := ["wc", "sum", "cksum", "b2sum", "md5sum", "sha1sum", "sha224sum",
      "sha256sum", "sha384sum", "sha512sum"].contains word
    [if isLineByLine && !isClosed then "write error".toList else withReason "write error"]
where
  /-- How the tool for records tells it. -/
  awkMessage (reason : Text) : Text :=
    "close failed on file \"/dev/stdout\" (".toList ++ reason ++ [')']

/-- Does what a tool does, and tells if it could not write all that it printed. -/
def runTool (name : Text) (action : List Text → Task Int) (arguments : List Text) :
    Task Unit := do
  modify fun m => { m with lost := none }
  let status ← action arguments
  Tool.flush
  match (← get).lost with
  | none => Task.setStatus status
  | some fault =>
    for message in lossMessages name fault do
      Tool.complain message
    modify fun m => { m with lost := none }
    Task.setStatus ((failureCodes.lookup (String.ofList name)).getD 1)

/-- Runs a program in the process as it is, under the name by which it was called.  `fuel` bounds
how often one program names another one. -/
def run (exec : Executor) (called : Text) (arguments : List Text) :
    (fuel : Nat) → Executable → Task Unit
  | 0, _ => Task.setStatus 126
  | fuel + 1, .tool name => do
    Task.modifyProcess fun p =>
      { p with language := .common, name := called, speaker := none, setAside := [] }
    Task.spend startTime
    let becomes (command : Text) (arguments : List Text) : Task (Except FileFault Unit) := do
      match asked command (← named command) with
      | .error fault => return .error fault
      | .ok found =>
        run exec command arguments fuel found
        return .ok ()
    let begins (start : Process → Process) (command : Text) (arguments : List Text) :
        Task (Except FileFault Nat) := do
      let directory := (start (← Task.process)).directory
      match asked command (ofCommand (← get).files directory (← searched) command) with
      | .error fault => return .error fault
      | .ok found =>
        Tool.flush
        return .ok (← begin exec start (run exec command arguments fuel found))
    let launcher : Tool.Launcher := { becomes, begins }
    match Tool.table.lookup (String.ofList name) with
    | some action => runTool name action arguments
    | none =>
      match Tool.launching.lookup (String.ofList name) with
      | some action => runTool name (action launcher) arguments
      | none =>
        if name = "bash".toList then Shell.Extended.run exec called arguments
        else Shell.run exec called arguments
  | fuel + 1, .script path bytes =>
    match interpreter? bytes with
    | none => do
      Task.modifyProcess fun p => { p with setAside := [] }
      match (← Task.process).language with
      | .common => runShell exec false path arguments [] (Raw.ofBytes bytes)
      | .extended => Shell.Extended.run exec path (path :: arguments)
    | some (name, more) => do
      match ← at? name with
      | .ok found => run exec name (more ++ path :: arguments) fuel found
      | .error _ =>
        Task.complain (called ++ ": not found".toList)
        Task.setStatus 127

/-- How often one program may name another one. -/
def depth : Nat := 8

/-- Finds a program and does with it what is asked for.  A program that cannot be run is told and
gives its own exit codes. -/
def search (command : Text) (task : Executable → Task Unit) : Task Unit := do
  if command = [] then
    Task.complain ": Permission denied".toList
    Task.setStatus 127
  else
    match ← named command with
    | .ok (path, found) =>
      if ¬ command.contains '/' then
        Task.modifyProcess fun p => { p with found := Task.assign command path p.found }
      task found
    | .error fault =>
      let message : Text :=
        if fault = .missing ∨ fault = .notDirectory then "not found".toList else fault.message
      Task.complain (command ++ ": ".toList ++ message)
      Task.setStatus (if fault = .denied ∧ command.contains '/' then 126 else 127)

/-- Runs a program in the place of the shell, which tells it the variables in an order of its own. -/
def replace (exec : Executor) (command : Text) (arguments : List Text) (found : Executable) :
    Task Unit := do
  Task.modifyProcess fun p => { p with
    bindings := Commands.inBuckets 39 (p.bindings.filter (·.2.exported)) }
  run exec command arguments depth found

/-- Starts a program in a process of its own and waits for it. -/
def start (exec : Executor) (command : Text) (arguments : List Text) : Task Unit :=
  search command fun found => waitedFor exec id (replace exec command arguments found)

/-- Runs a program in the place of the shell if that has nothing else to do. -/
def startAs (exec : Executor) (isLast : Bool) (command : Text) (arguments : List Text) :
    Task Unit := do
  if isLast && !(← Task.process).isPrepared then
    search command (replace exec command arguments)
    throw .leave
  else start exec command arguments

end Executable

end LineShell.Sh
