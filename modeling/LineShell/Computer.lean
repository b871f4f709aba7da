import LineShell.Host
import LineShell.Computer.Sh.Exec
import LineShell.Computer.Sh.Schedule

/-!
# A computer in memory

A host that is wholly data: a file tree, processes, a current directory, variables that every
process knows, and clocks that stand still.  A text is handed to a program of the file tree, usually
the system shell, which runs it to its end; what it did to the files is there afterwards, and so are
processes that it has begun and not waited for, which go on as others do.  Within the computer all
texts are raw; they are made so where they come in.

The shell does not know this computer.  It is made after other machines, so that the program can be
run and tried out without them, and for that reason it is kept apart: this module, those below it
and the program that runs on it (`Program.run`) are all that there is of it.  Every statement about
the shell is about any `Host`, and none rests on how this one answers.
-/

namespace LineShell

/-- A computer. -/
structure Computer where
  /-- Its files, and the processes that have not ended. -/
  schedule : Sh.Schedule
  directory : NodeId
  /-- The variables that processes start with, in raw texts. -/
  bindings : List (Text × Text)

namespace Computer

open Sh hiding Task

/-- The program that command texts are handed to unless another one is asked for. -/
def systemShell : Text := "/bin/sh".toList

/-- The moment at which the computer is started, in microseconds. -/
def startTime : Nat := 1767225600000000

/-- The file tree with a node at a path, in the stead of what stood there.  Content that is put in
the place of a link goes where the link leads. -/
def planted (files : FileTree) (directory : NodeId) (path : Text) (node : Node) : FileTree :=
  let isContent := node.kind matches .file _
  match files.walk isContent directory path with
  | .ok (.absent directory name _) =>
    let (id, files) := files.add node
    files.bind directory name node.time id
  | .ok (.found entry id) =>
    match entry with
    | some (directory, name) =>
      if node.isDirectory then files
      else if isContent then files.update id fun _ => node
      else
        let (id, files) := files.add node
        files.bind directory name node.time id
    | none => files
  | .error _ => files

/-- The directories of the system, in the order in which they are made. -/
def systemDirectories : List String :=
  ["boot", "dev", "etc", "home", "media", "mnt", "opt", "proc", "proc/self", "proc/self/fd", "root",
    "run", "srv", "sys", "tmp", "usr", "usr/bin", "usr/lib", "usr/local", "usr/local/bin",
    "usr/sbin", "usr/share", "var", "var/tmp"]

/-- The links of the system, with where they lead. -/
def systemLinks : List (String × String) :=
  [("bin", "usr/bin"), ("sbin", "usr/sbin"), ("lib", "usr/lib"), ("dev/fd", "/proc/self/fd"),
    ("dev/stdin", "/proc/self/fd/0"), ("dev/stdout", "/proc/self/fd/1"),
    ("dev/stderr", "/proc/self/fd/2")]

/-- The devices of the system, by their names. -/
def devices : List (String × Device) :=
  [("null", .sink), ("full", .full), ("zero", .zeros), ("random", .noise), ("urandom", .noise),
    ("tty", .terminal)]

/-- The permissions of a directory of the system. -/
def directoryMode (path : String) : Nat :=
  if path = "tmp" ∨ path = "var/tmp" then 0o1777 else if path = "root" then 0o700 else 0o755

/-- What there is on a computer from the beginning, with its paths. -/
def systemNodes (time : Int) : List (Text × Node) :=
  systemDirectories.map (fun path =>
    (path.toList, ⟨.directory [] FileTree.root, directoryMode path, time⟩)) ++
  systemLinks.map (fun (path, target) => (path.toList, ⟨.link target.toList, 0o777, time⟩)) ++
  devices.map (fun (name, d) => ("dev/".toList ++ name.toList, ⟨.device d, 0o666, time⟩)) ++
  (List.range 10 ++ (List.range 8).map (· + 56)).map (fun n =>
    ("proc/self/fd/".toList ++ numeral n, ⟨.descriptor n, 0o600, time⟩)) ++
  Tool.names.map (fun name =>
    ("usr/bin/".toList ++ name.toList, ⟨.program name.toList, 0o755, time⟩))

/-- How many microseconds pass between the making of the files and the first process. -/
def restTime : Nat := 1000000

/-- A file tree with the programs of the system and its devices. -/
def systemFiles : FileTree :=
  (systemNodes (startTime - restTime : Nat)).foldl
    (fun files (path, node) => planted files FileTree.root path node) .empty

/-- A process that nobody began, under a name, with its number, in a directory, with variables, at a
time. -/
def newProcess (name : Text) (id : Nat) (directory : NodeId) (path : Text)
    (bindings : List (Text × Text)) (time : Nat) : Process where
  language := .common
  name := name
  speaker := none
  line := 1
  directory := directory
  path := path
  bindings := bindings.map fun entry => (entry.1, .told entry.2)
  arguments := []
  options := .first
  found := []
  functions := []
  aliases := []
  traps := []
  status := 0
  capturedStatus := 0
  shell := id
  id := id
  ancestors := []
  background := none
  children := []
  descriptors := [(0, 0), (1, 1), (2, 2)]
  switches := []
  tolerant := false
  locals := none
  ownSwitches := none
  mask := 0o022
  limits := []
  loops := 0
  calls := 0
  isLast := true
  time := time
  pending := []
  pendingSize := 0
  setAside := []
  extras := {}

/-- The process that stands for whoever uses the computer, and does nothing. -/
def user (directory : NodeId) (time : Nat) : Process :=
  { newProcess [] 1 directory [] [] time with descriptors := [] }

/-- The process that a program starts as. -/
def firstProcess (c : Computer) (id : Nat) (program : Text) : Process :=
  let m := c.schedule.machine
  newProcess program id c.directory (m.files.pathOf c.directory) c.bindings m.process.time

/-- A computer with nothing but the system on it, and a current directory in the root. -/
def bare (directory : Text) (name log : Option Text) : Computer :=
  let told (name : String) (value : Option Text) : List (Text × Text) :=
    value.toList.map fun t => (name.toList, Raw.ofText t)
  let time : Int := (startTime - restTime : Nat)
  let (id, files) := systemFiles.add ⟨.directory [] FileTree.root, 0o755, time⟩
  let files := files.bind FileTree.root directory time id
  let bindings := told "USER" name ++ told "TINYSH_LOG" log ++
    [("PATH".toList, Shell.usualPath)]
  let machine : Machine :=
    { files
      channels := #[.device .sink, .console .out, .console .err]
      pipes := #[]
      meetings := []
      printed := []
      signals := []
      ended := []
      others := []
      lost := none
      nextId := 100
      process := user id startTime }
  { schedule := ⟨machine, []⟩, directory := id, bindings }

/-- The files of a computer. -/
def files (c : Computer) : FileTree := c.schedule.machine.files

/-- How many steps of a script may be nested. -/
def stepLimit : Nat := 20000

/-- How many turns processes may have at most until a program has ended. -/
def turnLimit : Nat := 1000000000

/-- How many microseconds pass until somebody knows that a program has ended. -/
def noticeTime : Nat := 500

/-- The failure of a program that cannot be started. -/
def cannotStart (program : Text) : IoError :=
  ⟨"can't spawn ".toList ++ program⟩

/-- The program that a command names, if it can be started: it is a tool, or a script that names a
program to run it. -/
def startable? (c : Computer) (command : Text) : Option Executable :=
  let searched := (c.bindings.lookup "PATH".toList).getD Shell.usualPath
  match Executable.ofCommand c.files c.directory searched command with
  | .error _ => none
  | .ok (_, .tool name) => some (.tool name)
  | .ok (_, .script path bytes) =>
    (Executable.interpreter? bytes).bind fun (interpreter, _) =>
      match Executable.ofPath c.files c.directory interpreter with
      | .ok _ => some (.script path bytes)
      | .error _ => none

/-- Lets processes have their turns until enough has happened, and takes what they print. -/
def going (isEnough : Schedule → Bool) (fuel : Nat) (s : Schedule) :
    List (Stream × List UInt8) × Schedule :=
  let s := s.run isEnough fuel
  (s.machine.printed.reverse, { s with machine := { s.machine with printed := [] } })

/-- All that is to be done until a time has been done. -/
def isDone (time : Nat) (s : Schedule) : Bool :=
  match Thread.next? s.threads with
  | none => true
  | some (due, _) => time < due

/-- Hands a command text to a program and waits until it has ended. -/
def run (program text : Text) (c : Computer) : Run × Computer :=
  let failed : Run × Computer := (⟨.error (cannotStart program), []⟩, c)
  if program.contains '\x00' || text.contains '\x00' then failed
  else
    let command := Raw.ofText program
    match c.startable? command with
    | none => failed
    | some found =>
      let exec := Script.exec stepLimit
      let m := c.schedule.machine
      let id := m.nextId
      let begun : Schedule := { c.schedule with machine := { m with nextId := id + 1 } }
      let s := begun.join (c.firstProcess id command) (Control.live exec
        (Executable.run exec command ["-c".toList, Raw.ofText text] Executable.depth found))
      let (printed, s) := going (fun s => (s.machine.ended.lookup id).isSome) turnLimit s
      let code := ((s.machine.ended.lookup id).map Ending.code).getD 0
      let noticed := s.machine.process.time + noticeTime
      let (more, s) := going (isDone noticed) turnLimit s
      let m := { s.machine with
        ended := s.machine.ended.filter (·.1 ≠ id)
        process := user c.directory noticed }
      (⟨.ok code, printed ++ more⟩, { c with schedule := { s with machine := m } })

/-- How many turns processes may have at most when nobody waits for them any more. -/
def restLimit : Nat := 1000000

/-- What is printed by the processes that have not ended, until they have. -/
def rest (c : Computer) : List (Stream × List UInt8) :=
  (going (fun _ => false) restLimit c.schedule).1

/-- The size of what a path leads to, as the system tells it. -/
def fileSize (c : Computer) (path : Text) : Except OsError Nat :=
  c.files.sizeAt c.directory (Raw.ofText path)

/-- The computer as the host of a shell, with a program that command texts are handed to. -/
def host (program : Text) : Host Computer where
  run := run program
  fileSize path c := (c.fileSize path, c)
  timeOfDay c := (0, c)
  elapsed c := (0, c)

/-- The bytes of the file at a path, if there is one. -/
def read? (c : Computer) (path : Text) : Option (List UInt8) :=
  match c.files.nodeAt true c.directory (Raw.ofText path) with
  | .ok ⟨.file content, _, _⟩ => some content.toBytes
  | .ok ⟨.device .sink, _, _⟩ => some []
  | _ => none

/-- The permissions of something new. -/
def usualMode : Kind → Nat
  | .directory .. => 0o755
  | .link _ => 0o777
  | _ => 0o644

/-- The computer with something at a path. -/
def plant (c : Computer) (path : Text) (kind : Kind) : Computer :=
  let m := c.schedule.machine
  let node : Node := ⟨kind, usualMode kind, (startTime - restTime : Nat)⟩
  let files := planted m.files c.directory (Raw.ofText path) node
  { c with schedule := { c.schedule with machine := { m with files } } }

end Computer

end LineShell
