import LineShell.Computer.Sh.Commands.Extended.Settings
import LineShell.Computer.Sh.Shell

/-!
# Shells of the extended language

How a shell of the extended language starts.  It tells others how deep it is nested, and it takes
what it reads line by line, so that the commands may read what follows them.
-/

namespace LineShell.Sh

namespace Shell

namespace Extended

open Control
open Commands.Extended (turned settled turnedByName? listSwitches)

/-- The options of a shell that are words. -/
def longOptions : List String :=
  ["debug", "debugger", "dump-po-strings", "dump-strings", "help", "init-file", "login",
    "noediting", "noprofile", "norc", "posix", "pretty-print", "rcfile", "restricted", "verbose",
    "version"]

/-- How a shell is called. -/
def usage (own : Text) : Text :=
  "Usage:\t".toList ++ own ++ " [GNU long option] [option] ...\n\t".toList ++ own ++
    " [GNU long option] [option] script-file ...\nGNU long options:\n".toList ++
    (longOptions.flatMap fun name => "\t--".toList ++ name.toList ++ ['\n']) ++
    "Shell options:\n".toList ++
    "\t-ilrsD or -c command or -O shopt_option\t\t(invocation only)\n".toList ++
    "\t-abefhkmnptuvxBCEHPT or -o option\n".toList

/-- The number of the version of the language, in parts. -/
def version : List Text :=
  ["5", "2", "15", "1", "release", "x86_64-pc-linux-gnu"].map String.toList

/-- The variables that a shell has from the beginning. -/
def usualBindings (p : Process) : List (Text × Variable) :=
  let text (value : String) : Variable := .ofText (some value.toList) false false
  let number (n : Nat) : Variable :=
    { Variable.ofText (some (numeral n)) false true with traits := { isInteger := true } }
  [("BASH", text "/usr/bin/bash"),
    ("BASH_VERSINFO",
      { Variable.ofText none false true with holding := some (.ofTexts version) }),
    ("BASH_VERSION", text "5.2.15(1)-release"), ("EUID", number 0), ("HOSTTYPE", text "x86_64"),
    ("IFS", text " \t\n"), ("MACHTYPE", text "x86_64-pc-linux-gnu"),
    ("OLDPWD", .ofText none true false), ("OPTERR", text "1"), ("OPTIND", text "1"),
    ("OSTYPE", text "linux-gnu"), ("PATH", .ofText (some usualPath) false false),
    ("PPID", number (p.ancestors.headD 1)), ("PS4", text "+ "), ("SHELL", text "/bin/bash"),
    ("TERM", text "dumb"), ("UID", number 0)].map fun entry => (entry.1.toList, entry.2)

/-- The names of variables that a shell does not take from others. -/
def ownNames : List Text :=
  ["BASH", "BASH_VERSINFO", "BASH_VERSION", "EUID", "IFS", "OPTIND", "PPID", "PS4", "UID",
    "SHELLOPTS", "BASHOPTS"].map String.toList

/-- The variables of a new shell. -/
def bindings (p : Process) : List (Text × Variable) :=
  let told := p.bindings.filterMap fun (name, v) =>
    match v.exported, v.value with
    | true, some t =>
      if ownNames.contains name ∨ ¬ Grammar.isName name then none else some (name, Variable.told t)
    | _, _ => none
  let level := ((told.lookup "SHLVL".toList).bind Variable.value).bind (wholeInteger? false)
  let level := signedNumeral (max 0 (level.getD 0) + 1)
  let own : List (Text × Variable) :=
    [("PWD".toList, .told p.path), ("SHLVL".toList, .told level)]
  (told ++ own).foldl (fun bindings entry => Task.assign entry.1 entry.2 bindings)
    (usualBindings p)

/-- What the arguments of a shell ask for. -/
structure Request where
  /-- Switches with letters, last one first, and whether they are turned on. -/
  letters : List (Bool × Char)
  /-- Switches with names. -/
  named : List (Bool × Text)
  /-- Settings. -/
  settings : List (Bool × Text)
  /-- An option that tells the switches or settings, as commands or for a reader. -/
  listings : List (Char × Bool)
  operands : List Text

/-- The letters of the options that a shell knows. -/
def knownLetters : Text := "abefhkmnptuvxBCEHPTcilrsD".toList

/-- The options that are words, which come first; those with a value take the next argument, which
is `awaited` then. -/
def long (awaited : Bool) : List Text → Except Text (List Text × List Text)
  | [] => .ok ([], [])
  | t :: rest =>
    let name := if "--".toList.isPrefixOf t then t.drop 2 else t.drop 1
    if awaited then long false rest
    else if t.head? = some '-' && longOptions.contains (String.ofList name) then do
      let takes := ["rcfile", "init-file"].contains (String.ofList name)
      let (names, rest) ← long takes rest
      return (name :: names, rest)
    else if "--".toList.isPrefixOf t ∧ t.length ≠ 2 then .error (t ++ ": invalid option".toList)
    else .ok ([], t :: rest)

/-- The options that are letters, and the operands after them.  A fault is told. -/
def short (r : Request) : (fuel : Nat) → List Text → Except Text Request
  | 0, rest => .ok { r with operands := rest }
  | _, [] => .ok r
  | _ + 1, ['-'] :: rest => .ok { r with operands := rest }
  | _ + 1, ['-', '-'] :: rest => .ok { r with operands := rest }
  | fuel + 1, (sign :: c :: cs) :: rest =>
    if sign ≠ '-' ∧ sign ≠ '+' then .ok { r with operands := (sign :: c :: cs) :: rest }
    else letters r fuel (sign = '-') sign rest (c :: cs)
  | _ + 1, t :: rest => .ok { r with operands := t :: rest }
where
  /-- The letters of one argument, and those of the arguments after it. -/
  letters (r : Request) (fuel : Nat) (on : Bool) (sign : Char) (rest : List Text) :
      Text → Except Text Request
    | [] => short r fuel rest
    | c :: cs =>
      if c = 'o' ∨ c = 'O' then
        match rest with
        | [] => letters { r with listings := (c, !on) :: r.listings } fuel on sign [] cs
        | name :: rest =>
          let r := if c = 'o' then { r with named := (on, name) :: r.named }
            else { r with settings := (on, name) :: r.settings }
          letters r fuel on sign rest cs
      else if knownLetters.contains c then
        letters { r with letters := (on, c) :: r.letters } fuel on sign rest cs
      else .error (sign :: c :: ": invalid option".toList)

/-- The process as a new shell. -/
def asShell (name : Text) (arguments : List Text) (p : Process) : Process :=
  { Shell.asShell name arguments p with
    language := .extended
    bindings := bindings p
    switches := ['h', 'B']
    extras := { settings := Switch.usualSettings, origin := p.time, chance := p.id } }

/-- Does what the options of a shell ask for, and tells whether they can be. -/
def prepare (own : Text) (r : Request) : Task Bool := do
  let letters := r.letters.reverse.filter fun entry => Switch.extendedLetters.contains entry.2
  for (on, c) in letters do
    Task.modifyProcess (turned on c)
  for (on, name) in r.named.reverse do
    match turnedByName? on name (← Task.process) with
    | some p => Task.modifyProcess fun _ => p
    | none =>
      Task.print 2 (own ++ ": ".toList ++ own ++ ": ".toList ++ name ++
        ": invalid option name\n".toList)
      return false
  for (on, name) in r.settings.reverse do
    if (Switch.settings.lookup name).isSome then Task.modifyProcess (settled on name)
    else
      Task.print 2 (own ++ ": ".toList ++ name ++ ": invalid shell option name\n".toList)
      return false
  for (kind, asCommands) in r.listings.reverse do
    if kind = 'o' then listSwitches asCommands fun _ _ => true
    else
      let _ ← Commands.Extended.shopt (if asCommands then [['-', 'p']] else [])
  return true

/-- Runs a shell with arguments: with a text, with a file, or with its input. -/
def run (exec : Executor) (own : Text) (arguments : List Text) : Task Unit := do
  let misused (message : Text) (isTold : Bool) (status : Int) : Task Unit := do
    Task.print 2 (own ++ ": ".toList ++ message ++ ['\n'] ++ if isTold then usage own else [])
    Task.setStatus status
  let parsed : Except Text (List Text × Request) := do
    let (names, rest) ← long false arguments
    let r ← short ⟨[], [], [], [], []⟩ (rest.length + 1) rest
    return (names, r)
  match parsed with
  | .error message => misused message true 2
  | .ok (names, r) =>
    let has (c : Char) : Bool := r.letters.any fun entry => entry = (true, c)
    let begin (name : Text) (arguments : List Text) (alter : Extras → Extras) : Task Bool := do
      Task.modifyProcess (asShell name arguments)
      Task.modifyProcess fun p =>
        let p := { p with extras := alter p.extras }
        let p := if names.contains "posix".toList then settled true "posix".toList p else p
        if names.contains "verbose".toList then turned true 'v' p else p
      Task.modifyProcess (settled (has 'l' || names.contains "login".toList)
        "login_shell".toList)
      Task.modifyProcess fun p =>
        { p with extras := { p.extras with last := "/usr/bin/bash".toList } }
      prepare own r
    match has 'c', r.operands with
    | true, [] => misused "-c: option requires an argument".toList false 2
    | true, t :: rest =>
      let name := rest.headD own
      if ← begin name rest.tail fun e => { e with isTold := true } then
        Values.assign "BASH_EXECUTION_STRING".toList none false t
        runText exec true t
      else Task.setStatus 2
    | false, operands =>
      match if has 's' then [] else operands with
      | [] =>
        if ← begin own operands fun e => e then
          Task.modifyProcess (turned true 's')
          runInput exec
        else Task.setStatus 2
      | path :: rest =>
        let candidates ← searchedFor path
        let m ← get
        let found := (candidates.find? fun path =>
          (m.files.nodeAt true m.process.directory path).toOption.isSome).getD path
        if ← Tool.isDirectoryAt found then
          Task.print 2 (path ++ ": ".toList ++ path ++ ": Is a directory\n".toList)
          Task.setStatus 126
        else
          match ← Tool.bytesOf found with
          | .ok bytes =>
            if ← begin path rest fun e => { e with hasFile := true, sources := [path] } then
              runText exec false (Raw.ofBytes bytes)
            else Task.setStatus 2
          | .error fault =>
            misused (path ++ ": ".toList ++ fault.message) false
              (if fault = .missing then 127 else 126)
where
  /-- The paths at which a file of commands may be found by its name. -/
  searchedFor (name : Text) : Task (List Text) := do
    if name.contains '/' then return [name]
    let searched := (← Task.value? "PATH".toList).getD usualPath
    return name :: (pieces ':' searched).map fun directory =>
      if directory = [] then name else directory ++ '/' :: name

end Extended

end Shell

end LineShell.Sh
