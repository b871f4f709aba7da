import LineShell.Computer.Sh.Tool

/-!
# Shells

How a shell starts: the variables that it has from the beginning, the options among its arguments,
and the text that it carries out, which may be an argument, a file or what it reads.
-/

namespace LineShell.Sh

namespace Shell

open Control

/-- The directories in which programs are looked for unless a variable names others. -/
def usualPath : Text := "/usr/local/sbin:/usr/local/bin:/usr/sbin:/usr/bin:/sbin:/bin".toList

/-- The variables that each shell has from the beginning. -/
def usualBindings (p : Process) : List (Text × Variable) :=
  let values : List (Text × Text) :=
    [("PATH".toList, usualPath), ("IFS".toList, [' ', '\t', '\n']), ("OPTIND".toList, ['1']),
      ("PS1".toList, ['#', ' ']), ("PS2".toList, ['>', ' ']), ("PS4".toList, ['+', ' ']),
      ("PPID".toList, numeral (p.ancestors.headD 1))]
  values.map fun (name, value) => (name, .ofText (some value) false false)

/-- The variables of a new shell: the usual ones, those that it is told of, and its directory. -/
def shellBindings (p : Process) : List (Text × Variable) :=
  let told := p.bindings.filterMap fun (name, v) =>
    match v.exported, v.value with
    | true, some t =>
      if ["IFS".toList, "OPTIND".toList].contains name then none else some (name, Variable.told t)
    | _, _ => none
  let own : Text × Variable := ("PWD".toList, .told p.path)
  (told ++ [own]).foldl (fun bindings entry => Task.assign entry.1 entry.2 bindings)
    (usualBindings p)

/-- The process as a new shell that knows only what processes tell each other. -/
def asShell (name : Text) (arguments : List Text) (p : Process) : Process :=
  { p with
    language := .common
    name
    speaker := none
    arguments
    options := .first
    found := []
    shell := p.id
    bindings := shellBindings p
    functions := []
    aliases := []
    status := 0
    background := none
    children := []
    switches := []
    tolerant := false
    locals := none
    ownSwitches := none
    calls := 0
    extras := {} }

/-- Runs a text as a shell of its own.  If so told, there is nothing to do after the text. -/
def runShell (exec : Executor) (isLast : Bool) (name : Text) (arguments : List Text)
    (switches t : Text) : Task Unit := do
  Task.modifyProcess (asShell name arguments)
  Task.modifyProcess (Commands.turnSwitches true (switches.filter (· ≠ 'm')))
  if switches.any ['i', 'm'].contains then
    Task.print 2 (name ++ ": 0: ".toList ++ Commands.noTerminal ++ ['\n'])
  runText exec isLast t

/-- The letters of the options that a shell knows. -/
def knownLetters : Text := "abCceEfIilmnsuvVx".toList

/-- The letters of the options in front of the operands of a shell, and the operands.  An option may
be a switch by its name. -/
def shellOptions : List Text → Text × List Text
  | [] => ([], [])
  | ['-'] :: rest => ([], rest)
  | ['-', '-'] :: rest => ([], rest)
  | ['-', 'o'] :: name :: rest =>
    let (more, operands) := shellOptions rest
    (((Switch.table.lookup name).bind id).getD 'o' :: more, operands)
  | ('-' :: letters) :: rest =>
    let (more, operands) := shellOptions rest
    (letters ++ more, operands)
  | ('+' :: letters) :: rest =>
    let (more, operands) := shellOptions rest
    (letters.filter (!knownLetters.contains ·) ++ more, operands)
  | argument :: rest => ([], argument :: rest)

/-- Runs a shell with arguments: with a text, with a file, or with its input. -/
def run (exec : Executor) (own : Text) (arguments : List Text) : Task Unit := do
  let (letters, operands) := shellOptions arguments
  let misused (message : Text) : Task Unit := do
    Task.print 2 (own ++ ": 0: ".toList ++ message ++ ['\n'])
    Task.setStatus 2
  let isRead := letters.contains 's'
  match letters.find? (!knownLetters.contains ·), letters.contains 'c', operands with
  | some c, _, _ => misused ("Illegal option -".toList ++ [c])
  | none, true, [] => misused "-c requires an argument".toList
  | none, true, t :: rest => runShell exec (!letters.contains 's') (rest.headD own) rest.tail letters t
  | none, false, operands =>
    match if isRead then [] else operands with
    | [] =>
      let bytes ← Task.takeAll 0
      runShell exec false own operands letters (Raw.ofBytes (bytes.toOption.getD []))
    | path :: rest =>
      match ← Tool.bytesOf path with
      | .ok bytes => runShell exec false path rest letters (Raw.ofBytes bytes)
      | .error fault =>
        let message := if fault = .missing ∨ fault = .notDirectory then "No such file".toList
          else fault.message
        misused ("cannot open ".toList ++ path ++ ": ".toList ++ message)

end Shell

end LineShell.Sh
