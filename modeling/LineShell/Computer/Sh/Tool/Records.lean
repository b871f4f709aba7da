import LineShell.Computer.Sh.Tool.Records.Execution

/-!
# The tool that runs programs for records

It takes its input record by record, and for each carries out the rules of a program whose conditions
hold.
-/

namespace LineShell.Sh.Tool.Records

/-- What the options say. -/
structure Options where
  /-- The files of the program. -/
  files : List Text
  assignments : List (Text × Text)
  fieldSeparator : Option Text

/-- What comes of the options. -/
inductive Reading where
  | run (options : Options) (operands : List Text)
  | refused (message : Text)
  /-- Help is asked for. -/
  | help

/-- What is wrong with a separator that is given before the program is read. -/
def separatorFault? (value : Text) : Option Text :=
  let t := Reader.unescaped value.length value
  match t with
  | [] => none
  | [_] => none
  | t =>
    match Pattern.compile t with
    | .ok _ => none
    | .error fault => some ("line 0: ".toList ++ refusedPattern fault t)

/-- What is wrong with the separators that the options give. -/
def Options.fault? (options : Options) : Option Text :=
  let named := options.assignments.filter fun (name, _) =>
    name = "FS".toList || name = "RS".toList
  (options.fieldSeparator.toList ++ named.map Prod.snd).findSome? separatorFault?

/-- The words that are special after an option. -/
def helpWords : List String := ["help", "usage"]

/-- The words that change nothing. -/
def idleWords : List String :=
  ["interactive", "posix_space", "sprintf", "random", "dump"]

/-- The first of some words that a text abbreviates. -/
def abbreviated? (words : List String) (t : Text) : Option String :=
  let name := t.takeWhile (· ≠ '=')
  if name.isEmpty then none else words.find? fun w => name.isPrefixOf w.toList

/-- Reads the options; `warn` tells of those that mean nothing. -/
def readOptions (warn : Text → Task Unit) : (fuel : Nat) → Options → List Text → Task Reading
  | 0, options, operands => return .run options operands
  | _, options, [] => return .run options []
  | fuel + 1, options, argument :: rest => do
    match argument with
    | '-' :: '-' :: name =>
      if name.isEmpty then return .run options rest
      if (abbreviated? helpWords name).isSome then return .help
      return .refused ("not an option: ".toList ++ argument)
    | '-' :: letter :: value =>
      if ¬ ['W', 'v', 'F', 'f'].contains letter then
        return .refused ("not an option: ".toList ++ argument)
      let taken : Option (Text × List Text) :=
        match value, rest with
        | [], [] => none
        | [], value :: rest => some (value, rest)
        | value, rest => some (value, rest)
      match taken with
      | none => return .refused ("option -".toList ++ letter :: " lacks argument".toList)
      | some (value, rest) =>
        match letter with
        | 'v' =>
          match Run.assignmentIn? value with
          | none => return .refused ("improper assignment: -v ".toList ++ value)
          | some a =>
            readOptions warn fuel { options with assignments := options.assignments ++ [a] } rest
        | 'F' => readOptions warn fuel { options with fieldSeparator := some value } rest
        | 'f' => readOptions warn fuel { options with files := options.files ++ [value] } rest
        | _ =>
          if (abbreviated? helpWords value).isSome then return .help
          if (abbreviated? idleWords value).isNone then
            warn ("vacuous option: -W \"".toList ++ value ++ "\"".toList)
          readOptions warn fuel options rest
    | _ => return .run options (argument :: rest)

/-- The text that tells how the tool is used. -/
def help : String :=
  "Usage: mawk [Options] [Program] [file ...]\n" ++
  "\n" ++
  "Program:\n" ++
  "    The -f option value is the name of a file containing program text.\n" ++
  "    If no -f option is given, a \"--\" ends option processing; the following\n" ++
  "    parameters are the program text.\n" ++
  "\n" ++
  "Options:\n" ++
  "    -f program-file  Program  text is read from file instead of from the\n" ++
  "                     command-line.  Multiple -f options are accepted.\n" ++
  "    -F value         sets the field separator, FS, to value.\n" ++
  "    -v var=value     assigns value to program variable var.\n" ++
  "    --               unambiguous end of options.\n" ++
  "\n" ++
  "    Implementation-specific options are prefixed with \"-W\".  They can be\n" ++
  "    abbreviated:\n" ++
  "\n" ++
  "    -W version       show version information and exit.\n" ++
  "    -W dump          show assembler-like listing of program and exit.\n" ++
  "    -W help          show this message and exit.\n" ++
  "    -W interactive   set unbuffered output, line-buffered input.\n" ++
  "    -W exec file     use file as program as well as last option.\n" ++
  "    -W random=number set initial random seed.\n" ++
  "    -W sprintf=number adjust size of sprintf buffer.\n" ++
  "    -W posix_space   do not consider \"\\n\" a space.\n" ++
  "    -W usage         show this message and exit.\n"

/-- Tells what is wrong, and gives the exit code for that. -/
def refuse (message : Text) : Task Int := do
  Task.print 2 ((← Task.process).name ++ ": ".toList ++ message ++ ['\n'])
  return 2

/-- The pieces of a program that files hold, or what is wrong with one of them. -/
def filePieces : List Text → Task (Except Text (List (Option Text × Text)))
  | [] => return .ok []
  | path :: paths => do
    let source := if path = "/dev/stdin".toList then ['-'] else path
    let descriptor ← if source = ['-'] then pure (.ok 0) else Task.openFree .input path
    match descriptor with
    | .error fault =>
      return .error ("cannot open \"".toList ++ path ++ "\" (".toList ++ fault.message ++ [')'])
    | .ok descriptor =>
      match ← Task.takeAll descriptor with
      | .error fault => return .error ("read error (".toList ++ fault.message ++ [')'])
      | .ok bytes =>
        if descriptor ≠ 0 then Task.disconnect descriptor
        match ← filePieces paths with
        | .error message => return .error message
        | .ok more => return .ok ((some path, Raw.ofBytes bytes) :: more)

/-- Runs a program. -/
def run (l : Launcher) (options : Options) (program : Program) (arguments : List Text) :
    Task Int := do
  let p ← Task.process
  let environment := p.bindings.filterMap fun (name, v) =>
    if v.exported then v.value.map fun value => (name, value) else none
  let seed := p.time / 1000000
  let start := State.start l program (p.name :: arguments) environment seed
  let whole : Run Unit := do
    if let some t := options.fieldSeparator then
      Run.keep Special.fieldSeparator (.text (Reader.unescaped t.length t))
    for (name, value) in options.assignments do Run.assignArgument name value
    Run.runAll program
  let (result, s) ← whole.run.run start
  match result with
  | .ok () => return s.status % 256
  | .error _ =>
    let _ ← Run.closeAll.run.run s
    return s.status % 256

end Records

/-- Runs a program for records. -/
def awk (l : Launcher) (arguments : List Text) : Task Int := do
  let warn (message : Text) : Task Unit := do
    let _ ← Records.refuse message
  if arguments.isEmpty then
    Task.print 2 Records.help.toList
    return 0
  match ← Records.readOptions warn (arguments.length + 1) ⟨[], [], none⟩ arguments with
  | .help =>
    print Records.help.toList
    return 0
  | .refused message => Records.refuse message
  | .run options operands =>
    if let some message := options.fault? then return ← Records.refuse message
    let pieces ← match options.files, operands with
      | [], [] => pure none
      | [], ['-'] :: _ => pure none
      | [], t :: operands => pure (some (.ok [(none, t)], operands))
      | files, operands => do
        let found ← Records.filePieces files
        pure (some (found, operands))
    match pieces with
    | none => return 0
    | some (.error message, _) => Records.refuse message
    | some (.ok pieces, operands) =>
      match Records.Program.ofPieces pieces with
      | .error messages =>
        for message in messages do
          let _ ← Records.refuse message
        return 2
      | .ok program => Records.run l options program operands

end LineShell.Sh.Tool
