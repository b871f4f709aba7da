import LineShell.Computer.Sh.Tool.Entries
import LineShell.Computer.Sh.Tool.Size
import LineShell.Computer.Text.Calendar.Reading

/-!
# Making and altering files

Tools that make directories, empty files and meeting places of processes, and those that alter the
sizes, times and permissions of files.
-/

namespace LineShell.Sh.Tool

/-- The permissions that an option gives to something new, or what is wrong with it. -/
def newMode (given : Given) (usual : Nat) (isDirectory : Bool) : Task (Except Text (Option Nat)) := do
  match given.value? "m" with
  | none => return .ok none
  | some t =>
    match Mode.change? t with
    | none => return .error ("invalid mode ".toList ++ Quoting.word t)
    | some steps => return .ok (some (Mode.applied isDirectory (← Task.process).mask steps usual))

/-- How `mkdir` takes options. -/
def mkdirUsage : Usage :=
  .free (OptionForm.flags [('p', "parents"), ('v', "verbose")] ++ OptionForm.letters "Z" ++
    OptionForm.valuedFlags [('m', "mode")])

/-- The paths that lead to a path, from its first name on, and itself. -/
def pathsTo (path : Text) : List Text :=
  let isEnd (i : Nat) : Bool := i ≠ 0 && path[i]? = some '/' && path[i - 1]? ≠ some '/'
  let bare := (path.reverse.dropWhile (· = '/')).reverse
  ((List.range bare.length).filter isEnd).map bare.take ++ [path]

/-- Complains of a directory that cannot be made. -/
def complainOfDirectory (path : Text) (fault : FileFault) : Task Unit :=
  complain ("cannot create directory ".toList ++ Quoting.word path ++ ": ".toList ++ fault.message)

/-- Makes a directory and those that lead to it, and tells whether that was possible. -/
def makeAll (verbose : Bool) (mode : Option Nat) (whole : Text) : List Text → Task Bool
  | [] => return true
  | path :: rest => do
    let isLast := rest.isEmpty
    if ← isDirectoryAt path then makeAll verbose mode whole rest
    else
      let there := (← look? true path).isSome
      match ← makeDirectory path 0o777 with
      | .ok () =>
        if verbose then announce ("created directory ".toList ++ Quoting.always path)
        if isLast then
          if let some mode := mode then
            if let some (id, _) := ← look? true path then setModeOf id mode
        makeAll verbose mode whole rest
      | .error fault =>
        let fault := if fault = .taken ∧ there ∧ ¬ isLast then .notDirectory else fault
        complainOfDirectory path fault
        return false

/-- Makes directories. -/
def mkdir (given : Given) (paths : List Text) : Task Int := do
  if paths.isEmpty then return ← refuse "missing operand".toList 1
  match ← newMode given 0o777 true with
  | .error message =>
    complain message
    return 1
  | .ok mode =>
    let mut status : Int := 0
    for path in paths do
      if given.has "p" && !path.isEmpty then
        if ¬ (← makeAll (given.has "v") mode path (pathsTo path)) then status := 1
      else
        match ← makeDirectory path 0o777 with
        | .ok () =>
          if given.has "v" then announce ("created directory ".toList ++ Quoting.always path)
          if let some mode := mode then
            if let some (id, _) := ← look? true path then setModeOf id mode
        | .error fault =>
          complainOfDirectory path fault
          status := 1
    return status

/-- How `mkfifo` takes options. -/
def mkfifoUsage : Usage :=
  .free (OptionForm.letters "Z" ++ OptionForm.valuedFlags [('m', "mode")])

/-- Makes meeting places of processes. -/
def mkfifo (given : Given) (paths : List Text) : Task Int := do
  if paths.isEmpty then return ← refuse "missing operand".toList 1
  match ← newMode given 0o666 false with
  | .error _ =>
    complain "invalid mode".toList
    return 1
  | .ok mode =>
    let mut status : Int := 0
    for path in paths do
      match ← plantAt path .pipe 0o666 with
      | .ok () =>
        if let some mode := mode then
          if let some (id, _) := ← look? true path then setModeOf id mode
      | .error fault =>
        complainOf "cannot create fifo" path fault
        status := 1
    return status

/-- How `touch` takes options. -/
def touchUsage : Usage :=
  .free (OptionForm.letters "amf" ++ OptionForm.flags [('c', "no-create"), ('h', "no-dereference")] ++
    OptionForm.valuedFlags [('d', "date"), ('r', "reference")] ++ OptionForm.valuedLetters "t" ++
    OptionForm.valuedNames ["time"])

/-- The time that options give to files, or what is wrong with it. -/
def timeGiven (given : Given) : Task (Except Text (Option Int)) := do
  let now := (← Task.process).time
  let seconds : Int := (now / 1000000 : Nat)
  let reference ← match given.value? "r" with
    | none => pure none
    | some path =>
      match ← look (!given.has "h") path with
      | .ok (_, node) => pure (some node.time)
      | .error fault =>
        return .error ("failed to get attributes of ".toList ++ Quoting.always path ++ ": ".toList ++
          fault.message)
  let zone ← Task.zone
  match given.value? "t", given.value? "d" with
  | some t, _ =>
    match Calendar.stamp? zone false seconds t with
    | some n => return .ok (some (n * 1000000))
    | none => return .error ("invalid date format ".toList ++ Quoting.word t)
  | none, some t =>
    let base : Int × Nat := match reference with
      | some time => (time.fdiv 1000000, ((time.fmod 1000000).toNat) * 1000)
      | none => (seconds, now % 1000000 * 1000)
    match Calendar.moment? zone base t with
    | some (n, nano) => return .ok (some (n * 1000000 + (nano / 1000 : Nat)))
    | none => return .error ("invalid date format ".toList ++ Quoting.word t)
  | none, none => return .ok reference

/-- Makes files, or alters the times of those that are there. -/
def touch (given : Given) (paths : List Text) : Task Int := do
  match ← timeGiven given with
  | .error message =>
    complain message
    return 1
  | .ok time =>
    if paths.isEmpty then return ← refuse "missing file operand".toList 1
    let onlyAccess := given.has "a" && !given.has "m"
    let mut status : Int := 0
    for path in paths do
      let set (id : NodeId) : Task Unit := do
        unless onlyAccess do setTimeOf id (time.getD (← Task.now))
      match ← look (!given.has "h") path with
      | .ok (id, _) => set id
      | .error .missing =>
        unless given.has "c" || given.has "h" do
          match ← Task.openPath { writes := true, makes := true } path with
          | .ok (.file id ..) => set id
          | .ok _ => pure ()
          | .error .isDirectory =>
            complainOf "setting times of" path .missing
            status := 1
          | .error fault =>
            complainOf "cannot touch" path fault
            status := 1
        if given.has "h" && !given.has "c" then
          complainOf "setting times of" path .missing
          status := 1
      | .error fault =>
        complainOf (if Path.isSlashed path then "setting times of" else "cannot touch") path fault
        status := 1
    return status

/-- How `truncate` takes options. -/
def truncateUsage : Usage :=
  .free (OptionForm.flags [('c', "no-create"), ('o', "io-blocks")] ++
    OptionForm.valuedFlags [('r', "reference"), ('s', "size")])

/-- How a size is altered: the operation, if there is one, and a number. -/
structure Resizing where
  op : Option Char
  n : Nat

/-- The alteration that a text names. -/
def Resizing.ofText (t : Text) : Except Text Resizing :=
  let t := t.dropWhile isSpace
  let (op, rest) : Option Char × Text := match t with
    | c :: rest => if "+-<>/%".toList.contains c then (some c, rest) else (none, t)
    | [] => (none, [])
  match Amount.ofText "KkMmGTPEZY" (rest.dropWhile isSpace) with
  | .ok n => .ok ⟨op, n⟩
  | .error fault => .error ("Invalid number: ".toList ++ Quoting.word t ++ Amount.reason fault)

/-- The size after an alteration. -/
def Resizing.applied (r : Resizing) (size : Nat) : Nat :=
  match r.op with
  | some '+' => size + r.n
  | some '-' => size - r.n
  | some '<' => min size r.n
  | some '>' => max size r.n
  | some '/' => size / r.n * r.n
  | some '%' => (size + r.n - 1) / r.n * r.n
  | _ => r.n

/-- Alters the sizes of files. -/
def truncate (given : Given) (paths : List Text) : Task Int := do
  let size : Except Text (Option Resizing) := match given.value? "s" with
    | none => .ok none
    | some t => (Resizing.ofText t).map some
  match size with
  | .error message =>
    complain message
    return 1
  | .ok size =>
    let reference := given.value? "r"
    if size.isNone && reference.isNone then
      return ← refuse ("you must specify either ".toList ++ Quoting.word "--size".toList ++
        " or ".toList ++ Quoting.word "--reference".toList) 1
    if reference.isSome && size.any (·.op.isNone) then
      return ← refuse ("you must specify a relative ".toList ++ Quoting.word "--size".toList ++
        " with ".toList ++ Quoting.word "--reference".toList) 1
    if given.has "o" && size.isNone then
      return ← refuse (Quoting.word "--io-blocks".toList ++ " was specified but ".toList ++
        Quoting.word "--size".toList ++ " was not".toList) 1
    if size.any fun r => (r.op = some '/' || r.op = some '%') && r.n = 0 then
      complain "division by zero".toList
      return 1
    if paths.isEmpty then return ← refuse "missing file operand".toList 1
    let base ← match reference with
      | none => pure none
      | some path =>
        match ← look true path with
        | .ok (_, node) => pure (some node.size)
        | .error fault =>
          complainOf "cannot stat" path fault
          return 1
    let size := size.map fun r => if given.has "o" then { r with n := r.n * 4096 } else r
    let mut status : Int := 0
    for path in paths do
      let there := (← look? true path).isSome
      if there || !given.has "c" then
        match ← Task.openPath { writes := true, makes := true } path with
        | .ok (.file id ..) =>
          let now ← Task.now
          let resize (content : Content) : Content :=
            let start := base.getD content.size
            content.resized ((size.map (·.applied start)).getD start)
          modify fun m => { m with files := m.files.setContent id now resize }
        | .ok _ => pure ()
        | .error fault =>
          complain ("cannot open ".toList ++ Quoting.always path ++ " for writing: ".toList ++
            fault.message)
          status := 1
    return status

/-- How `chmod` takes options. -/
def chmodUsage : Usage :=
  .free (OptionForm.flags [('c', "changes"), ('f', "silent"), ('v', "verbose"), ('R', "recursive")] ++
    OptionForm.names ["quiet", "preserve-root", "no-preserve-root"] ++
    OptionForm.valuedNames ["reference"])

/-- Arguments in which changes that look like options stand apart from the others. -/
def modesAmong : List Text → List Text × List Text
  | [] => ([], [])
  | t :: ts =>
    if t = "--".toList then ([], t :: ts)
    else
      let (modes, others) := modesAmong ts
      match t with
      | '-' :: c :: _ =>
        if "rwxXstugoa,+=01234567".toList.contains c then (t :: modes, others) else (modes, t :: others)
      | _ => (modes, t :: others)

/-- Alters the permissions of what a path leads to, and if so asked of all within it, as deeply as
given.  The result tells whether that was possible. -/
def changeMode (given : Given) (change : Bool → Nat → Nat) (surprise : Bool → Nat → Nat → Option Text)
    (isTop : Bool) : (fuel : Nat) → Text → Task Bool
  | 0, _ => return true
  | fuel + 1, path => do
    match ← look true path with
    | .error fault =>
      unless given.has "f" || given.has "quiet" do
        match ← look? false path with
        | some (_, node) =>
          if node.isLink then
            if isTop then
              complain ("cannot operate on dangling symlink ".toList ++ Quoting.always path)
          else complainOf "cannot access" path fault
        | none => complainOf "cannot access" path fault
      return !isTop
    | .ok (id, node) =>
      let isLink := (← look? false path).any (·.2.isLink)
      if isLink && !isTop then return true
      let mode := change node.isDirectory node.mode
      setModeOf id mode
      let isChanged := mode ≠ node.mode
      let described (mode : Nat) : Text :=
        Mode.octal 4 mode ++ " (".toList ++ Mode.shown mode ++ [')']
      if isChanged && (given.has "v" || given.has "c") then
        printLine ("mode of ".toList ++ Quoting.always path ++ " changed from ".toList ++
          described node.mode ++ " to ".toList ++ described mode)
      else if given.has "v" then
        printLine ("mode of ".toList ++ Quoting.always path ++ " retained as ".toList ++
          described mode)
      let mut succeeds := true
      if let some message := surprise node.isDirectory node.mode mode then
        complain (Quoting.beforeColon path ++ ": ".toList ++ message)
        succeeds := false
      if given.has "R" && node.isDirectory then
        for name in ← entriesAt path do
          unless ← changeMode given change surprise false fuel (Path.join path name) do
            succeeds := false
      return succeeds

/-- Alters the permissions of files. -/
def chmod (arguments : List Text) : Task Int := do
  let (modes, others) := modesAmong arguments
  let run (given : Given) (operands : List Text) : Task Int := do
    let reference := given.value? "reference"
    let isOption := !modes.isEmpty
    let (written, paths) : Text × List Text :=
      if isOption then ([','].intercalate modes, operands)
      else if reference.isSome then ([], operands)
      else (operands.headD [], operands.tail)
    if paths.isEmpty then
      if operands.isEmpty then return ← refuse "missing operand".toList 1
      else
        return ← refuse ("missing operand after ".toList ++
          Quoting.word (operands.getLastD [])) 1
    let steps ← match reference with
      | some path =>
        match ← look true path with
        | .ok (_, node) => pure (some [(⟨'=', Mode.all, .bits node.mode, Mode.all⟩ : Mode.Step)])
        | .error fault =>
          complainOf "failed to get attributes of" path fault
          return 1
      | none => pure (Mode.change? written)
    match steps with
    | none => refuse ("invalid mode: ".toList ++ Quoting.word written) 1
    | some steps =>
      let mask := (← Task.process).mask
      let change (isDirectory : Bool) (mode : Nat) : Nat := Mode.applied isDirectory mask steps mode
      let surprise (isDirectory : Bool) (old new : Nat) : Option Text :=
        let expected := Mode.applied isDirectory 0 steps old
        if isOption ∧ Mode.without new expected ≠ 0 then
          some ("new permissions are ".toList ++ Mode.shown new ++ ", not ".toList ++
            Mode.shown expected)
        else none
      let mut status : Int := 0
      for path in paths do
        unless ← changeMode given change surprise true (← Task.files).nodes.size path do status := 1
      return status
  chmodUsage.call run others

/-- How `mktemp` takes options. -/
def mktempUsage : Usage :=
  .free (OptionForm.flags [('d', "directory"), ('u', "dry-run"), ('q', "quiet")] ++
    OptionForm.letters "t" ++ [⟨some 'p', some "tmpdir", .always⟩] ++ OptionForm.valuedNames ["suffix"])

/-- Letters that differ from those of other numbers. -/
def lettersOf : (count : Nat) → (n : Nat) → Text
  | 0, _ => []
  | count + 1, n =>
    let letters := "ABCDEFGHIJKLMNOPQRSTUVWXYZabcdefghijklmnopqrstuvwxyz0123456789".toList
    letters.getD (n % 62) 'a' :: lettersOf count (n / 62 + 17 * n + 5)

/-- Makes a file or a directory under a name that nothing has, and writes its path. -/
def mktemp (given : Given) (operands : List Text) : Task Int := do
  if let some _ := operands[1]? then return ← refuse "too many templates".toList 1
  let template := operands.headD "tmp.XXXXXXXXXX".toList
  let suffix := (given.value? "suffix").getD []
  let marks := (template.reverse.takeWhile (· = 'X')).length
  let (front, count, back) : Text × Nat × Text :=
    if marks ≠ 0 ∨ given.has "suffix" then (template.take (template.length - marks), marks, suffix)
    else
      let tail := (template.reverse.takeWhile (· ≠ 'X')).reverse
      let body := template.take (template.length - tail.length)
      let marks := (body.reverse.takeWhile (· = 'X')).length
      (body.take (body.length - marks), marks, tail)
  if count < 3 then
    complain ("too few X's in template ".toList ++ Quoting.word template)
    return 1
  let usual := (← Task.value? "TMPDIR".toList).getD "/tmp".toList
  let directory : Option Text := match given.value? "p" with
    | some t => some (if t.isEmpty then usual else t)
    | none => if given.has "t" ∨ operands.isEmpty then some usual else none
  let p ← Task.process
  let name := front ++ lettersOf count (p.time / 7 + p.id * 1000003) ++ back
  let path := directory.elim name fun d => Path.join d name
  let made ← if given.has "u" then pure (.ok ())
    else if given.has "d" then plantAt path (.directory [] FileTree.root) 0o700
    else plantAt path (.file .empty) 0o600
  match made with
  | .ok () =>
    printLine path
    return 0
  | .error fault =>
    unless given.has "q" do
      complain ("failed to create ".toList ++ (if given.has "d" then "directory" else "file").toList ++
        " via template ".toList ++ Quoting.word (directory.elim template fun d => Path.join d template) ++
        ": ".toList ++ fault.message)
    return 1

end LineShell.Sh.Tool
