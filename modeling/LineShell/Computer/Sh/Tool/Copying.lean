import LineShell.Computer.Sh.Tool.Making
import LineShell.Computer.Sh.Tool.Removing

/-!
# Copying, moving and linking

Tools that give files other names or make copies of them.  What stood at the place that something
goes to is replaced, is kept under another name, or stands in the way.
-/

namespace LineShell.Sh.Tool

/-- Which links are followed while things are copied. -/
inductive Following where
  | never
  /-- Those that are named themselves. -/
  | named
  | always
deriving DecidableEq, Repr

/-- What becomes of something that stands in the way. -/
inductive Overwriting where
  | replace
  /-- It is replaced if a question about it is answered so. -/
  | ask
  | keep
deriving DecidableEq, Repr

/-- How things are copied or moved. -/
structure Transfer where
  isRecursive : Bool
  following : Following
  overwriting : Overwriting
  isVerbose : Bool
  /-- What is newer is kept. -/
  onlyNewer : Bool
  keeping : Option Keeping
  /-- Copies are made as further names. -/
  makesNames : Bool
  /-- Copies are made as links. -/
  makesLinks : Bool
  keepsTimes : Bool
  keepsModes : Bool
  /-- What cannot be written is removed first. -/
  isForced : Bool
  removesFirst : Bool

/-- What was made or copied so far. -/
structure Transferred where
  /-- The nodes that were copied, with the paths to which they were. -/
  sources : List (NodeId × Text)
  /-- The paths that were made. -/
  made : List Text

/-- Tells of a copy. -/
def tellTransfer (doing : String) (source target : Text) (kept : Option Text) : Task Unit :=
  printLine (doing.toList ++ Quoting.always source ++ " -> ".toList ++ Quoting.always target ++
    match kept with
    | some old => " (backup: ".toList ++ Quoting.always old ++ [')']
    | none => [])

/-- Complains of two paths of the same file. -/
def complainSame (source target : Text) : Task Unit :=
  complain (Quoting.always source ++ " and ".toList ++ Quoting.always target ++
    " are the same file".toList)

/-- Makes a link. -/
def linkAt (target path : Text) : Task (Except FileFault Unit) :=
  alter fun files directory now =>
    if target.isEmpty then .error .missing
    else (files.plant directory path now ⟨.link target, 0o777, now⟩).map Prod.snd

/-- Copies the content of a file to a path, where a file may be already. -/
def copyContent (t : Transfer) (node : Node) (content : Content) (target : Text) :
    Task (Except FileFault Unit) := do
  if (← look? true target).isNone && (← look? false target).isSome then return .error .busy
  let isNew := (← look? true target).isNone
  match ← Task.openPath { writes := true, makes := true } target with
  | .error .isDirectory => return .error (if isNew then .notDirectory else .isDirectory)
  | .error fault => return .error fault
  | .ok (.file id ..) =>
    let now ← Task.now
    modify fun m => { m with files := m.files.setContent id now fun _ => content }
    if isNew || t.keepsModes then
      let mode ← if t.keepsModes then pure node.mode else Task.maskedMode (node.mode &&& 0o777)
      setModeOf id mode
    if t.keepsTimes then setTimeOf id node.time
    return .ok ()
  | .ok channel =>
    let channel ← Task.addChannel channel
    Task.connect Control.ownDescriptor channel
    let _ ← Task.write Control.ownDescriptor content.toBytes
    Task.disconnect Control.ownDescriptor
    return .ok ()

/-- The content that is copied from a node, which may be a device that gives none. -/
def contentOf (path : Text) (node : Node) : Task Content := do
  match node.kind with
  | .file content => return content
  | .program _ => return .empty
  | _ => return .ofBytes ((← bytesOf path).toOption.getD [])

/-- Keeps what stands at a path under another name, if that is asked for. -/
def keptOld (keeping : Option Keeping) (path : Text) : Task (Option Text) := do
  match keeping with
  | some k => return some (← keepOld k path)
  | none => return none

/-- Copies what is in a directory into another one.  `again` copies one thing. -/
def copyEntries (again : Text → Text → Transferred → Task (Bool × Transferred))
    (top : Text × Text) (topNode : Option NodeId) (source target : Text) (done : Transferred) :
    Task (Bool × Transferred) := do
  let mut succeeds := true
  let mut state := done
  if let some (_, node) ← look? true source then
    if ¬ node.isReadable then
      complainOf "cannot access" source .denied
      return (false, done)
  for name in ← entriesAt source do
    let inner := Path.join source name
    let isTarget := (← look? false inner).any fun (id, _) => some id = topNode
    if isTarget then
      complain ("cannot copy a directory, ".toList ++ Quoting.always top.1 ++ ", into itself, ".toList
        ++ Quoting.always top.2)
      succeeds := false
    else
      let (well, next) ← again inner (Path.join target name) state
      state := next
      unless well do succeeds := false
  return (succeeds, state)

/-- Copies to a path where nothing stands in the way any more.  `again` copies one thing. -/
def copyNew (again : Option NodeId → Text → Text → Transferred → Task (Bool × Transferred))
    (t : Transfer) (top : Text × Text) (topNode : Option NodeId) (source target : Text) (node : Node)
    (kept : Option Text) (done : Transferred) : Task (Bool × Transferred) := do
  let result (made : Except FileFault Unit) (message : Text) : Task (Bool × Transferred) := do
    match made with
    | .ok () => return (true, { done with made := target :: done.made })
    | .error .busy =>
      complain ("not writing through dangling symlink ".toList ++ Quoting.always target)
      return (false, done)
    | .error fault =>
      complain (message ++ ": ".toList ++ fault.message)
      return (false, done)
  if t.isVerbose && !node.isDirectory then tellTransfer "" source target kept
  match node.kind with
  | .directory .. =>
    match ← makeDirectory target 0o777 with
    | .error fault =>
      complain ("cannot create directory ".toList ++ Quoting.always target ++ ": ".toList ++
        fault.message)
      return (false, done)
    | .ok () =>
      if t.isVerbose then tellTransfer "" source target none
      match ← look? true target with
      | none => return (true, done)
      | some (newId, _) =>
        let topNode := topNode.or (some newId)
        let (succeeds, done) ← copyEntries (again topNode) top topNode source target
          { done with made := target :: done.made }
        let mode ← if t.keepsModes then pure node.mode
          else Task.maskedMode (node.mode &&& 0o777)
        setModeOf newId mode
        if t.keepsTimes then setTimeOf newId node.time
        return (succeeds, done)
  | .link link =>
    result (← linkAt link target) ("cannot create symbolic link ".toList ++ Quoting.always target)
  | .pipe =>
    if t.isRecursive then
      result (← plantAt target .pipe node.mode) ("cannot create fifo ".toList ++ Quoting.always target)
    else
      let content ← contentOf source node
      result (← copyContent t node content target)
        ("cannot create regular file ".toList ++ Quoting.always target)
  | _ =>
    if t.makesNames then
      let made ← alter fun files directory now =>
        files.giveName (t.following = .always) directory source target now
      result made ("cannot create hard link ".toList ++ Quoting.always target ++ " to ".toList ++
        Quoting.always source)
    else if t.makesLinks then
      if target.contains '/' && !Path.isAbsolute source then
        complain (Quoting.beforeColon target ++
          ": can make relative symbolic links only in current directory".toList)
        return (false, done)
      result (← linkAt source target)
        ("cannot create symbolic link ".toList ++ Quoting.always target ++ " to ".toList ++
          Quoting.always source)
    else if ¬ node.isReadable then
      complain ("cannot open ".toList ++ Quoting.always source ++ " for reading: ".toList ++
        FileFault.message .denied)
      return (false, done)
    else
      let content ← contentOf source node
      result (← copyContent t node content target)
        ("cannot create regular file ".toList ++ Quoting.always target)

/-- Copies what is at a path to another one and all within it, as deeply as given.  `top` is what the
whole copy is about.  The result tells whether that was possible. -/
def copyWithin (t : Transfer) (top : Text × Text) :
    (fuel : Nat) → (isTop : Bool) → (topNode : Option NodeId) → (source target : Text) →
      Transferred → Task (Bool × Transferred)
  | 0, _, _, _, _, done => return (true, done)
  | fuel + 1, isTop, topNode, source, target, done => do
    let failed (done : Transferred) (message : Text) : Task (Bool × Transferred) := do
      complain message
      return (false, done)
    let follows := t.following = .always || (isTop && t.following = .named)
    match ← look follows source with
    | .error fault =>
      complainOf "cannot stat" source fault
      return (false, done)
    | .ok (id, node) =>
      if node.isDirectory && !t.isRecursive then
        return ← failed done ("-r not specified; omitting directory ".toList ++ Quoting.always source)
      if isTop && done.sources.contains (id, target) then
        complain ("warning: source ".toList ++ (if node.isDirectory then "directory " else "file ").toList
          ++ Quoting.always source ++ " specified more than once".toList)
        return (true, done)
      let done := { done with sources := (id, target) :: done.sources }
      let isPlain := node.isFile
      let old ← look? (isPlain && t.keeping.isNone && !t.makesLinks && !t.makesNames) target
      match old with
      | none => copyNew (copyWithin t top fuel false) t top topNode source target node none done
      | some (oldId, oldNode) =>
        let sameTarget := (← look? true target).any (·.1 = id)
        let isSame := oldId = id || (sameTarget && !(t.removesFirst || t.keeping.isSome) &&
          (oldNode.isLink || follows))
        if isSame && !(node.isDirectory && oldId ≠ id) && !(node.isDirectory) then
          if t.makesNames && oldId = id then return (true, done)
          if t.keeping.isNone || oldId = id && source = target then
            complainSame source target
            return (false, done)
        if t.onlyNewer && !node.isDirectory && node.time ≤ oldNode.time then return (true, done)
        if ¬ node.isDirectory || ¬ oldNode.isDirectory then
          if t.overwriting = .keep then return (true, done)
          if node.isDirectory then
            return ← failed done ("cannot overwrite non-directory ".toList ++ Quoting.always target ++
              " with directory ".toList ++ Quoting.always source)
          if oldNode.isDirectory then
            return ← failed done ("cannot overwrite directory ".toList ++ Quoting.always target ++
              " with non-directory".toList)
          if done.made.contains target then
            return ← failed done ("will not overwrite just-created ".toList ++ Quoting.always target ++
              " with ".toList ++ Quoting.always source)
          if t.overwriting = .ask then
            unless ← ask ("overwrite ".toList ++ Quoting.always target ++ "? ".toList) do
              return (true, done)
          let kept ← keptOld t.keeping target
          let isReplaced := kept.isNone && (t.removesFirst || node.isLink ||
            (t.isForced && (t.makesLinks || t.makesNames)))
          if isReplaced then
            let _ ← alter fun files directory now => files.remove directory target now
          copyNew (copyWithin t top fuel false) t top topNode source target node kept done
        else copyEntries (copyWithin t top fuel false topNode) top topNode source target done

/-- How `cp` takes options. -/
def cpUsage : Usage :=
  .free (OptionForm.flags [('a', "archive"), ('f', "force"), ('i', "interactive"), ('l', "link"),
      ('L', "dereference"), ('n', "no-clobber"), ('P', "no-dereference"), ('R', "recursive"),
      ('s', "symbolic-link"), ('T', "no-target-directory"), ('u', "update"), ('v', "verbose"),
      ('x', "one-file-system")] ++ OptionForm.letters "bdHpr" ++
    [⟨none, some "backup", .perhaps⟩, ⟨none, some "preserve", .perhaps⟩,
      ⟨none, some "reflink", .perhaps⟩] ++
    OptionForm.names ["attributes-only", "parents", "remove-destination",
      "strip-trailing-slashes"] ++ OptionForm.valuedNames ["no-preserve", "sparse"] ++
    OptionForm.valuedFlags [('S', "suffix"), ('t', "target-directory")])

/-- What becomes of things in the way, as options ask. -/
def overwritingOf (given : Given) : Overwriting :=
  match given.lastOf "fin" with
  | some 'i' => .ask
  | some 'n' => .keep
  | _ => if given.has "n" then .keep else if given.has "i" then .ask else .replace

/-- Copies files. -/
def cp (given : Given) (operands : List Text) : Task Int := do
  match ← targetOf given operands with
  | .error code => return code
  | .ok (sources, target) =>
    let isRecursive := given.hasAny "aRr"
    let following : Following := match given.lastOf "aLPHd" with
      | some 'L' => .always
      | some 'H' => .named
      | some _ => .never
      | none => if isRecursive then .never else .always
    let keeps (what : String) : Bool := given.hasAny "ap" ||
      (given.values "preserve").any fun t =>
        t.isEmpty || (pieces ',' t).any fun w => w = what.toList || w = "all".toList
    let t : Transfer :=
      { isRecursive, following
        overwriting := match given.lastOf "in" with
          | some 'i' => .ask
          | some _ => .keep
          | none => .replace
        isVerbose := given.has "v"
        onlyNewer := given.has "u"
        keeping := Keeping.ofGiven given
        makesNames := given.has "l"
        makesLinks := given.has "s"
        keepsTimes := keeps "timestamps"
        keepsModes := keeps "mode"
        isForced := given.has "f"
        removesFirst := given.has "remove-destination" }
    let mut status : Int := 0
    let mut done : Transferred := ⟨[], []⟩
    for source in sources do
      let mut path := match target with
        | .itself path => path
        | .within directory => pathWithin directory source
      if given.has "parents" then
        match target with
        | .itself _ =>
          complain "with --parents, the destination must be a directory".toList
          return 1
        | .within directory =>
          let inner := Path.join directory (Path.bare source)
          let _ ← makeAll false none inner ((pathsTo inner).dropLast)
          path := inner
      let (succeeds, next) ← copyWithin t (source, path) ((← Task.files).nodes.size + 64) true none
        source path done
      done := next
      unless succeeds do status := 1
    return status

/-- How `mv` takes options. -/
def mvUsage : Usage :=
  .free (OptionForm.flags [('f', "force"), ('i', "interactive"), ('n', "no-clobber"),
      ('T', "no-target-directory"), ('u', "update"), ('v', "verbose")] ++ OptionForm.letters "bZ" ++
    [⟨none, some "backup", .perhaps⟩] ++ OptionForm.names ["strip-trailing-slashes"] ++
    OptionForm.valuedFlags [('S', "suffix"), ('t', "target-directory")])

/-- Moves what is at a path to another one, and tells whether that was possible. -/
def moveTo (given : Given) (made : List Text) (source path : Text) : Task Bool := do
  match ← look false source with
  | .error fault =>
    complainOf "cannot stat" source fault
    return false
  | .ok (id, node) =>
    let mut kept : Option Text := none
    match ← look false path with
    | .error .notDirectory =>
      complainOf "cannot stat" path .notDirectory
      return false
    | .error _ => pure ()
    | .ok (oldId, old) =>
      let leadsThere := node.isLink && (← look? true source).any (·.1 = oldId)
      if (oldId = id || leadsThere) && !(node.isDirectory && source ≠ path && oldId ≠ id) then
        unless node.isDirectory do
          complainSame source path
          return false
      if given.has "u" && !node.isDirectory && node.time ≤ old.time then return true
      match overwritingOf given with
      | .keep => return true
      | .ask =>
        unless ← ask ("overwrite ".toList ++ Quoting.always path ++ "? ".toList) do return true
      | .replace => pure ()
      if node.isDirectory && !old.isDirectory then
        complain ("cannot overwrite non-directory ".toList ++ Quoting.always path ++
          " with directory ".toList ++ Quoting.always source)
        return false
      if !node.isDirectory && old.isDirectory then
        complain ("cannot overwrite directory ".toList ++ Quoting.always path ++
          " with non-directory".toList)
        return false
      if made.contains path && !node.isDirectory then
        complain ("will not overwrite just-created ".toList ++ Quoting.always path ++ " with ".toList ++
          Quoting.always source)
        return false
      if oldId ≠ id then kept ← keptOld (Keeping.ofGiven given) path
    match ← alter fun files directory now => files.rename directory source path now with
    | .ok () =>
      if given.has "v" then tellTransfer "renamed " source path kept
      return true
    | .error .invalid =>
      complain ("cannot move ".toList ++ Quoting.always source ++ " to a subdirectory of itself, ".toList
        ++ Quoting.always path)
      return false
    | .error .notEmpty =>
      complainOf "cannot overwrite" path .notEmpty
      return false
    | .error fault =>
      complain ("cannot move ".toList ++ Quoting.always source ++ " to ".toList ++
        Quoting.always path ++ ": ".toList ++ fault.message)
      return false

/-- Moves files. -/
def mv (given : Given) (operands : List Text) : Task Int := do
  match ← targetOf given operands with
  | .error code => return code
  | .ok (sources, target) =>
    let mut status : Int := 0
    let mut made : List Text := []
    for source in sources do
      let path := match target with
        | .itself path => path
        | .within directory => pathWithin directory source
      if ← moveTo given made source path then made := path :: made else status := 1
    return status

/-- How `ln` takes options. -/
def lnUsage : Usage :=
  .free (OptionForm.flags [('f', "force"), ('i', "interactive"), ('L', "logical"),
      ('n', "no-dereference"), ('P', "physical"), ('r', "relative"), ('s', "symbolic"),
      ('T', "no-target-directory"), ('v', "verbose")] ++ OptionForm.letters "bdF" ++
    [⟨none, some "backup", .perhaps⟩] ++
    OptionForm.valuedFlags [('S', "suffix"), ('t', "target-directory")])

/-- Makes one link or name at a path, and tells whether that was possible. -/
def makeLink (given : Given) (source path : Text) : Task Bool := do
  let isSymbolic := given.has "s"
  unless isSymbolic do
    match ← look (given.has "L") source with
    | .error fault =>
      complainOf "failed to access" source fault
      return false
    | .ok (_, node) =>
      if node.isDirectory then
        complain (Quoting.beforeColon source ++ ": hard link not allowed for directory".toList)
        return false
  let replaces := given.hasAny "fi" || (Keeping.ofGiven given).isSome
  let mut kept : Option Text := none
  if replaces then
    if let some (oldId, old) := ← look? false path then
      let same := (← look? (!isSymbolic && given.has "L" || isSymbolic) source).any (·.1 = oldId)
      if same && !(isSymbolic && old.isLink) then
        if (← look? false source).any (·.1 = oldId) && Path.lastName source = Path.lastName path then
          complainSame source path
          return false
      if old.isDirectory then
        complain (Quoting.beforeColon path ++ ": cannot overwrite directory".toList)
        return false
      if given.has "i" && given.lastOf "fi" = some 'i' then
        unless ← ask ("replace ".toList ++ Quoting.always path ++ "? ".toList) do return false
      match Keeping.ofGiven given with
      | some k => kept := some (← keepOld k path)
      | none =>
        unless same && !isSymbolic do
          let _ ← alter fun files directory now => files.remove directory path now
  let m ← get
  let target : Text :=
    if given.has "r" && isSymbolic then
      let here := m.process.directory
      match canonical m.files here .none source,
        canonical m.files here .none (directoryName path) with
      | .ok t, .ok directory => relativeTo directory t
      | _, _ => source
    else source
  let made ← if isSymbolic then linkAt target path
    else if replaces && (← look? false path).isSome then pure (.ok ())
    else alter fun files directory now => files.giveName (given.has "L") directory source path now
  match made with
  | .ok () =>
    if given.has "v" then
      printLine (Quoting.always path ++ (if isSymbolic then " -> " else " => ").toList ++
        Quoting.always target ++ match kept with
        | some old => " ~ ".toList ++ Quoting.always old
        | none => [])
    return true
  | .error fault =>
    let kind := if isSymbolic then "symbolic" else "hard"
    let isShort := if isSymbolic then !source.isEmpty && fault ≠ .nameTooLong else fault = .taken
    complain ("failed to create ".toList ++ kind.toList ++ " link ".toList ++ Quoting.always path ++
      (if isShort then [] else (if isSymbolic then " -> " else " => ").toList ++
        Quoting.always source) ++ ": ".toList ++ fault.message)
    return false

/-- Makes links or further names. -/
def ln (given : Given) (operands : List Text) : Task Int := do
  let directoryLike (path : Text) : Task Bool := do
    if given.has "n" && (← look? false path).any (·.2.isLink) then return false
    isDirectoryAt path
  let plan : Except Int (List Text × Target) ← match operands, given.has "T" || given.has "t" with
    | [path], false => pure (.ok ([path], .within ['.']))
    | [path, last], false =>
      if ← directoryLike last then pure (.ok ([path], .within last))
      else pure (.ok ([path], .itself last))
    | _, _ => targetOf given operands
  match plan with
  | .error code => return code
  | .ok (sources, target) =>
    let mut status : Int := 0
    for source in sources do
      let path := match target with
        | .itself path => path
        | .within directory => pathWithin directory source
      unless ← makeLink given source path do status := 1
    return status

/-- Gives a file one more name. -/
def link (_ : Given) (operands : List Text) : Task Int := do
  match operands with
  | [] => refuse "missing operand".toList 1
  | [path] => refuse ("missing operand after ".toList ++ Quoting.word path) 1
  | [old, new] =>
    match ← alter fun files directory now => files.giveName false directory old new now with
    | .ok () => return 0
    | .error fault =>
      complain ("cannot create link ".toList ++ Quoting.always new ++ " to ".toList ++
        Quoting.always old ++ ": ".toList ++ fault.message)
      return 1
  | _ :: _ :: extra :: _ => refuseExtra extra

/-- How `install` takes options. -/
def installUsage : Usage :=
  .free (OptionForm.flags [('C', "compare"), ('d', "directory"), ('p', "preserve-timestamps"),
      ('s', "strip"), ('T', "no-target-directory"), ('v', "verbose")] ++ OptionForm.letters "bcD" ++
    [⟨none, some "backup", .perhaps⟩] ++
    OptionForm.valuedFlags [('g', "group"), ('m', "mode"), ('o', "owner"), ('S', "suffix"),
      ('t', "target-directory")])

/-- Copies files and sets their permissions. -/
def install (given : Given) (operands : List Text) : Task Int := do
  let mask := (← Task.process).mask
  let asked := (given.value? "m").getD "755".toList
  match Mode.change? asked with
  | none =>
    complain ("invalid mode ".toList ++ Quoting.word asked)
    return 1
  | some steps =>
    let mode := Mode.applied (given.has "d") mask steps 0
    let mut status : Int := 0
    if given.has "d" then
      if operands.isEmpty then return ← refuse "missing file operand".toList 1
      for path in operands do
        unless ← makeAll (given.has "v") (some mode) path (pathsTo path) do status := 1
      return status
    if given.has "D" then
      if let some last := operands.getLast? then
        let directory := if given.has "t" then (given.value? "t").getD [] else directoryName last
        let _ ← makeAll (given.has "v") none directory (pathsTo directory)
    match ← targetOf given operands with
    | .error code => return code
    | .ok (sources, target) =>
      let t : Transfer :=
        { isRecursive := false, following := .always, overwriting := .replace
          isVerbose := given.has "v", onlyNewer := false, keeping := Keeping.ofGiven given
          makesNames := false, makesLinks := false, keepsTimes := given.has "p"
          keepsModes := false, isForced := true, removesFirst := true }
      let mut done : Transferred := ⟨[], []⟩
      for source in sources do
        let path := match target with
          | .itself path => path
          | .within directory => pathWithin directory source
        if ← isDirectoryAt source then
          complain ("omitting directory ".toList ++ Quoting.always source)
          status := 1
        else
          let (succeeds, next) ← copyWithin t (source, path) 1 true none source path done
          done := next
          if succeeds then
            if let some (id, _) := ← look? true path then setModeOf id mode
          else status := 1
      return status

end LineShell.Sh.Tool
