import LineShell.Computer.Sh.Tool.Entries

/-!
# Removing files

Tools that take names away, and directories with all that is in them.
-/

namespace LineShell.Sh.Tool

/-- How `rm` takes options. -/
def rmUsage : Usage :=
  .free (OptionForm.flags [('f', "force"), ('r', "recursive"), ('d', "dir"), ('v', "verbose")] ++
    OptionForm.letters "RIi" ++ [⟨none, some "interactive", .perhaps⟩] ++
    OptionForm.names ["one-file-system", "no-preserve-root", "preserve-root"])

/-- When questions are asked before something is removed. -/
inductive Asking where
  | never
  | once
  | always
deriving DecidableEq, Repr

/-- How things are removed. -/
structure Removal where
  isForced : Bool
  isRecursive : Bool
  takesEmpty : Bool
  isVerbose : Bool
  asking : Asking

/-- What options ask for. -/
def Removal.ofGiven (given : Given) : Removal :=
  let last := given.reverse.findSome? fun (key, value) =>
    match key with
    | "f" => some Asking.never
    | "i" => some .always
    | "I" => some .once
    | "interactive" =>
      match String.ofList value with
      | "never" => some .never
      | "no" => some .never
      | "none" => some .never
      | "once" => some .once
      | _ => some .always
    | _ => none
  { isForced := given.has "f" && !(last = some .always)
    isRecursive := given.hasAny "rR"
    takesEmpty := given.has "d"
    isVerbose := given.has "v"
    asking := last.getD .never }

/-- The name is one that a directory has for itself or for the one around it. -/
def isDots (name : Text) : Bool := name = ['.'] || name = ['.', '.']

/-- Removes a name and tells whether that was possible. -/
def removeName (r : Removal) (path : Text) (isDirectory : Bool) : Task Bool := do
  let removed ← alter fun files directory now =>
    if isDirectory then files.removeDirectory directory path now
    else files.remove directory path now
  match removed with
  | .ok () =>
    if r.isVerbose then
      printLine ((if isDirectory then "removed directory " else "removed ").toList ++
        Quoting.always path)
    return true
  | .error fault =>
    let isHidden := isDirectory && (← look? false path).any fun (_, node) => !node.isReadable
    complainOf "cannot remove" path (if isHidden && fault = .notEmpty then .denied else fault)
    return false

/-- Asks whether to do something with what is at a path. -/
def asksToRemove (doing : String) (node : Node) (path : Text) : Task Bool :=
  ask (doing.toList ++ kindWord node ++ [' '] ++ Quoting.always path ++ "? ".toList)

/-- Removes what is at a path and all within it, as deeply as given.  The result tells whether that
was possible, and whether the name is gone. -/
def removeWithin (r : Removal) (isTop : Bool) : (fuel : Nat) → Text → Task (Bool × Bool)
  | 0, _ => return (false, false)
  | fuel + 1, path => do
    match ← look false path with
    | .error fault =>
      if r.isForced && (fault = .missing || fault = .notDirectory) then return (true, true)
      complainOf "cannot remove" path fault
      return (false, false)
    | .ok (_, node) =>
      let asks := r.asking = .always
      if ¬ node.isDirectory then
        if asks then
          unless ← asksToRemove "remove " node path do return (true, false)
        let gone ← removeName r path false
        return (gone, gone)
      let names ← entriesAt path
      if ¬ r.isRecursive then
        if ¬ r.takesEmpty then
          complainOf "cannot remove" path .isDirectory
          return (false, false)
        if ¬ names.isEmpty then
          complainOf "cannot remove" path .notEmpty
          return (false, false)
      if isTop && isDots (Path.lastName path) then
        complain ("refusing to remove '.' or '..' directory: skipping ".toList ++
          Quoting.always path)
        return (false, false)
      if isTop && Path.bare path = ['/'] then
        complain "it is dangerous to operate recursively on '/'".toList
        complain "use --no-preserve-root to override this failsafe".toList
        return (false, false)
      if asks && !names.isEmpty then
        unless ← asksToRemove "descend into " node path do return (true, false)
      let mut succeeds := true
      let mut isEmptied := true
      for name in names do
        let (well, gone) ← removeWithin r false fuel (Path.join path name)
        unless well do succeeds := false
        unless gone do isEmptied := false
      if ¬ isEmptied then return (succeeds, false)
      if asks then
        unless ← asksToRemove "remove " node path do return (succeeds, false)
      let gone ← removeName r path true
      return (succeeds && gone, gone)

/-- Removes files, and directories if so asked. -/
def rm (given : Given) (paths : List Text) : Task Int := do
  let r := Removal.ofGiven given
  if paths.isEmpty then
    if r.isForced then return 0
    return ← refuse "missing operand".toList 1
  if r.asking = .once && (r.isRecursive || 3 < paths.length) then
    let n := paths.length
    let question := "remove ".toList ++ numeral n ++
      (if n = 1 then " argument" else " arguments").toList ++
      (if r.isRecursive then " recursively? " else "? ").toList
    unless ← ask question do return 0
  let mut status : Int := 0
  for path in paths do
    let (succeeds, _) ← removeWithin r true ((← Task.files).nodes.size + 1) path
    unless succeeds do status := 1
  return status

/-- How `rmdir` takes options. -/
def rmdirUsage : Usage :=
  .free (OptionForm.flags [('p', "parents"), ('v', "verbose")] ++
    OptionForm.names ["ignore-fail-on-non-empty"])

/-- The paths of the directories in which the names of a path stand, nearest first. -/
def parentsOf (path : Text) : List Text :=
  let bare := Path.bare path
  let isEnd (i : Nat) : Bool := i ≠ 0 && bare[i]? = some '/' && bare[i - 1]? ≠ some '/'
  (((List.range bare.length).filter isEnd).map bare.take).reverse

/-- Removes empty directories, up to the first one that cannot be removed. -/
def removeParents (given : Given) : List Text → Task Bool
  | [] => return true
  | path :: rest => do
    if given.has "v" then announce ("removing directory, ".toList ++ Quoting.always path)
    match ← alter fun files directory now => files.removeDirectory directory path now with
    | .ok () => removeParents given rest
    | .error fault =>
      if given.has "ignore-fail-on-non-empty" && fault = .notEmpty then return true
      complainOf "failed to remove directory" path fault
      return false

/-- Removes empty directories. -/
def rmdir (given : Given) (paths : List Text) : Task Int := do
  if paths.isEmpty then return ← refuse "missing operand".toList 1
  let mut status : Int := 0
  for path in paths do
    if given.has "v" then announce ("removing directory, ".toList ++ Quoting.always path)
    match ← alter fun files directory now => files.removeDirectory directory path now with
    | .ok () =>
      if given.has "p" then
        unless ← removeParents given (parentsOf path) do status := 1
    | .error fault =>
      unless given.has "ignore-fail-on-non-empty" && fault = .notEmpty do
        let isLink := (← look? false (Path.bare path)).any (·.2.isLink)
        if isLink && Path.isSlashed path && fault = .notDirectory then
          complain ("failed to remove ".toList ++ Quoting.always path ++
            ": Symbolic link not followed".toList)
        else complainOf "failed to remove" path fault
        status := 1
  return status

/-- Takes one name away. -/
def unlink (_ : Given) (operands : List Text) : Task Int := do
  match operands with
  | [] => refuse "missing operand".toList 1
  | [path] =>
    match ← alter fun files directory now => files.remove directory path now with
    | .ok () => return 0
    | .error fault =>
      complainOf "cannot unlink" path fault
      return 1
  | _ :: extra :: _ => refuseExtra extra

end LineShell.Sh.Tool
