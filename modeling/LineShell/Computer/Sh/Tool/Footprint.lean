import LineShell.Computer.Sh.Tool.Listing
import LineShell.Computer.Sh.Tool.Size

/-!
# The tool that tells how much space files take up

A directory takes up what it needs itself and what all that is in it takes up.  What has several names
counts once.
-/

namespace LineShell.Sh.Tool

namespace Footprint

/-- How the tool takes options. -/
def usage : Usage :=
  .free (OptionForm.flags [('a', "all")] ++ OptionForm.names ["apparent-size"] ++
    [⟨some 'B', none, .always⟩, ⟨none, some "block-size", .always⟩] ++
    OptionForm.flags [('b', "bytes"), ('l', "count-links"), ('L', "dereference"),
      ('D', "dereference-args")] ++
    OptionForm.valuedNames ["exclude"] ++ OptionForm.valuedFlags [('X', "exclude-from")] ++
    OptionForm.valuedNames ["files0-from"] ++ OptionForm.flags [('h', "human-readable")] ++
    OptionForm.names ["inodes", "si"] ++ OptionForm.valuedFlags [('d', "max-depth")] ++
    OptionForm.flags [('0', "null"), ('P', "no-dereference"), ('x', "one-file-system"),
      ('S', "separate-dirs"), ('s', "summarize"), ('c', "total")] ++
    [⟨some 't', none, .always⟩, ⟨none, some "threshold", .always⟩, ⟨none, some "time", .perhaps⟩,
      ⟨none, some "time-style", .always⟩] ++ OptionForm.letters "kmH")

/-- What is taken up. -/
structure Space where
  bytes : Nat
  nodes : Nat
  /-- When something was altered last. -/
  time : Option Int
deriving DecidableEq, Repr

namespace Space

/-- Nothing is taken up. -/
def nothing : Space := ⟨0, 0, none⟩

/-- Two amounts together. -/
def plus (a b : Space) : Space :=
  let time := match a.time, b.time with
    | some s, some t => some (max s t)
    | s, none => s
    | none, t => t
  ⟨a.bytes + b.bytes, a.nodes + b.nodes, time⟩

end Space

/-- What is asked for. -/
structure Wish where
  style : SizeStyle
  isApparent : Bool
  countsNodes : Bool
  showsAll : Bool
  /-- What is in directories within a directory does not count for it. -/
  separates : Bool
  /-- What has several names counts several times. -/
  countsLinks : Bool
  /-- Nothing counts twice, even if it has one name. -/
  remembersAll : Bool
  follows : Bool
  followsOperands : Bool
  depth : Option Nat
  /-- What is less is not told, or what is more if it is negative. -/
  threshold : Int
  excluded : List Text
  /-- The pattern by which times are written, if they are. -/
  timePattern : Option Text
  zone : Calendar.Zone
  /-- What ends a line. -/
  ending : Char
  showsTotal : Bool

/-- A limit that a text names. -/
def thresholdOf (option : String) (t : Text) : Except Text Int := do
  let complaint (trouble : String) (reason : String) : Text :=
    trouble.toList ++ option.toList ++ " argument '".toList ++ t ++ "'".toList ++ reason.toList
  let (n, rest) ← match LeadingInteger.ofText? true t, t with
    | some i, _ => pure (i.value, i.left)
    | none, c :: _ =>
      if "kKmMGTPEZY".toList.contains c then pure ((1 : Int), t) else throw (complaint "invalid " "")
    | none, [] => throw (complaint "invalid " "")
  match Amount.unit? "kKmMGTPEZY" rest with
  | none => throw (complaint "invalid suffix in " "")
  | some unit =>
    let n := n * unit
    if n < -9223372036854775808 ∨ 9223372036854775807 < n then throw (complaint "" " too large")
    else if n = 0 ∧ t.head? = some '-' then
      throw ("invalid --threshold argument '".toList ++ t ++ ['\''])
    else return n

/-- How options say that sizes are shown. -/
def styleOf (given : Given) : Except Text (Option SizeStyle) := do
  let styles ← given.mapM fun (key, value) =>
    let ofValue (option : String) : Except Text (Option SizeStyle) :=
      match SizeStyle.ofText value with
      | .ok style => .ok (some style)
      | .error fault => .error (fault.message option.toList value)
    match key with
    | "h" => pure (some SizeStyle.human)
    | "si" => pure (some SizeStyle.decimal)
    | "b" => pure (some (SizeStyle.ofBlock 1))
    | "k" => pure (some (SizeStyle.ofBlock 1024))
    | "m" => pure (some (SizeStyle.ofBlock 1048576))
    | "B" => ofValue "-B"
    | "block-size" => ofValue "--block-size"
    | _ => pure none
  return (styles.filterMap id).getLast?

/-- The pattern that a style of times stands for. -/
def patternOf (style : Text) : Except Text Text :=
  match style with
  | '+' :: pattern => .ok pattern
  | _ => (Choice.ofWord "time style".toList [(["full-iso"], "%Y-%m-%d %H:%M:%S.%N %z"),
      (["long-iso"], "%Y-%m-%d %H:%M"), (["iso"], "%Y-%m-%d")] style).map String.toList

/-- The style of times that is asked for. -/
def timeStyleOf (given : Given) : Task Text := do
  match given.value? "time-style", ← Task.value? "TIME_STYLE".toList with
  | some style, _ => return style
  | none, none => return "long-iso".toList
  | none, some style =>
    if style = "locale".toList then return "long-iso".toList
    else if style.head? = some '+' then return style.takeWhile (· ≠ '\n')
    else if "posix-".toList.isPrefixOf style then return style.drop 6
    else return style

/-- The depth that an option asks for. -/
def depthOf (given : Given) : Except Text (Option Nat) :=
  match given.value? "d" with
  | none => .ok none
  | some t =>
    match LeadingInteger.ofText? true t with
    | some i =>
      if i.left = [] ∧ i.isHeld then .ok (if i.value < 0 then none else some i.value.toNat)
      else .error ("invalid maximum depth ".toList ++ Quoting.word t)
    | none => .error ("invalid maximum depth ".toList ++ Quoting.word t)

/-- The patterns of what is left out, or the complaint about a file that should hold them. -/
def exclusionsOf (given : Given) : Task (Except Text (List Text)) := do
  let mut found := given.values "exclude"
  for path in given.values "X" do
    match ← bytesOf path with
    | .ok bytes => found := found ++ ((lines bytes).map Raw.ofBytes).filter (!·.isEmpty)
    | .error fault => return .error (Quoting.beforeColon path ++ ": ".toList ++ fault.message)
  return .ok found

/-- What follows each slash of a path, unless another slash follows. -/
def afterSlashes : Text → List Text
  | [] => []
  | '/' :: rest =>
    if rest.head? = some '/' then afterSlashes rest else rest :: afterSlashes rest
  | _ :: rest => afterSlashes rest

/-- A file is left out: a pattern fits its path, or what follows a slash in it. -/
def isExcluded (patterns : List Text) (path : Text) : Bool :=
  patterns.any fun pattern =>
    let p := Pattern.ofGlyphs PatternRules.fileNames (Glyph.plain pattern)
    (path :: afterSlashes path).any p.isMatch

/-- What has been found so far. -/
structure State where
  /-- What has been counted, and may not be counted again. -/
  seen : List NodeId
  total : Space
  fails : Bool

/-- A walk through directories. -/
abbrev Walk := StateT State Task

/-- Does a task. -/
def ofTask {α : Type} (task : Task α) : Walk α := liftM (m := Task) task

/-- Complains, and lets the tool fail. -/
def fail (complaint : Task Unit) : Walk Unit := do
  ofTask complaint
  modify fun s => { s with fails := true }

/-- What something takes up by itself. -/
def ownAmount (w : Wish) (node : Node) : Space :=
  ⟨if w.isApparent then node.size else Listing.blocks node * 1024, 1, some node.time⟩

/-- Tells how much something takes up. -/
def tell (w : Wish) (amount : Space) (path : Text) : Task Unit := do
  let size := if w.countsNodes then w.style.written amount.nodes 1 else w.style.written amount.bytes 1
  let time := match w.timePattern with
    | none => []
    | some pattern =>
      let time := amount.time.getD 0
      let moment := Calendar.Moment.within w.zone (time.fdiv 1000000)
        ((time.fmod 1000000).toNat * 1000)
      '\t' :: moment.written pattern
  print (size ++ time ++ '\t' :: path ++ [w.ending])
  flush

/-- Tells how much something takes up if it is asked for, at a level below an operand. -/
def tellAsked (w : Wish) (isDirectory : Bool) (level : Nat) (amount : Space) (path : Text) :
    Walk Unit := do
  let isNear := w.depth.all (level ≤ ·)
  let n := if w.countsNodes then amount.nodes else amount.bytes
  let isEnough : Bool := if w.threshold < 0 then (n : Int) ≤ -w.threshold else w.threshold ≤ n
  if (level = 0 || (isNear && (isDirectory || w.showsAll))) && isEnough then
    ofTask (tell w amount path)

/-- What something takes up that counts for the directory in which it is, and what else is below it,
as deeply as given.  `around` are the directories in which it is. -/
def visit (w : Wish) : (fuel : Nat) → (around : List NodeId) → (level : Nat) → Text →
    Walk (Space × Space)
  | 0, _, _, _ => return (.nothing, .nothing)
  | fuel + 1, around, level, path => do
    let nothing : Space × Space := (.nothing, .nothing)
    if isExcluded w.excluded path then return nothing
    let follow := w.follows || (level = 0 && w.followsOperands)
    let found ← match ← ofTask (look follow path) with
      | .ok found => pure (Except.ok found)
      | .error .missing =>
        if follow then ofTask (look false path) else pure (.error .missing)
      | .error fault => pure (.error fault)
    match found with
    | .error fault =>
      fail (complainOf "cannot access" path fault)
      return nothing
    | .ok (id, node) =>
      let files ← ofTask Task.files
      let isDirectory := node.isDirectory
      let mayRepeat := w.remembersAll || (!isDirectory && 1 < files.nameCount id)
      if !w.countsLinks && mayRepeat then
        if (← get).seen.contains id then return nothing
        modify fun s => { s with seen := id :: s.seen }
      if around.contains id then return nothing
      let own := ownAmount w node
      let mut entries := Space.nothing
      let mut below := Space.nothing
      if isDirectory then
        match files.listed id with
        | .error fault => fail (complainOf "cannot read directory" path fault)
        | .ok inner =>
          for (name, _) in inner do
            let (entry, more) ← visit w fuel (id :: around) (level + 1) (Path.join path name)
            entries := entries.plus entry
            below := below.plus more
      modify fun s => { s with total := s.total.plus own }
      let shown := own.plus (if w.separates then entries else entries.plus below)
      tellAsked w isDirectory level shown path
      return (if w.separates && isDirectory then .nothing else own, entries.plus below)

/-- The operands that a file names, each with a complaint or without one. -/
def namesIn (list : Text) (bytes : List UInt8) : List (Except Text Text) :=
  let names := (linesFrom 0 [] bytes).map Raw.ofBytes
  (names.zip (List.range names.length)).map fun (name, i) =>
    if list = ['-'] ∧ name = ['-'] then
      .error "when reading file names from stdin, no file name of '-' allowed".toList
    else if name.isEmpty then
      .error (Quoting.beforeColon list ++ ':' :: numeral (i + 1) ++
        ": invalid zero-length file name".toList)
    else .ok name

/-- Tells how much each of some files takes up, and all of them together if that is asked for. -/
def tellAll (w : Wish) (names : List (Except Text Text)) (fault : Option Text) : Task Int := do
  let fuel := (← Task.files).nodes.size + 2
  let walk : Walk Unit := do
    for name in names do
      match name with
      | .ok path =>
        let _ ← visit w fuel [] 0 path
      | .error message => fail (complain message)
    if let some message := fault then fail (complain message)
  let (_, s) ← walk.run ⟨[], .nothing, false⟩
  if w.showsTotal then tell w s.total "total".toList
  return if s.fails then 1 else 0

/-- What options ask for, or the exit code after a complaint. -/
def wishOf (given : Given) (remembersAll : Bool) : Task (Except Int Wish) := do
  let usual ← sizeStyleOf? "DU_BLOCK_SIZE"
  let limits := do
    let style ← styleOf given
    let short ← (given.values "t").mapM (thresholdOf "-t")
    let long ← (given.values "threshold").mapM (thresholdOf "--threshold")
    return (style, (short ++ long).getLastD 0)
  match limits with
  | .error message =>
    complain message
    return .error 1
  | .ok (style, threshold) =>
    let refused (message : Text) : Task (Except Int Wish) := return .error (← refuse message 1)
    match ← exclusionsOf given, depthOf given with
    | .error message, _ => refused message
    | _, .error message => refused message
    | .ok excluded, .ok depth =>
      let isSummary := given.has "s"
      if isSummary && given.has "a" then
        return ← refused "cannot both summarize and show all entries".toList
      if isSummary && depth = some 0 then
        complain "warning: summarizing is the same as using --max-depth=0".toList
      if let some n := depth then
        if isSummary && n ≠ 0 then
          return ← refused ("warning: summarizing conflicts with --max-depth=".toList ++ numeral n)
      let isApparent := given.has "apparent-size" || given.has "b"
      if given.has "inodes" && isApparent then
        complain ("warning: options --apparent-size and -b are ineffective with " ++
          "--inodes").toList
      let kinds := Choice.ofGiven given "time" "time" [(["atime", "access", "use"], ()),
        (["ctime", "status"], ())]
      let pattern ← do
        if !given.has "time" then pure (.ok none)
        else pure ((patternOf (← timeStyleOf given)).map some)
      match (if given.value? "time" = some [] then .ok none else kinds), pattern with
      | .error message, _ => refused message
      | _, .error message => refused message
      | .ok _, .ok timePattern =>
        let style := style.getD (usual.getD (.ofBlock 1024))
        return .ok {
          style := if given.has "inodes" then { style with block := 1 } else style
          isApparent
          countsNodes := given.has "inodes"
          showsAll := given.has "a"
          separates := given.has "S"
          countsLinks := given.has "l"
          remembersAll := remembersAll || given.has "L"
          follows := given.lastOf "LPDH" = some 'L'
          followsOperands := given.lastOf "LPDH" = some 'D' || given.lastOf "LPDH" = some 'H'
          depth := if isSummary then some 0 else depth
          threshold
          excluded
          timePattern
          zone := ← Task.zone
          ending := if given.has "0" then '\x00' else '\n'
          showsTotal := given.has "c" }

end Footprint

/-- Tells how much space files take up. -/
def du (given : Given) (operands : List Text) : Task Int := do
  let list := given.value? "files0-from"
  match ← Footprint.wishOf given (list.isSome || 1 < operands.length) with
  | .error status => return status
  | .ok w =>
    match list, operands with
    | some _, extra :: _ =>
      complain ("extra operand ".toList ++ Quoting.always extra)
      Task.print 2 "file operands cannot be combined with --files0-from\n".toList
      pointToHelp
      return 1
    | some path, [] =>
      match ← bytesOf path with
      | .ok bytes => Footprint.tellAll w (Footprint.namesIn path bytes) none
      | .error .isDirectory =>
        Footprint.tellAll w [] (some (Quoting.beforeColon path ++
          ": read error: Is a directory".toList))
      | .error fault =>
        complain ("cannot open ".toList ++ Quoting.always path ++ " for reading: ".toList ++
          fault.message)
        return 1
    | none, [] => Footprint.tellAll w [.ok ['.']] none
    | none, operands => Footprint.tellAll w (operands.map .ok) none

end LineShell.Sh.Tool
