import LineShell.Computer.Search.Basic
import LineShell.Computer.Sh.Pattern
import LineShell.Computer.Sh.Tool.Entries
import LineShell.Computer.Sh.Tool.Options
import LineShell.Computer.Sh.Tool.Size
import LineShell.Computer.Text.Calendar
import LineShell.Text.Hidden
import LineShell.Text.Pieces

/-!
# Listings of files

The tools that list what is in directories, and that tell what is known of files.
-/

namespace LineShell.Sh.Tool

/-- How `ls` takes options. -/
def lsUsage : Usage where
  forms := OptionForm.flags [('a', "all"), ('A', "almost-all"), ('b', "escape"),
      ('B', "ignore-backups"), ('d', "directory"), ('G', "no-group"), ('h', "human-readable"),
      ('H', "dereference-command-line"), ('i', "inode"), ('k', "kibibytes"), ('L', "dereference"),
      ('n', "numeric-uid-gid"), ('N', "literal"), ('q', "hide-control-chars"), ('Q', "quote-name"),
      ('r', "reverse"), ('R', "recursive"), ('s', "size"), ('Z', "context")] ++
    OptionForm.letters "cCfglmopStuUvxX1D" ++ [⟨some 'F', some "classify", .perhaps⟩,
      ⟨none, some "color", .perhaps⟩, ⟨none, some "hyperlink", .perhaps⟩] ++
    OptionForm.names ["full-time", "author", "file-type", "group-directories-first", "si", "zero",
      "show-control-chars", "dereference-command-line-symlink-to-dir"] ++
    OptionForm.valuedFlags [('I', "ignore"), ('T', "tabsize"), ('w', "width")] ++
    OptionForm.valuedNames ["hide", "sort", "time", "time-style", "format", "indicator-style",
      "quoting-style", "block-size"]
  mixing := .free
  failure := 2

/-- How a listing is laid out. -/
inductive LsFormat where
  | single
  | long
  | columns
  | rows
  | commas
deriving DecidableEq, Repr

/-- What a listing is in the order of. -/
inductive LsOrder where
  | name | size | time | ending | version | width | none
deriving DecidableEq, Repr

/-- How names are written. -/
inductive LsQuoting where
  | plain | shell | shellAlways | double | escaped
deriving DecidableEq, Repr

/-- How files are listed. -/
structure Listing where
  given : Given
  format : LsFormat
  order : LsOrder
  quoting : LsQuoting
  /-- The mark behind names: none, that of directories, or those of all kinds. -/
  marks : Nat
  showsAll : Bool
  showsHidden : Bool
  /-- Columns in which lines end. -/
  width : Nat
  /-- How the sizes of files are written. -/
  sizes : SizeStyle
  /-- How it is written how many blocks files take up. -/
  blockSizes : SizeStyle
  now : Int

/-- A file of a listing: the name under which it is shown, the path that leads to it, and what it
is. -/
structure Listed where
  name : Text
  path : Text
  id : NodeId
  node : Node

namespace Listing

/-- What options ask for. -/
def ofGiven (given : Given) (sizes blockSizes : SizeStyle) (now : Int) : Except Text Listing := do
  let format ← Choice.ofGiven given "format" "format"
    [(["verbose", "long"], LsFormat.long), (["commas"], .commas), (["horizontal", "across"], .rows),
      (["vertical"], .columns), (["single-column"], .single)]
  let order ← Choice.ofGiven given "sort" "sort"
    [(["none"], LsOrder.none), (["time"], .time), (["size"], .size), (["extension"], .ending),
      (["version"], .version), (["width"], .width)]
  let quoting ← Choice.ofGiven given "quoting-style" "quoting-style"
    [(["literal"], LsQuoting.plain), (["shell"], .shell), (["shell-always"], .shellAlways),
      (["shell-escape"], .shell), (["shell-escape-always"], .shellAlways), (["c"], .double),
      (["c-maybe"], .double), (["escape"], .escaped), (["locale"], .double), (["clocale"], .double)]
  let marks ← Choice.ofGiven given "indicator-style" "indicator-style"
    [(["none"], 0), (["slash"], 1), (["file-type"], 2), (["classify"], 3)]
  let _ ← Choice.ofGiven given "color" "color"
    [(["always", "yes", "force", ""], ()), (["never", "no", "none"], ()),
      (["auto", "tty", "if-tty"], ())]
  let width ← match given.value? "w" with
    | none => pure 80
    | some t =>
      match wholeInteger? false t with
      | some n =>
        if 0 ≤ n then pure (if n = 0 then 1000000 else n.toNat)
        else throw ("invalid line width: ".toList ++ Quoting.word t)
      | none => throw ("invalid line width: ".toList ++ Quoting.word t)
  let isLong := given.hasAny "lgno" || given.has "full-time"
  let last := given.lastOf "lgnoCxm1"
  let format := format.getD (match last with
    | some 'C' => .columns
    | some 'x' => .rows
    | some 'm' => .commas
    | some '1' => if isLong then .long else if given.has "m" then .commas else .single
    | some _ => .long
    | none => if isLong then .long else .single)
  let order := order.getD (match given.lastOf "StUXvf" with
    | some 'S' => .size
    | some 't' => .time
    | some 'U' => .none
    | some 'f' => .none
    | some 'X' => .ending
    | some 'v' => .version
    | _ => .name)
  let quoting := quoting.getD (match given.lastOf "bNQ" with
    | some 'b' => .escaped
    | some 'Q' => .double
    | _ => .plain)
  let marks := marks.getD (if given.has "F" then 3 else if given.has "file-type" then 2
    else if given.has "p" then 1 else 0)
  return {
    given, format, order, quoting, marks
    showsAll := given.hasAny "af"
    showsHidden := given.has "A"
    width
    sizes
    blockSizes
    now }

/-- How a name is written. -/
def named (l : Listing) (name : Text) : Text :=
  match l.quoting with
  | .plain =>
    if l.given.has "q" then
      (Raw.units name).flatMap fun (bytes, char) =>
        if char.any Quoting.isPrinted then bytes else ['?']
    else name
  | .shell => Quoting.ifNeeded name
  | .shellAlways => Quoting.always name
  | .double => Quoting.double name
  | .escaped =>
    (Raw.units name).flatMap fun (bytes, char) =>
      if bytes = [' '] then ['\\', ' ']
      else if bytes = ['\\'] then ['\\', '\\']
      else if char.any Quoting.isPrinted then bytes
      else bytes.flatMap Quoting.spelled

/-- The mark behind the name of a file. -/
def mark (l : Listing) (node : Node) : Text :=
  match node.kind with
  | .directory .. => if l.marks = 0 then [] else ['/']
  | .link _ => if 2 ≤ l.marks then ['@'] else []
  | .pipe => if 2 ≤ l.marks then ['|'] else []
  | .file _ => if l.marks = 3 && node.isExecutable then ['*'] else []
  | .program _ => if l.marks = 3 && node.isExecutable then ['*'] else []
  | _ => []

/-- How many kilobytes a file takes up. -/
def blocks (node : Node) : Nat :=
  match node.kind with
  | .directory .. => 4
  | .file content => (content.bytes.size + 4095) / 4096 * 4
  | _ => 0

/-- The blocks of a file, as they are shown. -/
def blocksShown (l : Listing) (kilobytes : Nat) : Text :=
  l.blockSizes.written kilobytes 1024

/-- The letter of a file's kind. -/
def kindLetter (node : Node) : Char :=
  match node.kind with
  | .directory .. => 'd'
  | .link _ => 'l'
  | .pipe => 'p'
  | .device _ => 'c'
  | .descriptor _ => 'l'
  | _ => '-'

/-- When a file was altered, as it is shown. -/
def timeShown (l : Listing) (node : Node) : Text :=
  let seconds := node.time.fdiv 1000000
  let m := Calendar.Moment.ofSeconds seconds ((node.time.fmod 1000000).toNat * 1000)
  let style := String.ofList ((l.given.value? "time-style").getD [])
  let isRecent := l.now - 15778476 < seconds && seconds ≤ l.now
  if l.given.has "full-time" || style = "full-iso" then
    m.written "%Y-%m-%d %H:%M:%S.%N %z".toList
  else if style = "long-iso" then m.written "%Y-%m-%d %H:%M".toList
  else if style = "iso" then
    m.written (if isRecent then "%m-%d %H:%M" else "%Y-%m-%d ").toList
  else
    match style.toList with
    | '+' :: pattern => m.written pattern
    | _ => m.written (if isRecent then "%b %e %H:%M" else "%b %e  %Y").toList

/-- How many names a file has, as systems tell it: a directory has one of its own and one in each
directory within. -/
def linkCount (files : FileTree) (id : NodeId) : Nat :=
  if files.isDirectory id then
    2 + (files.entries id).countP fun (_, inner) => files.isDirectory inner
  else files.nameCount id

/-- A text on the left or on the right of a column. -/
def padded (isRight : Bool) (width : Nat) (t : Text) : Text :=
  let blank := List.replicate (width - t.length) ' '
  if isRight then blank ++ t else t ++ blank

/-- The order of two files. -/
def compared (l : Listing) (a b : Listed) : Ordering :=
  let names : Ordering := if a.name = b.name then .eq else if comesFirst a.name b.name then .lt else .gt
  let ending (t : Text) : Text :=
    let after := (t.reverse.takeWhile (· ≠ '.')).reverse
    if after.length = t.length then [] else '.' :: after
  let order := match l.order with
    | .name => names
    | .size => (compare b.node.size a.node.size).then names
    | .time => (compare b.node.time a.node.time).then names
    | .version => (Versions.compared a.name b.name).then names
    | .width => (compare a.name.length b.name.length).then names
    | .ending =>
      let (s, t) := (ending a.name, ending b.name)
      (if s = t then .eq else if comesFirst s t then .lt else .gt : Ordering).then names
    | .none => .eq
  if l.given.has "r" then order.swap else order

/-- Files in the order of the listing. -/
def sortedFiles (l : Listing) (fs : List Listed) : List Listed :=
  let ordered := if l.order = .none then fs else fs.mergeSort fun a b => l.compared a b ≠ .gt
  if l.given.has "group-directories-first" then
    let (directories, others) := ordered.partition (·.node.isDirectory)
    directories ++ others
  else ordered

/-- What stands in front of a name: the number of the file and its blocks, if asked for. -/
def front (l : Listing) (fs : List Listed) (f : Listed) : Text :=
  let widest (shown : Listed → Text) : Nat := (fs.map fun f => (shown f).length).foldl max 0
  let number (f : Listed) : Text := numeral (f.id + 1000)
  let blocks (f : Listed) : Text := l.blocksShown (blocks f.node)
  let compact := l.format = .commas
  (if l.given.has "i" then padded true (if compact then 0 else widest number) (number f) ++ [' ']
    else []) ++
  (if l.given.has "s" then padded true (if compact then 0 else widest blocks) (blocks f) ++ [' ']
    else [])

/-- The long lines of files. -/
def longLines (l : Listing) (files : FileTree) (fs : List Listed) : List Text :=
  let size (f : Listed) : Text := l.sizes.written f.node.size 1
  let links (f : Listed) : Text := numeral (linkCount files f.id)
  let widest (shown : Listed → Text) : Nat := (fs.map fun f => (shown f).length).foldl max 0
  let owner : Text := if l.given.has "n" then ['0'] else "root".toList
  let columns (f : Listed) : List Text :=
    [kindLetter f.node :: Mode.shown f.node.mode, padded true (widest links) (links f)] ++
      (if l.given.has "g" then [] else [owner]) ++
      (if l.given.hasAny "oG" then [] else [owner]) ++
      (if l.given.has "author" then [owner] else []) ++
      [padded true (widest size) (size f), l.timeShown f.node]
  fs.map fun f =>
    let name := l.named f.name
    let shown := match f.node.kind with
      | .link target => name ++ " -> ".toList ++ l.named target
      | _ => name ++ l.mark f.node
    l.front fs f ++ [' '].intercalate (columns f) ++ ' ' :: shown

/-- Blanks and tabs from one column to another one, in at most as many steps as given. -/
def indent : (fuel : Nat) → (column target : Nat) → Text
  | 0, _, _ => []
  | fuel + 1, column, target =>
    if target ≤ column then []
    else if (column + 1) / 8 < target / 8 then '\t' :: indent fuel (column / 8 * 8 + 8) target
    else ' ' :: indent fuel (column + 1) target

/-- The widths of columns, the last one without what is between. -/
def columnWidths (count rows : Nat) (byRows : Bool) (widths : List Nat) : List Nat :=
  (List.range count).map fun c =>
    let own := (widths.zip (List.range widths.length)).filter fun (_, i) =>
      (if byRows then i % count else i / rows) = c
    (own.map Prod.fst).foldl max 0 + if c + 1 = count then 0 else 2

/-- Names in as many columns as fit into a width. -/
def inColumns (width : Nat) (byRows : Bool) (names : List Text) : List Text :=
  let widths := names.map fun t =>
    (Raw.units t).foldl (fun n unit => n + (unit.2.map LineShell.width).getD 1) 0
  let total := names.length
  let most := min total (max 1 (width / 3))
  let fits (count : Nat) : Bool :=
    let rows := (total + count - 1) / count
    ((columnWidths count rows byRows widths).foldl (· + ·) 0) < width
  let count := (((List.range most).map (most - ·)).find? fits).getD 1
  let rows := (total + count - 1) / count
  let columns := columnWidths count rows byRows widths
  (List.range rows).map fun r =>
    let cells := (List.range count).filterMap fun c =>
      let i := if byRows then r * count + c else c * rows + r
      (names[i]?).map fun t => (t, widths.getD i 0, (columns.take c).foldl (· + ·) 0)
    (cells.foldl (fun (line, column) (t, w, start) =>
      (line ++ indent (start + 1) column start ++ t, start + w)) (([], 0) : Text × Nat)).1

/-- Names with commas between them, in lines that fit into a width. -/
def withCommas (width : Nat) : (column : Nat) → List Text → Text
  | _, [] => ['\n']
  | column, t :: ts =>
    let size := t.length
    let (lead, start) : Text × Nat :=
      if column = 0 then ([], 0)
      else if column + 2 + size < width then (", ".toList, column + 2)
      else (",\n".toList, 0)
    lead ++ t ++ withCommas width (start + size) ts

/-- Writes files in the layout of the listing. -/
def write (l : Listing) (fs : List Listed) : Task Unit := do
  let files ← Task.files
  let ending := if l.given.has "zero" then '\x00' else '\n'
  let label (f : Listed) : Text := l.front fs f ++ l.named f.name ++ l.mark f.node
  match l.format with
  | .long => for line in l.longLines files fs do print (line ++ [ending])
  | .single => for f in fs do print (label f ++ [ending])
  | .columns =>
    unless fs.isEmpty do
      for line in inColumns l.width false (fs.map label) do printLine line
  | .rows =>
    unless fs.isEmpty do
      for line in inColumns l.width true (fs.map label) do printLine line
  | .commas => unless fs.isEmpty do print (withCommas l.width 0 (fs.map label))

/-- The name is shown. -/
def isShownName (l : Listing) (name : Text) : Bool :=
  let fits (pattern : Text) : Bool := (Pattern.ofGlyphs .fileNames (Glyph.plain pattern)).isMatch name
  let isIgnored := (l.given.values "I").any fits ||
    (l.given.has "B" && name.getLast? = some '~')
  if isIgnored then false
  else if l.showsAll || l.showsHidden then l.showsAll || !isDotted name
  else name.head? ≠ some '.' && !(l.given.values "hide").any fits
where
  /-- The name is one that a directory has for itself or for the one around it. -/
  isDotted (name : Text) : Bool := name = ['.'] || name = ['.', '.']

/-- What a listing shows of a directory. -/
def entries (l : Listing) (path : Text) (id : NodeId) : Task (List Listed) := do
  let files ← Task.files
  let own : List (Text × NodeId) :=
    [(['.'], id), (['.', '.'], files.parent id)] ++ files.entries id
  let mut found := []
  for (name, inner) in own.filter fun entry => l.isShownName entry.1 do
    let innerPath := Path.join path name
    let followed ← if l.given.has "L" then look? true innerPath else pure none
    if l.given.has "L" && followed.isNone then
      complain ("cannot access ".toList ++ Quoting.always innerPath ++ ": ".toList ++
        FileFault.message .missing)
    match followed, files.node? inner with
    | some (id, node), _ => found := ⟨name, innerPath, id, node⟩ :: found
    | none, some node => found := ⟨name, innerPath, inner, node⟩ :: found
    | none, none => pure ()
  return l.sortedFiles found.reverse

/-- Lists a directory and if so asked those in it, as deeply as given.  The result tells whether
nothing has been shown yet, and the exit code, which is `failure` if the directory cannot be read. -/
def directory (l : Listing) (isHeaded : Bool) :
    (fuel : Nat) → (failure : Int) → (isFirst : Bool) → Text → NodeId → Task (Bool × Int)
  | 0, _, isFirst, _, _ => return (isFirst, 0)
  | fuel + 1, failure, isFirst, path, id => do
    if let .error fault := (← Task.files).listed id then
      complainOf "cannot open directory" path fault
      return (isFirst, failure)
    unless isFirst do print ['\n']
    if isHeaded || l.given.has "R" then
      printLine ((if l.quoting = .plain then path else l.named path) ++ [':'])
    let fs ← l.entries path id
    if l.format = .long || l.given.has "s" then
      let total := (fs.map fun f => blocks f.node).foldl (· + ·) 0
      printLine ("total ".toList ++ l.blocksShown total)
    l.write fs
    let mut status : Int := 0
    if l.given.has "R" then
      for f in fs do
        if f.node.isDirectory && f.name ≠ ['.'] && f.name ≠ ['.', '.'] then
          let (_, inner) ← l.directory isHeaded fuel 1 false f.path f.id
          if inner ≠ 0 then status := inner
    return (false, status)

end Listing

/-- How a variable says that sizes are shown: the named one, or one that many tools know. -/
def sizeStyleOf? (name : String) : Task (Option SizeStyle) := do
  for name in [name, "BLOCK_SIZE", "BLOCKSIZE"] do
    if let some t ← Task.value? name.toList then
      match SizeStyle.ofText t with
      | .ok style => return some style
      | .error _ => return none
  return none

/-- How options say that sizes are shown. -/
def sizeStyleOfGiven (given : Given) : Except Text (Option SizeStyle) := do
  let styles ← given.mapM fun (key, value) =>
    match key with
    | "h" => pure (some SizeStyle.human)
    | "si" => pure (some SizeStyle.decimal)
    | "block-size" =>
      match SizeStyle.ofText value with
      | .ok style => pure (some style)
      | .error fault => throw (fault.message "--block-size".toList value)
    | _ => pure none
  return (styles.filterMap id).getLast?

/-- Lists files. -/
def ls (given : Given) (operands : List Text) : Task Int := do
  let usual ← sizeStyleOf? "LS_BLOCK_SIZE"
  let own := (← Task.value? "LS_BLOCK_SIZE".toList).isSome || (← Task.value? "BLOCK_SIZE".toList).isSome
  let time := (← Task.process).time
  let listing := do
    let (sizes, blockSizes) ← match ← sizeStyleOfGiven given with
      | some style => pure (style, style)
      | none =>
        let kilobytes := SizeStyle.ofBlock 1024
        pure ((if own then usual else none).getD (.ofBlock 1),
          if given.has "k" then kilobytes else usual.getD kilobytes)
    Listing.ofGiven given sizes blockSizes (time / 1000000 : Nat)
  match listing with
  | .error message =>
    complain message
    if message.contains '\n' then
      pointToHelp
      return 1
    return 2
  | .ok l =>
    let mut status : Int := 0
    let mut found := []
    let staysPut := given.has "d" || l.format = .long || l.marks = 3
    for path in if operands.isEmpty then [['.']] else operands do
      let follow ← if given.hasAny "LH" then pure true
        else if staysPut then pure false
        else isDirectoryAt path
      match ← look follow path with
      | .error fault =>
        complainOf "cannot access" path fault
        status := 2
      | .ok (id, node) => found := ⟨path, path, id, node⟩ :: found
    let (directories, others) := (l.sortedFiles found.reverse).partition fun f : Listed =>
      f.node.isDirectory && !given.has "d"
    l.write others
    let isHeaded := 1 < operands.length
    let mut isFirst := others.isEmpty
    for f in directories do
      let (isStillFirst, inner) ←
        l.directory isHeaded ((← Task.files).nodes.size + 1) 2 isFirst f.path f.id
      isFirst := isStillFirst
      status := max status inner
    return status

/-- How `stat` takes options. -/
def statUsage : Usage :=
  .free (OptionForm.flags [('L', "dereference"), ('f', "file-system"), ('t', "terse")] ++
    OptionForm.valuedFlags [('c', "format")] ++ OptionForm.valuedNames ["printf", "cached"])

/-- What a directive stands for that tells something about a file. -/
def statField (files : FileTree) (path : Text) (id : NodeId) (node : Node) (c : Char) : Option Text :=
  let time (pattern : String) : Text :=
    (Calendar.Moment.ofSeconds (node.time.fdiv 1000000) ((node.time.fmod 1000000).toNat * 1000)).written
      pattern.toList
  let kindBits : Nat := match node.kind with
    | .directory .. => 0o040000
    | .link _ => 0o120000
    | .pipe => 0o010000
    | .device _ => 0o020000
    | _ => 0o100000
  match c with
  | 'n' => some path
  | 'N' =>
    some (match node.kind with
      | .link target => Quoting.always path ++ " -> ".toList ++ Quoting.always target
      | _ => Quoting.always path)
  | 's' => some (numeral node.size)
  | 'a' => some (Mode.octal 1 node.mode)
  | 'A' => some (Listing.kindLetter node :: Mode.shown node.mode)
  | 'f' => some (Nat.toDigits 16 (kindBits + node.mode))
  | 'F' =>
    some (match node.kind with
      | .file content => (if content.size = 0 then "regular empty file" else "regular file").toList
      | _ => kindWord node)
  | 'h' => some (numeral (Listing.linkCount files id))
  | 'i' => some (numeral (id + 1000))
  | 'u' => some ['0']
  | 'g' => some ['0']
  | 'U' => some "root".toList
  | 'G' => some "root".toList
  | 'b' => some (numeral (Listing.blocks node * 2))
  | 'B' => some "512".toList
  | 'o' => some "4096".toList
  | 'd' => some "64769".toList
  | 'D' => some "fd01".toList
  | 't' => some ['0']
  | 'T' => some ['0']
  | 'm' => some ['/']
  | 'x' => some (time "%Y-%m-%d %H:%M:%S.%N %z")
  | 'y' => some (time "%Y-%m-%d %H:%M:%S.%N %z")
  | 'z' => some (time "%Y-%m-%d %H:%M:%S.%N %z")
  | 'w' => some ['-']
  | 'X' => some (time "%s")
  | 'Y' => some (time "%s")
  | 'Z' => some (time "%s")
  | 'W' => some ['0']
  | _ => none

/-- What is known of a file, written by a pattern, which may spell characters if so told. -/
def statWritten (field? : Char → Option Text) (escapes : Bool) (pattern : Text) : Text :=
  go pattern.length pattern
where
  /-- Writes what is left of the pattern. -/
  go : (fuel : Nat) → Text → Text
    | 0, t => t
    | _, [] => []
    | fuel + 1, '%' :: '%' :: t => '%' :: go fuel t
    | fuel + 1, '%' :: t =>
      let flags := t.takeWhile fun c => "-0+ #'".toList.contains c
      let digits := (t.drop flags.length).takeWhile Char.isDigit
      match t.drop (flags.length + digits.length) with
      | [] => '%' :: t
      | c :: rest =>
        let shown := (field? c).getD ['?']
        let missing := digitsValue digits - shown.length
        let filled :=
          if flags.contains '-' then shown ++ List.replicate missing ' '
          else if flags.contains '0' then List.replicate missing '0' ++ shown
          else List.replicate missing ' ' ++ shown
        filled ++ go fuel rest
    | fuel + 1, '\\' :: c :: t =>
      if ¬ escapes then '\\' :: go fuel (c :: t)
      else
        let found := ("\\abefnrtv\"".toList.zip "\\\x07\x08\x1b\x0c\n\x0d\t\x0b\"".toList).lookup c
        match found with
        | some d => d :: go fuel t
        | none =>
          if (digitIn? 8 c).isSome then
            let digits := (c :: t).takeWhile fun c => (digitIn? 8 c).isSome
            let digits := digits.take 3
            Char.ofNat (digitsIn 8 digits % 256) :: go fuel ((c :: t).drop digits.length)
          else '\\' :: c :: go fuel t
    | fuel + 1, c :: t => c :: go fuel t

/-- Tells what is known of files. -/
def stat (given : Given) (paths : List Text) : Task Int := do
  if paths.isEmpty then return ← refuse "missing operand".toList 1
  let mut status : Int := 0
  for path in paths do
    match ← look (given.has "L") path with
    | .error fault =>
      if given.has "f" then
        complain ("cannot read file system information for ".toList ++ Quoting.always path ++
          ": ".toList ++ fault.message)
      else complainOf "cannot statx" path fault
      status := 1
    | .ok (id, node) =>
      let files ← Task.files
      let field? := statField files path id node
      let whole := ("  File: %N\n  Size: %-10s\tBlocks: %-10b IO Block: %-6o %F\n" ++
        "Device: 253,1\tInode: %-10i  Links: %h\n" ++
        "Access: (%04a/%10A)  Uid: (    0/    root)   Gid: (    0/    root)\n" ++
        "Access: %x\nModify: %y\nChange: %z\n Birth: %w").toList
      match given.value? "printf", given.value? "c" with
      | some pattern, _ => print (statWritten field? true pattern)
      | none, some pattern => printLine (statWritten field? false pattern)
      | none, none =>
        if given.has "t" then
          printLine (statWritten field? false
            "%n %s %b %f %u %g %D %i %h %t %T %X %Y %Z %W %o".toList)
        else printLine (statWritten (fun c => if c = 'N' then
          some (match node.kind with
            | .link target => path ++ " -> ".toList ++ target
            | _ => path) else field? c) false whole)
  return status

end LineShell.Sh.Tool
