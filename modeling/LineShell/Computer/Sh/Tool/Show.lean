import LineShell.Computer.Sh.Tool.Basic
import LineShell.Computer.Sh.Tool.Size

/-!
# Tools that show files

Tools that write their input as it is, with marks added to its lines, or from the last line to the
first.
-/

namespace LineShell.Sh.Tool

/-- A number brought to a width by blanks. -/
def inColumn (width n : Nat) : Text :=
  List.replicate (width - (numeral n).length) ' ' ++ numeral n

/-- How `cat` takes options. -/
def catUsage : Usage :=
  .free (OptionForm.flags [('A', "show-all"), ('b', "number-nonblank"), ('E', "show-ends"),
    ('n', "number"), ('s', "squeeze-blank"), ('T', "show-tabs"), ('v', "show-nonprinting")] ++
    OptionForm.letters "etu")

/-- A byte as it is written so that it shows: tabs if `tabs`, and all others that do not if
`others`. -/
def shownByte (tabs others : Bool) (b : UInt8) : List UInt8 :=
  let control (b : UInt8) : List UInt8 :=
    if b < 0x20 then [0x5E, b + 0x40] else if b = 0x7F then [0x5E, 0x3F] else [b]
  if b = 0x09 then (if tabs then control b else [b])
  else if !others then [b]
  else if b < 0x80 then control b
  else [0x4D, 0x2D] ++ control (b - 0x80)

/-- How far the lines have come that marks are added to. -/
structure Marking where
  /-- The number of the last line. -/
  number : Nat
  /-- The last line was empty. -/
  afterEmpty : Bool
  /-- The last line has not ended yet. -/
  isOpen : Bool

/-- A line with the marks that options add to it, and how far the lines have come then. -/
def Marking.next (given : Given) (m : Marking) (line : List UInt8) (isWhole : Bool) :
    Marking × List UInt8 :=
  let isEmpty := line.isEmpty && isWhole && !m.isOpen
  if isEmpty && m.afterEmpty && given.has "s" then (m, [])
  else
    let isNumbered := !m.isOpen && (if given.has "b" then !isEmpty else given.has "n")
    let number := if isNumbered then m.number + 1 else m.number
    let mark := if isNumbered then Raw.bytes (inColumn 6 number ++ ['\t']) else []
    let others := given.hasAny "Aevt"
    let showsEnd := given.hasAny "AeE" && isWhole
    let (line, ending) : List UInt8 × List UInt8 :=
      if showsEnd ∧ line.getLast? = some 0x0D ∧ ¬ others then (line.dropLast, [0x5E, 0x4D])
      else (line, [])
    let shown := line.flatMap (shownByte (given.hasAny "AtT") others)
    (⟨number, isEmpty, !isWhole⟩,
      mark ++ shown ++ ending ++ (if showsEnd then [0x24] else []) ++
        if isWhole then [newline] else [])

/-- A descriptor is connected to the file that the tool writes to, of which something is left to be
read. -/
def isOwnOutput (descriptor : Nat) : Task Bool := do
  match ← Task.channel? descriptor, ← Task.channel? 1 with
  | some (.file id offset ..), some (.file id' ..) =>
    return id = id' && offset < (((← Task.files).node? id).map Node.size).getD 0
  | _, _ => return false

/-- Writes its input, as it is or with what options add to its lines. -/
def cat (given : Given) (paths : List Text) : Task Int := do
  let given := given.filter (·.1 ≠ "u")
  let mut status : Int := 0
  let mut marking : Marking := ⟨0, false, false⟩
  for path in if paths.isEmpty then [['-']] else paths do
    let copy (descriptor : Nat) : Task (Except FileFault (Except Unit Marking)) := do
      if ← isOwnOutput descriptor then return .ok (.error ())
      if given.isEmpty then
        let copied ← Task.eachBlock descriptor Task.blockSize (Task.write 1) Task.blockLimit
        return copied.map fun _ => .ok marking
      else
        let mark (m : Marking) (line : List UInt8) (isWhole : Bool) :
            Task (Except Marking Marking) := do
          let (m, shown) := m.next given line isWhole
          emit shown
          return .ok m
        let marked ← eachLine descriptor newline mark marking
        return marked.map fun
          | .ok m => .ok m
          | .error m => .ok m
    match (← withInput path copy).bind id with
    | .ok (.ok m) => marking := m
    | .ok (.error ()) =>
      complain (Quoting.beforeColon path ++ ": input file is output file".toList)
      status := 1
    | .error fault =>
      complainAbout path fault
      status := 1
  return status

/-- How `tee` takes options. -/
def teeUsage : Usage :=
  .free (OptionForm.flags [('a', "append"), ('i', "ignore-interrupts")] ++ OptionForm.letters "p" ++
    [⟨none, some "output-error", .perhaps⟩])

/-- Writes its input to the standard output and to files. -/
def tee (given : Given) (paths : List Text) : Task Int := do
  let mut status : Int := 0
  let mut descriptors := []
  for path in paths do
    match ← Task.openFree (if given.has "a" then .append else .output) path with
    | .ok descriptor => descriptors := (descriptor, path) :: descriptors
    | .error fault =>
      complainAbout path fault
      status := 1
  let targets := (1, "standard output".toList) :: descriptors.reverse
  let copy (bytes : List UInt8) : Task Bool := do
    for (descriptor, path) in targets do
      if ¬ (← Task.write descriptor bytes) then
        if let some fault := (← get).lost then complainAbout path fault
    return true
  let _ ← Task.eachBlock 0 Task.blockSize copy Task.blockLimit
  if (← get).lost.isSome then
    modify fun m => { m with lost := none }
    return 1
  return status

/-- How `tac` takes options. -/
def tacUsage : Usage :=
  .free (OptionForm.flags [('b', "before"), ('r', "regex")] ++
    OptionForm.valuedFlags [('s', "separator")])

/-- The parts of some bytes that end with a separator, or that begin with it if it stands `before`
them, found in at most `fuel` steps.  `reversed` is the part so far, last byte first. -/
def separated (before : Bool) (separator : List UInt8) :
    (fuel : Nat) → (reversed : List UInt8) → List UInt8 → List (List UInt8)
  | 0, reversed, rest => [reversed.reverse ++ rest]
  | _, reversed, [] => if reversed.isEmpty then [] else [reversed.reverse]
  | fuel + 1, reversed, b :: bs =>
    if separator.isPrefixOf (b :: bs) then
      let rest := (b :: bs).drop separator.length
      if before then
        (if reversed.isEmpty then [] else [reversed.reverse]) ++
          separated before separator fuel separator.reverse rest
      else (reversed.reverse ++ separator) :: separated before separator fuel [] rest
    else separated before separator fuel (b :: reversed) bs

/-- Writes the lines of each file, last one first. -/
def tac (given : Given) (paths : List Text) : Task Int := do
  let complaint (path : Text) (fault : FileFault) : Task Unit :=
    if fault = .isDirectory then
      complain (Quoting.beforeColon path ++ ": read error: ".toList ++ fault.message)
    else
      complain ("failed to open ".toList ++ Quoting.always path ++ " for reading: ".toList ++
        fault.message)
  let separator := match given.value? "s" with
    | some [] => [0]
    | some t => Raw.bytes t
    | none => [newline]
  let (found, status) ← inputs complaint 1 paths
  for (_, bytes) in found do
    emit (separated (given.has "b") separator (bytes.length + 1) [] bytes).reverse.flatten
  return status

/-- Writes the same bytes over and over until that fails, at most as often as given. -/
def writeOver (bytes : List UInt8) : Nat → Task Unit
  | 0 => pure ()
  | fuel + 1 => do
    if ← Task.write 1 bytes then writeOver bytes fuel

/-- Writes the same line over and over until nobody reads any more. -/
def yes (_ : Given) (words : List Text) : Task Int := do
  let line := Raw.bytes ([' '].intercalate (if words.isEmpty then [['y']] else words) ++ ['\n'])
  writeOver (List.replicate (max 1 (8192 / line.length)) line).flatten Task.blockLimit
  return 1

/-- Writes each line of a file backwards. -/
def rev (_ : Given) (paths : List Text) : Task Int := do
  let complaint (path : Text) (fault : FileFault) : Task Unit :=
    complain ("cannot open ".toList ++ path ++ ": ".toList ++ fault.message)
  let turn (_ : Unit) (line : List UInt8) (isWhole : Bool) : Task (Except Unit Unit) := do
    let units := (Raw.units (Raw.ofBytes line)).reverse
    print (units.flatMap Prod.fst ++ if isWhole then ['\n'] else [])
    return .ok ()
  let (_, succeeds) ← eachLineOf complaint newline turn () paths
  return if succeeds then 0 else 1

end LineShell.Sh.Tool
