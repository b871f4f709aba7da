import LineShell.Computer.Sh.Tool.Blocks.Operand
import LineShell.Computer.Sh.Tool.Entries
import LineShell.Computer.Sh.Tool.Size
import LineShell.Computer.Text.Ebcdic

/-!
# The tool that copies blocks

Blocks are taken from the input one by one, bytes in them are replaced, and what comes out is written
in blocks of another size.  At the end it is told how many blocks there were.
-/

namespace LineShell.Sh.Tool

namespace Blocks

/-- What has been done so far. -/
structure Progress where
  /-- How many blocks were read as a whole, and how many in part. -/
  readFull : Nat
  readPartial : Nat
  /-- How many blocks were written as a whole, and how many in part. -/
  writtenFull : Nat
  writtenPartial : Nat
  writtenBytes : Nat
  /-- How many records were cut off. -/
  cutOff : Nat
  /-- How many bytes the block had that was read last. -/
  lastRead : Nat
  /-- It is still to be told that a block was not read as a whole. -/
  warns : Bool
  /-- Zeros are still left out. -/
  isSparse : Bool
  /-- The last bytes were left out. -/
  endsSparse : Bool
  /-- The bytes that are not written yet. -/
  waiting : Array UInt8
  /-- The byte whose partner is not there yet. -/
  single : Option UInt8
  /-- The place in a record. -/
  column : Nat
  /-- How many blanks are held back. -/
  blanks : Nat
  /-- The descriptors of both files. -/
  input : Nat
  output : Nat

/-- A copy that goes on until it stops with an exit code. -/
abbrev Run := ExceptT Int (StateT Progress Task)

/-- Does a task. -/
def ofTask {α : Type} (task : Task α) : Run α :=
  liftM (m := StateT Progress Task) (liftM (m := Task) task)

/-- The name of the input in messages. -/
def Wish.inputName (w : Wish) : Text :=
  w.input.getD "standard input".toList

/-- The name of the output in messages. -/
def Wish.outputName (w : Wish) : Text :=
  w.output.getD "standard output".toList

/-- Why something could not be written, which then counts as told. -/
def takeLoss : Task FileFault := do
  let fault := (← get).lost.getD .badDescriptor
  modify fun m => { m with lost := none }
  return fault

/-- The file that a descriptor is connected to: its channel, and its node. -/
def fileOf (descriptor : Nat) : Task (Option (NodeId × Nat)) := do
  match ← Task.channel? descriptor with
  | some (.file id offset ..) => return some (id, offset)
  | _ => return none

/-- The place in what a descriptor is connected to can be changed. -/
def isSeekable (descriptor : Nat) : Task Bool := do
  match ← Task.channel? descriptor with
  | some (.file ..) => return true
  | some (.device _) => return true
  | _ => return false

/-- Moves on in a file. -/
def moveOn (descriptor n : Nat) : Task Unit := do
  match (← Task.process).descriptors.lookup descriptor, ← Task.channel? descriptor with
  | some channel, some (.file id offset reads writes appends) =>
    Task.setChannel channel (.file id (offset + n) reads writes appends)
  | _, _ => pure ()

/-- Takes bytes from a device until there are enough; other files give what they have at once. -/
def takeBlock (descriptor size : Nat) : Task (Except FileFault (List UInt8)) := do
  match ← Task.channel? descriptor with
  | some (.device _) => go (size / Task.deviceBlock + 1) size []
  | _ => Task.take descriptor size
where
  /-- Takes more bytes. -/
  go : (fuel : Nat) → (missing : Nat) → List (List UInt8) → Task (Except FileFault (List UInt8))
    | 0, _, pieces => return .ok pieces.reverse.flatten
    | fuel + 1, missing, pieces => do
      if missing = 0 then return .ok pieces.reverse.flatten
      match ← Task.take descriptor missing with
      | .error fault => return .error fault
      | .ok [] => return .ok pieces.reverse.flatten
      | .ok bytes => go fuel (missing - bytes.length) (bytes :: pieces)

/-- Reads at most a number of bytes at once, and warns if the block before was not a whole one. -/
def readOnce (w : Wish) (size : Nat) : Run (Except FileFault (List UInt8)) := do
  match ← ofTask (takeBlock (← get).input size) with
  | .error fault => return .error fault
  | .ok bytes =>
    let p ← get
    if !bytes.isEmpty && p.warns && p.lastRead ≠ 0 && p.lastRead < size then
      if w.telling ≠ .nothing then
        let noun := if p.lastRead = 1 then " byte".toList else " bytes".toList
        ofTask (complain ("warning: partial read (".toList ++ numeral p.lastRead ++ noun ++
          "); suggest iflag=fullblock".toList))
      set { p with warns := false, lastRead := bytes.length }
    else set { p with lastRead := bytes.length }
    return .ok bytes

/-- Reads until there are as many bytes as wanted. -/
def readAll (w : Wish) : (fuel : Nat) → (size : Nat) → List (List UInt8) →
    Run (Except FileFault (List UInt8))
  | 0, _, pieces => return .ok pieces.reverse.flatten
  | fuel + 1, size, pieces => do
    if size = 0 then return .ok pieces.reverse.flatten
    match ← readOnce w size with
    | .error fault => return .error fault
    | .ok [] => return .ok pieces.reverse.flatten
    | .ok bytes => readAll w fuel (size - bytes.length) (bytes :: pieces)

/-- Reads a block. -/
def readBlock (w : Wish) (size : Nat) : Run (Except FileFault (List UInt8)) :=
  if w.inputFlags.contains "fullblock" then readAll w (size + 1) size [] else readOnce w size

/-- Writes bytes, unless they are zeros that are left out, and tells whether they were taken. -/
def put (bytes : List UInt8) : Run Bool := do
  let p ← get
  if p.isSparse && bytes.all (· == 0) then
    if ← ofTask (isSeekable p.output) then
      ofTask (moveOn p.output bytes.length)
      set { p with endsSparse := true, writtenBytes := p.writtenBytes + bytes.length }
      return true
    set { p with isSparse := false }
  let isTaken ← ofTask (Task.write p.output bytes)
  if isTaken then
    modify fun p => { p with endsSparse := false, writtenBytes := p.writtenBytes + bytes.length }
  return isTaken

/-- Tells that something could not be written. -/
def complainOfWrite (w : Wish) (doing : String) : Run Unit :=
  ofTask do
    let fault ← takeLoss
    complainOf doing w.outputName fault

/-- Writes the blocks that are complete. -/
def putWaiting (w : Wish) : (fuel : Nat) → Run Unit
  | 0 => return ()
  | fuel + 1 => do
    let p ← get
    if p.waiting.size < w.outputSize then return ()
    let block := (p.waiting.extract 0 w.outputSize).toList
    set { p with waiting := p.waiting.extract w.outputSize p.waiting.size }
    unless ← put block do
      complainOfWrite w "writing to"
      throw 1
    modify fun p => { p with writtenFull := p.writtenFull + 1 }
    putWaiting w fuel

/-- Adds bytes to those that are written next. -/
def produce (w : Wish) (bytes : List UInt8) : Run Unit := do
  modify fun p => { p with waiting := bytes.foldl Array.push p.waiting }
  putWaiting w (((← get).waiting.size) / w.outputSize + 1)

/-- What becomes of a byte. -/
def Wish.translation (w : Wish) : Option (Array UInt8) :=
  let does (c : Conversion) : Bool := w.does c
  if !([Conversion.ascii, .ebcdic, .ibm, .lower, .upper].any does) then none
  else
    some ((Array.range 256).map fun n =>
      let b := UInt8.ofNat n
      let b := if does .ascii then Ebcdic.look Ebcdic.toAscii b else b
      let b := if does .upper && 0x61 ≤ b && b ≤ 0x7A then b - 0x20
        else if does .lower && 0x41 ≤ b && b ≤ 0x5A then b + 0x20
        else b
      if does .ebcdic then Ebcdic.look Ebcdic.ofAscii b
      else if does .ibm then Ebcdic.look Ebcdic.ofAsciiForPrinters b
      else b)

/-- Each two bytes in the other order, where a byte may be in front, and the one that is left over. -/
def swapped : (single : Option UInt8) → List UInt8 → List UInt8 × Option UInt8
  | single, [] => ([], single)
  | none, b :: bs => swapped (some b) bs
  | some a, b :: bs =>
    let (more, single) := swapped none bs
    (b :: a :: more, single)

/-- Lines filled up to records; `column` is the place in the record, and `cutOff` is how many lines were
too long. -/
def records (w : Wish) : (column cutOff : Nat) → (reversed : List UInt8) → List UInt8 →
    Nat × Nat × List UInt8
  | column, cutOff, reversed, [] => (column, cutOff, reversed.reverse)
  | column, cutOff, reversed, b :: bs =>
    if b = w.lineEnd then
      records w 0 cutOff (List.replicate (w.recordSize - column) w.blank ++ reversed) bs
    else if column < w.recordSize then records w (column + 1) cutOff (b :: reversed) bs
    else records w (column + 1) (if column = w.recordSize then cutOff + 1 else cutOff) reversed bs

/-- Records as lines without blanks at their ends; `column` is the place in the record, and `blanks` is
how many blanks are held back. -/
def linesOf (w : Wish) : (column blanks : Nat) → (reversed : List UInt8) → List UInt8 →
    Nat × Nat × List UInt8
  | column, blanks, reversed, [] => (column, blanks, reversed.reverse)
  | column, blanks, reversed, b :: bs =>
    let (column, blanks, reversed) :=
      if w.recordSize ≤ column then (0, 0, w.lineEnd :: reversed) else (column, blanks, reversed)
    if b = w.blank then linesOf w (column + 1) (blanks + 1) reversed bs
    else linesOf w (column + 1) 0 (b :: (List.replicate blanks w.blank ++ reversed)) bs

/-- Does what is wanted with bytes whose pairs are in order, and writes what comes out. -/
def arrange (w : Wish) (bytes : List UInt8) : Run Unit := do
  let p ← get
  if w.fillsRecords then
    let (column, cutOff, out) := records w p.column p.cutOff [] bytes
    set { p with column, cutOff }
    produce w out
  else if w.cutsRecords then
    let (column, blanks, out) := linesOf w p.column p.blanks [] bytes
    set { p with column, blanks }
    produce w out
  else produce w bytes

/-- Leaves a part of the input out, and tells if it is not that long. -/
def skipInput (w : Wish) : Run Unit := do
  let (records, bytes) := w.skip
  if records = 0 ∧ bytes = 0 then return ()
  let whole := records * w.inputSize + bytes
  let descriptor := (← get).input
  let isShort ← do
    if ← ofTask (isSeekable descriptor) then
      match ← ofTask (fileOf descriptor) with
      | none => pure false
      | some (id, offset) =>
        let size := (((← ofTask Task.files).node? id).filter (·.isFile)).map Node.size
        let left := size.map (· - offset)
        ofTask (moveOn descriptor (min whole (left.getD whole)))
        pure (left.any (· < whole))
    else
      let taken ← passOver (records + 1) records bytes 0
      pure (decide (taken < whole))
  if isShort ∧ w.telling ≠ .nothing then
    ofTask (complain (Quoting.beforeColon w.inputName ++ ": cannot skip to specified offset".toList))
where
  /-- Reads what is not wanted, and tells how much it was. -/
  passOver : (fuel : Nat) → (records bytes taken : Nat) → Run Nat
    | 0, _, _, taken => return taken
    | fuel + 1, records, bytes, taken => do
      if records = 0 ∧ bytes = 0 then return taken
      match ← readBlock w (if records = 0 then bytes else w.inputSize) with
      | .error fault =>
        ofTask (complainOf "error reading" w.inputName fault)
        throw 1
      | .ok [] => return taken
      | .ok read =>
        if records = 0 then return taken + read.length
        passOver fuel (records - 1) bytes (taken + read.length)

/-- Leaves a part of the output as it is. -/
def seekOutput (w : Wish) : Run Unit := do
  let (records, bytes) := w.seek
  if records = 0 ∧ bytes = 0 then return ()
  let descriptor := (← get).output
  if ← ofTask (isSeekable descriptor) then
    ofTask (moveOn descriptor (records * w.outputSize + bytes))
  else
    let reason := if (← ofTask (Task.channel? descriptor)).isSome then "Illegal seek"
      else "Bad file descriptor"
    ofTask (complain (Quoting.beforeColon w.outputName ++ ": cannot seek: ".toList ++ reason.toList))
    throw 1

/-- Copies a block that was read, which may be filled up. -/
def copyBlock (w : Wish) (table : Option (Array UInt8)) (read : List UInt8) : Run Unit := do
  let isFull := read.length = w.inputSize
  modify fun p => if isFull then { p with readFull := p.readFull + 1 }
    else { p with readPartial := p.readPartial + 1 }
  let filling : UInt8 := if w.fillsRecords || w.cutsRecords then 0x20 else 0
  let bytes := if w.does .fills then
      read ++ List.replicate (w.inputSize - read.length) filling
    else read
  if !w.regroups then
    unless ← put bytes do
      complainOfWrite w "error writing"
      throw 1
    modify fun p => if bytes.length = w.inputSize then { p with writtenFull := p.writtenFull + 1 }
      else { p with writtenPartial := p.writtenPartial + 1 }
  else
    let bytes := match table with
      | some t => bytes.map (Ebcdic.look t)
      | none => bytes
    if w.does .swap then
      let (bytes, single) := swapped (← get).single bytes
      modify fun p => { p with single }
      arrange w bytes
    else arrange w bytes

/-- Copies blocks until there are no more, and gives the exit code. -/
def copyBlocks (w : Wish) (table : Option (Array UInt8)) : (fuel : Nat) → Run Int
  | 0 => return 0
  | fuel + 1 => do
    let p ← get
    let number := p.readFull + p.readPartial
    let size : Option Nat := match w.limit? with
      | none => some w.inputSize
      | some (records, bytes) =>
        if number < records then some w.inputSize
        else if number = records ∧ bytes ≠ 0 then some bytes
        else none
    match size with
    | none => return 0
    | some size =>
      match ← readBlock w size with
      | .error fault =>
        if !w.does .goesOn || w.telling ≠ .nothing then
          ofTask (complainOf "error reading" w.inputName fault)
        return 1
      | .ok [] => return 0
      | .ok read =>
        copyBlock w table read
        copyBlocks w table fuel

/-- Writes what is still held back. -/
def finish (w : Wish) : Run Unit := do
  if let some b := (← get).single then
    modify fun p => { p with single := none }
    arrange w [b]
  let p ← get
  if w.fillsRecords && p.column ≠ 0 then
    produce w (List.replicate (w.recordSize - p.column) w.blank)
  if w.cutsRecords && p.column ≠ 0 then produce w [w.lineEnd]
  let p ← get
  unless p.waiting.isEmpty do
    set { p with waiting := #[] }
    unless ← put p.waiting.toList do
      complainOfWrite w "error writing"
      throw 1
    modify fun p => { p with writtenPartial := p.writtenPartial + 1 }
  let p ← get
  if p.endsSparse then
    if let some (id, offset) ← ofTask (fileOf p.output) then
      let now ← ofTask Task.now
      let resized (content : Content) : Content :=
        if content.size < offset then content.resized offset else content
      ofTask (modify fun m => { m with files := m.files.setContent id now resized })

/-- The whole copy. -/
def copy (w : Wish) : Run Int := do
  skipInput w
  seekOutput w
  if w.limit? = some (0, 0) then return 0
  let status ← copyBlocks w w.translation Task.blockLimit
  finish w
  return status

/-- A number of tenths with a point, without a zero behind it. -/
def ofTenths (n : Nat) : Text :=
  if n % 10 = 0 then numeral (n / 10) else numeral (n / 10) ++ '.' :: numeral (n % 10)

/-- How the time that something took is shown, which was measured in microseconds. -/
def duration (time : Nat) : Text :=
  if time < 10 then numeral time ++ "e-06".toList
  else if time < 100 then ofTenths time ++ "e-05".toList
  else
    let digits := numeral (1000000 + time % 1000000)
    let fraction := ((digits.drop 1).reverse.dropWhile (· = '0')).reverse
    numeral (time / 1000000) ++ (if fraction.isEmpty then [] else '.' :: fraction)

/-- How fast a number of bytes came, which is at least shown in thousands; `letters` are those of the
units that may be used. -/
def rate (bytes time : Nat) : (letters : Text) → (unit : Nat) → Text
  | [], _ => []
  | letter :: letters, unit =>
    let whole := bytes * 1000000
    let size := unit * time
    if whole / size < 1000 || letters.isEmpty then
      let tenths := (whole * 20 + size) / (size * 2)
      let shown := if tenths < 1000 then numeral (tenths / 10) ++ '.' :: numeral (tenths % 10)
        else numeral ((whole * 2 + size) / (size * 2))
      shown ++ ' ' :: letter :: "B/s".toList
    else rate bytes time letters (unit * 1000)

/-- Tells how many blocks there were. -/
def tell (w : Wish) (p : Progress) (time : Nat) : Task Unit := do
  let counts (full part : Nat) (noun : String) : Text :=
    numeral full ++ '+' :: numeral part ++ noun.toList ++ ['\n']
  if w.telling = .nothing then return ()
  Task.print 2 (counts p.readFull p.readPartial " records in" ++
    counts p.writtenFull p.writtenPartial " records out")
  if p.cutOff ≠ 0 then
    Task.print 2 (numeral p.cutOff ++
      (if p.cutOff = 1 then " truncated record\n" else " truncated records\n").toList)
  if w.telling = .records then return ()
  let style (base : Nat) : SizeStyle := ⟨1, base, true, true, true, true, .nearest⟩
  let n := p.writtenBytes
  let shown := if n < 1000 then []
    else if n < 1024 then " (".toList ++ (style 1000).written n 1 ++ [')']
    else " (".toList ++ (style 1000).written n 1 ++ ", ".toList ++ (style 1024).written n 1 ++ [')']
  let time := max time 1
  Task.print 2 (numeral n ++ (if n = 1 then " byte" else " bytes").toList ++ shown ++
    " copied, ".toList ++ duration time ++ " s, ".toList ++ rate n time "kMGTPEZY".toList 1000 ++ ['\n'])

/-- How much time passes with a copy besides its writes, in microseconds. -/
def copyTime : Nat := 40

/-- Opens the input, or gives the exit code after a complaint. -/
def openInput (w : Wish) : Task (Except Int Nat) := do
  match w.input with
  | none => return .ok 0
  | some path =>
    match ← Task.openFree .input path with
    | .error fault =>
      complainOf "failed to open" path fault
      return .error 1
    | .ok descriptor =>
      let isDirectory := ((← look? true path).map fun found => found.2.isDirectory).getD false
      if w.inputFlags.contains "directory" && !isDirectory then
        complainOf "failed to open" path .notDirectory
        return .error 1
      return .ok descriptor

/-- Opens the output, or gives the exit code after a complaint. -/
def openOutput (w : Wish) : Task (Except Int Nat) := do
  match w.output with
  | none => return .ok 1
  | some path =>
    let (records, bytes) := w.seek
    let access : Task.Access :=
      { writes := true
        makes := !w.does .mustExist
        keeps := w.does .mustBeNew
        appends := w.outputFlags.contains "append"
        empties := records = 0 && !w.does .keeps }
    let opened ← do
      if records = 0 then Task.openFree access path
      else
        match ← Task.openFree { access with reads := true } path with
        | .ok descriptor => pure (.ok descriptor)
        | .error _ => Task.openFree access path
    match opened with
    | .error fault =>
      complainOf "failed to open" path fault
      return .error 1
    | .ok descriptor =>
      if records ≠ 0 ∧ ¬ w.does .keeps then
        if let some (id, _) ← fileOf descriptor then
          let now ← Task.now
          let size := records * w.outputSize + bytes
          modify fun m => { m with files := m.files.setContent id now (·.resized size) }
      return .ok descriptor

/-- Closes both files, and complains if one was not open. -/
def close (w : Wish) (p : Progress) : Task Bool := do
  for (descriptor, kind, name) in
      [(p.input, "closing input file", w.inputName),
        (p.output, "closing output file", w.outputName)] do
    if (← Task.channel? descriptor).isNone then
      complainOf kind name .badDescriptor
      return false
    if 2 < descriptor then Task.disconnect descriptor
  return true

end Blocks

/-- How `dd` takes options. -/
def ddUsage : Usage := .free []

/-- Copies blocks. -/
def dd (_ : Given) (operands : List Text) : Task Int := do
  match ← Blocks.Wish.usual.ofOperands operands with
  | .error misuse => misuse.refuse 1
  | .ok w =>
    let w := w.completed
    if let some misuse := w.fault? then return ← misuse.refuse 1
    match ← Blocks.openInput w with
    | .error status => return status
    | .ok input =>
      match ← Blocks.openOutput w with
      | .error status => return status
      | .ok output =>
        let start := (← Task.process).time
        let progress : Blocks.Progress :=
          ⟨0, 0, 0, 0, 0, 0, 0, w.warnsOfPartial, w.does .sparse, false, #[], none, 0, 0, input, output⟩
        Task.spend Blocks.copyTime
        let (result, p) ← (Blocks.copy w).run.run progress
        let status := match result with
          | .ok status => status
          | .error status => status
        if ← Blocks.close w p then
          Blocks.tell w p ((← Task.process).time - start)
          return status
        return 1

end LineShell.Sh.Tool
