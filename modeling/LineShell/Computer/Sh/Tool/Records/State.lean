import LineShell.Computer.Sh.Tool.Intake
import LineShell.Computer.Sh.Tool.Launch
import LineShell.Computer.Sh.Tool.Records.Grammar
import LineShell.Computer.Sh.Tool.Records.Pieces
import LineShell.Computer.Sh.Tool.Records.Table

/-!
# What a program for records knows

While a program is carried out there are its variables and tables, the record and its fields, and the
files and commands from which it reads and to which it prints.  The fields are cut from the record
when they are needed, and the record is put together again when a field is assigned.
-/

namespace LineShell.Sh.Tool.Records

/-- What a parameter of a function stands for while it is called. -/
inductive Slot where
  | value (v : Value)
  | table (n : Nat)

instance : Inhabited Slot := ⟨.value .unset⟩

/-- Something to which a program prints; what goes to the standard output waits elsewhere. -/
structure Outflow where
  name : Text
  kind : Outlet
  descriptor : Nat
  /-- What has been printed and not been written yet, last piece first. -/
  pending : List (List UInt8)
  pendingSize : Nat
  /-- The process of a command. -/
  process : Option Nat

/-- Something from which a program reads, besides its input. -/
structure Inflow where
  name : Text
  intake : Intake
  /-- The process of a command. -/
  process : Option Nat

/-- The input of a program. -/
inductive Feed where
  /-- The next file is to be read from its beginning. -/
  | waiting
  | reading (intake : Intake)
  | over

/-- What a program knows. -/
structure State where
  program : Program
  launcher : Launcher
  values : Array Value
  /-- The tables; the first ones are those of the global names. -/
  tables : Array Table
  /-- The parameters of the function that is called. -/
  frame : Array Slot
  record : Text
  fields : Array Value
  /-- The fields have been cut from the record. -/
  isSplit : Bool
  /-- What is printed to, the latest first. -/
  outflows : List Outflow
  inflows : List Inflow
  feed : Feed
  /-- The number of the next argument. -/
  argument : Nat
  /-- A file has been read that an argument names. -/
  hasRead : Bool
  /-- The rules of which the first record has been met, but not the last one. -/
  ranges : List Nat
  /-- The expressions that have been read from texts. -/
  patterns : Std.HashMap Text Search.Expression
  /-- Where the random numbers started. -/
  seed : Value
  generator : Generator
  /-- The exit code. -/
  status : Int

/-- Why something is not carried out to its end. -/
inductive Stop where
  | nextRecord
  | nextFile
  | leave
  | result (v : Value)
  | leaveLoop
  | nextTurn
  /-- Something is wrong, which has been told. -/
  | failure

/-- What a program does. -/
abbrev Run := ExceptT Stop (StateT State Task)

namespace Run

/-- A task as a part of a program. -/
def ofTask {α : Type} (task : Task α) : Run α := liftM (m := Task) task

/-- Tells that something is wrong and stops. -/
def complainPlainly {α : Type} (message : Text) : Run α := do
  ofTask do Task.print 2 ((← Task.process).name ++ ": ".toList ++ message ++ ['\n'])
  modify fun s => { s with status := 2 }
  throw .failure

/-- The value of a global name as it is kept. -/
def kept (n : Nat) : Run Value := do
  return (← get).values.getD n .unset

/-- Tells that something is wrong while a record is dealt with, and stops. -/
def fail {α : Type} (message : Text) : Run α := do
  let place (n : Nat) : Run Text := do
    return numeral (integerOf (← kept n).toNumber).toNat
  let file := (← kept Special.fileName).toText usualFormat
  complainPlainly ("run time error: ".toList ++ message ++ "\n\tFILENAME=\"".toList ++ file ++
    "\" FNR=".toList ++ (← place Special.fileRecordNumber) ++ " NR=".toList ++
    (← place Special.recordNumber))

/-- How numbers are written. -/
def numberFormat : Run Text := do
  return (← kept Special.numberFormat).toText usualFormat

/-- A value as a text. -/
def textOf (v : Value) : Run Text := do
  match v with
  | .number x =>
    match wholeText? x with
    | some t => return t
    | none => return v.toText (← numberFormat)
  | v => return v.toText []

/-- The text of a global name. -/
def keptText (n : Nat) : Run Text := do
  textOf (← kept n)

/-- The expression that a text writes. -/
def patternOf (t : Text) : Run Search.Expression := do
  match (← get).patterns[t]? with
  | some e => return e
  | none =>
    match Pattern.compile t with
    | .ok e =>
      modify fun s => { s with patterns := s.patterns.insert t e }
      return e
    | .error fault => fail (refusedPattern fault t)

/-- The separator that a text stands for. -/
def separatorOf (t : Text) : Run Separator := do
  match t with
  | [] => return .nothing
  | [' '] => return .gaps
  | [c] => return .character c
  | t => return .pattern (← patternOf t)

/-- Keeps a value for a global name. -/
def keep (n : Nat) (v : Value) : Run Unit :=
  modify fun s => { s with values := s.values.setIfInBounds n v }

/-- Cuts the fields from the record. -/
def cutFields : Run Unit := do
  if ¬ (← get).isSplit then
    let separator ← separatorOf (← keptText Special.fieldSeparator)
    let found := pieces separator (← get).record
    let fields := (found.map Value.input).toArray
    modify fun s => { s with fields, isSplit := true }
    keep Special.fieldCount (.ofNat fields.size)

/-- Takes a text as the record. -/
def setRecord (t : Text) : Run Unit :=
  modify fun s => { s with record := t, isSplit := false }

/-- Puts the record together from its fields. -/
def joinFields : Run Unit := do
  let separator ← keptText Special.outputFieldSeparator
  let mut texts := []
  for v in (← get).fields do
    texts := (← textOf v) :: texts
  let record := (texts.reverse.intersperse separator).flatten
  modify fun s => { s with record }

/-- The value of a field; the field with number zero is the record. -/
def fieldAt (n : Int) : Run Value := do
  if n < 0 then fail ("negative field index $".toList ++ signedNumeral n)
  if n = 0 then return .input (← get).record
  cutFields
  return (← get).fields.getD (n.toNat - 1) (.text [])

/-- How many fields there may be. -/
def mostFields : Nat := 2000000

/-- Makes the record have a number of fields. -/
def resize (n : Nat) : Run Unit :=
  modify fun s =>
    let fields := s.fields.extract 0 n
    { s with fields := fields ++ Array.replicate (n - fields.size) (.text []) }

/-- Assigns a field. -/
def setField (n : Int) (v : Value) : Run Unit := do
  if n < 0 then fail ("negative field index $".toList ++ signedNumeral n)
  if mostFields < n then fail ("maximum field index exceeded $".toList ++ signedNumeral n)
  if n = 0 then setRecord (← textOf v)
  else
    cutFields
    let n := n.toNat
    let size := (← get).fields.size
    if size < n then
      resize n
      keep Special.fieldCount (.ofNat n)
    modify fun s => { s with fields := s.fields.setIfInBounds (n - 1) v }
    joinFields

/-- The value of a global name. -/
def globalAt (n : Nat) : Run Value := do
  if n = Special.fieldCount then cutFields
  kept n

/-- Assigns a global name. -/
def setGlobal (n : Nat) (v : Value) : Run Unit := do
  if n = Special.fieldCount then
    let count := integerOf v.toNumber
    if count < 0 then fail "negative value assigned to NF".toList
    if mostFields < count then fail ("maximum field index exceeded $".toList ++ signedNumeral count)
    cutFields
    resize count.toNat
    joinFields
    keep n v
  else
    if n = Special.fieldSeparator then cutFields
    keep n v

/-- Does something with a table. -/
def withTable {α : Type} (n : Nat) (f : Table → α × Table) : Run α :=
  modifyGet fun s =>
    let tables := s.tables
    let s := { s with tables := #[] }
    let table := tables.getD n .empty
    let tables := tables.setIfInBounds n .empty
    let (a, table) := f table
    (a, { s with tables := tables.setIfInBounds n table })

/-- Alters a table. -/
def alterTable (n : Nat) (f : Table → Table) : Run Unit :=
  withTable n fun t => ((), f t)

/-- The table for which a location stands. -/
def tableNumber (l : Location) : Run Nat := do
  match l with
  | .global n => return n
  | .parameter n =>
    match (← get).frame.getD n default with
    | .table n => return n
    | .value _ => return 0

section Flows

/-- Writes what has been printed to something. -/
def flushOutflow (o : Outflow) : Run Outflow := do
  if o.descriptor = 1 then ofTask flush
  if o.pendingSize ≠ 0 then
    if ¬ (← ofTask (Task.write o.descriptor o.pending.reverse.flatten)) then
      let fault := ((← ofTask get).lost).getD .noRoom
      ofTask (modify fun m => { m with lost := none })
      complainPlainly ("close failed on file \"".toList ++ o.name ++ "\" (".toList ++
        fault.message ++ ")".toList)
  return { o with pending := [], pendingSize := 0 }

/-- Writes all that has been printed. -/
def flushAll : Run Unit := do
  ofTask flush
  let outflows ← (← get).outflows.mapM flushOutflow
  modify fun s => { s with outflows }

/-- The exit code of a command, to which the number of a signal is added if it died of one. -/
def codeOf (e : Ending) : Int :=
  match e.signal with
  | some signal => 256 + signal
  | none => e.code

/-- Waits for the end of a command. -/
def awaitCommand (id : Nat) : Run Int := do
  return codeOf (← ofTask (Control.collectOne [id])).2

/-- Stops printing to something. -/
def closeOutflow (o : Outflow) : Run Int := do
  let o ← flushOutflow o
  if o.descriptor = 1 then return 0
  ofTask (Task.disconnect o.descriptor)
  match o.process with
  | some id => awaitCommand id
  | none => return 0

/-- Stops reading from something. -/
def closeInflow (i : Inflow) : Run Int := do
  if i.intake.descriptor ≠ 0 then ofTask (Task.disconnect i.intake.descriptor)
  match i.process with
  | some id => awaitCommand id
  | none => return 0

/-- Stops printing to and reading from everything with a name, and gives the last exit code. -/
def close (name : Text) : Run Int := do
  let s ← get
  let outflows := s.outflows.filter (·.name = name)
  let inflows := s.inflows.filter (·.name = name)
  modify fun s => { s with
    outflows := s.outflows.filter (·.name ≠ name)
    inflows := s.inflows.filter (·.name ≠ name) }
  let mut code := -1
  for o in outflows do code ← closeOutflow o
  for i in inflows do code ← closeInflow i
  return code

/-- Stops printing to everything, first to what was printed to last, and waits for each command. -/
def closeAll : Run Unit := do
  let outflows := (← get).outflows
  modify fun s => { s with outflows := [] }
  for o in outflows do
    let _ ← closeOutflow o
  ofTask flush

/-- How a file is opened to print to it. -/
def accessOf : Outlet → Task.Access
  | .append => .append
  | _ => .output

/-- The names of the standard output. -/
def standardOutput : List String := ["/dev/stdout", "-"]

/-- The standard output among that to which a program prints. -/
def standardOutflow : Outflow := ⟨"/dev/stdout".toList, .file, 1, [], 0, none⟩

/-- Takes something as that to which a program printed last. -/
def putFirst (o : Outflow) : Run Unit :=
  modify fun s => { s with
    outflows := o :: s.outflows.filter fun p => p.name ≠ o.name || p.kind != o.kind }

/-- Finds what has a name, or begins to print to it. -/
def outflowOf (kind : Outlet) (name : Text) : Run Outflow := do
  match (← get).outflows.find? fun o => o.name = name && o.kind == kind with
  | some o => return o
  | none =>
    match kind with
      | .command => do
        ofTask flush
        let (id, descriptor) ← ofTask ((← get).launcher.beginSink "/bin/sh" name)
        return ⟨name, kind, descriptor, [], 0, some id⟩
      | kind => do
        match ← ofTask (Task.openFree (accessOf kind) name) with
        | .ok descriptor => return ⟨name, kind, descriptor, [], 0, none⟩
        | .error fault =>
          complainPlainly ("cannot open \"".toList ++ name ++ "\" for output (".toList ++
            fault.message ++ ")".toList)

/-- Prints a text to the output or to something else. -/
def printTo (out : Option (Outlet × Text)) (t : Text) : Run Unit := do
  match out with
  | none => ofTask (print t)
  | some (kind, name) =>
    if kind ≠ .command ∧ standardOutput.contains (String.ofList name) then
      putFirst standardOutflow
      ofTask (print t)
    else if kind ≠ .command ∧ name = "/dev/stderr".toList then ofTask (Task.print 2 t)
    else
      let o ← outflowOf kind name
      let bytes := Raw.bytes t
      let o := { o with
        pending := bytes :: o.pending
        pendingSize := o.pendingSize + bytes.length }
      let o ← if printBlock ≤ o.pendingSize then flushOutflow o else pure o
      putFirst o

/-- A text without the newline at its end. -/
def withoutNewline (t : Text) : Text :=
  if t.getLast? = some '\n' then t.dropLast else t

/-- The first record of a text that is separated by something described, and what is left. -/
def cutRecord (e : Search.Expression) (t : Text) : Text × Text :=
  let cut (t : Text) : Option (Search.Found × Search.Subject) :=
    let s := subjectOf t
    (solidMatch? e s (s.text.size + 1) 0).map fun found => (found, s)
  let near := cut (t.take nearness)
  let found := match near with
    | some (found, s) => if found.last < s.text.size then some (found, s) else cut t
    | none => cut t
  match found with
  | some (found, s) => (partOf s 0 found.first, t.drop found.last)
  | none => (t, [])
where
  /-- How far a separator is usually away. -/
  nearness : Nat := 1000

/-- The next record from a descriptor, and what is left to be taken. -/
def recordFrom (intake : Intake) : Run (Option Text × Intake) := do
  let separator ← keptText Special.recordSeparator
  let checked {α : Type} (result : Except FileFault α) : Run α :=
    match result with
    | .ok a => return a
    | .error fault => complainPlainly ("read error (".toList ++ fault.message ++ ")".toList)
  match separator with
  | [c] =>
    let (line, intake) ← checked (← ofTask (intake.next (UInt8.ofNat c.toNat)))
    return (line.map fun l => Raw.ofBytes l.1, intake)
  | separator =>
    let intake ← checked (← ofTask (intake.filled (fun _ => false) Task.blockLimit))
    let t := Raw.ofBytes intake.ahead
    let left (rest : Text) : Intake := { intake with ahead := Raw.bytes rest }
    if separator.isEmpty then
      let t := t.dropWhile (· = '\n')
      if t.isEmpty then return (none, left [])
      let paragraph := .repeated (.literal 10) 2 none false
      let (record, rest) := cutRecord paragraph t
      let record := if rest.isEmpty then withoutNewline record else record
      return (some record, left rest)
    if t.isEmpty then return (none, intake)
    let (record, rest) := cutRecord (← patternOf separator) t
    return (some record, left rest)

/-- Finds what has a name, or begins to read from it. -/
def inflowOf (isCommand : Bool) (name : Text) : Run (Option Inflow) := do
  match (← get).inflows.find? fun i => i.name = name ∧ i.process.isSome = isCommand with
  | some i => return some i
  | none =>
    if isCommand then
      ofTask flush
      let (id, descriptor) ← ofTask ((← get).launcher.beginSource "/bin/sh" name)
      let i : Inflow := ⟨name, .ofDescriptor descriptor, some id⟩
      modify fun s => { s with inflows := i :: s.inflows }
      return some i
    let opened ← if name = ['-'] ∨ name = "/dev/stdin".toList then pure (.ok 0)
      else ofTask (Task.openFree .input name)
    match opened with
    | .error _ => return none
    | .ok descriptor =>
      let i : Inflow := ⟨name, .ofDescriptor descriptor, none⟩
      modify fun s => { s with inflows := i :: s.inflows }
      return some i

/-- The next record from a file or a command; the number tells if there is one, if there are no more
of them, or if the file cannot be read. -/
def recordOf (isCommand : Bool) (name : Text) : Run (Int × Text) := do
  match ← inflowOf isCommand name with
  | none => return (-1, [])
  | some i =>
    let (record, intake) ← recordFrom i.intake
    modify fun s => { s with inflows := s.inflows.map fun j =>
      if j.name = name ∧ j.process.isSome = isCommand then { j with intake } else j }
    match record with
    | some t => return (1, t)
    | none => return (0, [])

end Flows

section Input

/-- The variable and the value of an assignment among the arguments. -/
def assignmentIn? (t : Text) : Option (Text × Text) :=
  let name := t.takeWhile fun c => c.isAlphanum || c = '_'
  match t.drop name.length, name with
  | '=' :: value, c :: _ => if c.isDigit then none else some (name, value)
  | _, _ => none

/-- Assigns a variable as an argument or an option asks for. -/
def assignArgument (name value : Text) : Run Unit := do
  let s ← get
  let clash : Run Unit := complainPlainly ("cannot command line assign to ".toList ++ name ++
    "\n\ttype clash or keyword".toList)
  if s.program.functions.any (·.name = name) then clash
  if let some n := s.program.names.findIdx? (·.1 = name) then
    if (s.program.names[n]?.map Prod.snd) = some .table then clash
    setGlobal n (.input (Reader.unescaped value.length value))

/-- Takes a file as the one that is read. -/
def beginFile (name : Text) (descriptor : Nat) : Run Unit := do
  keep Special.fileName (.text name)
  keep Special.fileRecordNumber (.number 0.0)
  modify fun s => { s with feed := .reading (.ofDescriptor descriptor) }

/-- How many arguments are looked at, at most. -/
def mostArguments : Nat := 1000000

/-- Goes to the next file that an argument names, or to the standard input if none does. -/
def openNext : (fuel : Nat) → Run Unit
  | 0 => modify fun s => { s with feed := .over }
  | fuel + 1 => do
    let n := (← get).argument
    let count := integerOf (← kept Special.argumentCount).toNumber
    if count ≤ n then
      if (← get).hasRead then modify fun s => { s with feed := .over }
      else
        modify fun s => { s with hasRead := true }
        beginFile ['-'] 0
    else
      modify fun s => { s with argument := n + 1 }
      let v ← withTable Special.arguments (Table.find false (.number n))
      let name ← textOf (v.getD .unset)
      if name.isEmpty then openNext fuel
      else
        match assignmentIn? name with
        | some (target, value) =>
          assignArgument target value
          openNext fuel
        | none =>
          modify fun s => { s with hasRead := true }
          if name = ['-'] ∨ name = "/dev/stdin".toList then beginFile name 0
          else
            match ← ofTask (Task.openFree .input name) with
            | .ok descriptor => beginFile name descriptor
            | .error fault =>
              complainPlainly ("cannot open \"".toList ++ name ++ "\" (".toList ++
                fault.message ++ ")".toList)

/-- Leaves the file that is read. -/
def leaveFile : Run Unit := do
  match (← get).feed with
  | .reading intake =>
    if intake.descriptor ≠ 0 then ofTask (Task.disconnect intake.descriptor)
    modify fun s => { s with feed := .waiting }
  | _ => pure ()

/-- Counts a record. -/
def count (n : Nat) : Run Unit := do
  let v ← kept n
  keep n (.number (v.toNumber + 1.0))

/-- The next record of the input. -/
def nextRecord? : (fuel : Nat) → Run (Option Text)
  | 0 => return none
  | fuel + 1 => do
    match (← get).feed with
    | .over => return none
    | .waiting =>
      openNext mostArguments
      nextRecord? fuel
    | .reading intake =>
      let (record, intake) ← recordFrom intake
      modify fun s => { s with feed := .reading intake }
      match record with
      | some t =>
        count Special.recordNumber
        count Special.fileRecordNumber
        return some t
      | none =>
        leaveFile
        nextRecord? fuel

end Input

end Run

end LineShell.Sh.Tool.Records
