import LineShell.Computer.Sh.Bindings
import LineShell.Computer.Sh.Tool.Options
import LineShell.Computer.Sh.Tool.Quoting

/-!
# What the tools have in common

A tool is a program of the system that runs in a process of its own.  It complains under the name by
which it was called, reads the files that its operands name or the standard input, and prints.  What
it prints is written in blocks, at the latest when it complains or ends.
-/

namespace LineShell.Sh.Tool

/-- How much is printed before it is written. -/
def printBlock : Nat := 4096

/-- Writes what has been printed. -/
def flush : Task Unit := do
  let p ← Task.process
  if p.pendingSize ≠ 0 then
    Task.modifyProcess fun p => { p with pending := [], pendingSize := 0 }
    let _ ← Task.write 1 p.pending.reverse.flatten

/-- Prints bytes. -/
def emit (bytes : List UInt8) : Task Unit := do
  let size := bytes.length
  Task.modifyProcess fun p =>
    { p with pending := bytes :: p.pending, pendingSize := p.pendingSize + size }
  if printBlock ≤ (← Task.process).pendingSize then flush

/-- Prints a text. -/
def print (t : Text) : Task Unit :=
  emit (Raw.bytes t)

/-- Prints a line. -/
def printLine (t : Text) : Task Unit :=
  print (t ++ ['\n'])

/-- Prints a line under the name of the tool. -/
def announce (message : Text) : Task Unit := do
  printLine ((← Task.process).name ++ ": ".toList ++ message)

/-- Writes a line about an error after what has been printed, under the name of the tool. -/
def complain (message : Text) : Task Unit := do
  flush
  Task.print 2 ((← Task.process).name ++ ": ".toList ++ message ++ ['\n'])

/-- Writes a line about a fault of a file, with what was to be done with it in front. -/
def complainOf (doing : String) (path : Text) (fault : FileFault) : Task Unit :=
  complain (doing.toList ++ [' '] ++ Quoting.always path ++ ": ".toList ++ fault.message)

/-- Writes a line about a fault of a file. -/
def complainAbout (path : Text) (fault : FileFault) : Task Unit :=
  complain (Quoting.beforeColon path ++ ": ".toList ++ fault.message)

/-- Tells where help is to be found. -/
def pointToHelp : Task Unit := do
  Task.print 2 ("Try '".toList ++ (← Task.process).name ++
    " --help' for more information.\n".toList)

/-- Complains that the tool is called in a wrong way. -/
def misused (message : Text) : Task Unit := do
  complain message
  pointToHelp

/-- Complains that the tool is called in a wrong way, and fails. -/
def refuse (message : Text) (failure : Int) : Task Int := do
  misused message
  return failure

/-- Why a call is refused. -/
structure Misuse where
  message : Text
  /-- It is told where help is. -/
  pointsToHelp : Bool

namespace Misuse

/-- A call of a wrong form. -/
def ofForm (message : Text) : Misuse := ⟨message, true⟩

/-- A call with something in it that cannot be used. -/
def ofValue (message : Text) : Misuse := ⟨message, false⟩

/-- Refuses a call. -/
def refuse (misuse : Misuse) (failure : Int) : Task Int := do
  complain misuse.message
  if misuse.pointsToHelp then pointToHelp
  return failure

end Misuse

/-- Complains of an operand that is one too many, and fails. -/
def refuseExtra (operand : Text) : Task Int :=
  refuse ("extra operand ".toList ++ Quoting.word operand) 1

/-- How a tool takes options. -/
structure Usage where
  forms : List OptionForm
  mixing : Mixing
  /-- The exit code of a wrong call. -/
  failure : Int

namespace Usage

/-- Options may stand between operands, and a wrong call fails with exit code one. -/
def free (forms : List OptionForm) : Usage := ⟨forms, .free, 1⟩

/-- The first operand ends the options, and a wrong call fails with exit code one. -/
def strict (forms : List OptionForm) : Usage := ⟨forms, .strict, 1⟩

/-- Calls a tool with the options and the operands that its arguments hold. -/
def call (u : Usage) (action : Given → List Text → Task Int) (arguments : List Text) :
    Task Int := do
  match Given.read u.forms u.mixing none arguments with
  | .ok (given, operands) => action given operands
  | .error message => refuse message u.failure

end Usage

/-- Does a task with a descriptor of the file at a path; `-` stands for the standard input. -/
def withInput {α : Type} (path : Text) (use : Nat → Task α) : Task (Except FileFault α) := do
  if path = ['-'] then return .ok (← use 0)
  match ← Task.openFree .input path with
  | .error fault => return .error fault
  | .ok descriptor =>
    let result ← use descriptor
    Task.disconnect descriptor
    return .ok result

/-- The bytes that a path stands for; `-` stands for the standard input. -/
def bytesOf (path : Text) : Task (Except FileFault (List UInt8)) := do
  return (← withInput path Task.takeAll).bind id

/-- The bytes of each path that can be read, or of the standard input if there are no paths, and
the exit code, which is `failure` if one cannot be read. -/
def inputs (complaint : Text → FileFault → Task Unit) (failure : Int) (paths : List Text) :
    Task (List (Text × List UInt8) × Int) := do
  let mut found := []
  let mut status : Int := 0
  for path in if paths.isEmpty then [['-']] else paths do
    match ← bytesOf path with
    | .ok bytes => found := (path, bytes) :: found
    | .error fault =>
      complaint path fault
      status := failure
  return (found.reverse, status)

/-- The first line of some bytes, without what ends it, and the bytes after it, if it ends at all. -/
def cutLine? (ending : UInt8) : (taken : List UInt8) → List UInt8 →
    Option (List UInt8 × List UInt8)
  | _, [] => none
  | taken, b :: bs => if b = ending then some (taken.reverse, bs) else cutLine? ending (b :: taken) bs

/-- The lines of some bytes, without what ends them; the last one may lack it.  `reversed` are the
bytes of the first line so far, last one first. -/
def linesFrom (ending : UInt8) : (reversed : List UInt8) → List UInt8 → List (List UInt8)
  | [], [] => []
  | reversed, [] => [reversed.reverse]
  | reversed, b :: bs =>
    if b = ending then reversed.reverse :: linesFrom ending [] bs
    else linesFrom ending (b :: reversed) bs

/-- What ends a line. -/
def newline : UInt8 := 0x0A

/-- The lines of some bytes, without their newlines. -/
def lines (bytes : List UInt8) : List (List UInt8) :=
  linesFrom newline [] bytes

/-- Lines as bytes, each with a newline. -/
def unlines (ls : List (List UInt8)) : List UInt8 :=
  ls.flatMap (· ++ [newline])

/-- Does something with each line of a descriptor, as soon as it is there, until a result is given.
A line comes without what ends it; the last one may lack it, which is told.  What is left of a
file then is left to others.  Before the lines of a block are dealt with, `look` takes note of it. -/
def eachLineSeen {σ : Type} (look : σ → List UInt8 → σ) (descriptor : Nat) (ending : UInt8)
    (use : σ → List UInt8 → Bool → Task (Except σ σ)) (state : σ) :
    Task (Except FileFault (Except σ σ)) :=
  go Task.blockLimit state []
where
  /-- Does it with the lines that are complete.  `left` is the beginning of the next one. -/
  useLines : (fuel : Nat) → σ → List UInt8 → Task (Except (σ × Nat) (σ × List UInt8))
    | 0, state, left => return .ok (state, left)
    | fuel + 1, state, left => do
      match cutLine? ending [] left with
      | none => return .ok (state, left)
      | some (line, rest) =>
        match ← use state line true with
        | .ok state => useLines fuel state rest
        | .error state => return .error (state, rest.length)
  /-- Takes more blocks. -/
  go : (fuel : Nat) → σ → List UInt8 → Task (Except FileFault (Except σ σ))
    | 0, state, _ => return .ok (.ok state)
    | fuel + 1, state, left => do
      match ← Task.take descriptor Task.blockSize with
      | .error fault => return .error fault
      | .ok [] => if left.isEmpty then return .ok (.ok state) else return .ok (← use state left false)
      | .ok bytes =>
        let state := look state bytes
        let bytes := if left.isEmpty then bytes else left ++ bytes
        match ← useLines (bytes.length + 1) state bytes with
        | .ok (state, left) => go fuel state left
        | .error (state, unread) =>
          Task.giveBack descriptor unread
          return .ok (.error state)

/-- Does something with each line of a descriptor, as soon as it is there, until a result is given.
A line comes without what ends it; the last one may lack it, which is told.  What is left of a
file then is left to others. -/
def eachLine {σ : Type} (descriptor : Nat) (ending : UInt8)
    (use : σ → List UInt8 → Bool → Task (Except σ σ)) (state : σ) :
    Task (Except FileFault (Except σ σ)) :=
  eachLineSeen (fun state _ => state) descriptor ending use state

/-- Does something with each line of some files, or of the standard input if there are none, until a
result is given.  A file that cannot be read is told, and the exit code says so. -/
def eachLineOf {σ : Type} (complaint : Text → FileFault → Task Unit) (ending : UInt8)
    (use : σ → List UInt8 → Bool → Task (Except σ σ)) (state : σ) (paths : List Text) :
    Task (σ × Bool) := do
  let mut state := state
  let mut succeeds := true
  let mut goesOn := true
  for path in if paths.isEmpty then [['-']] else paths do
    if goesOn then
      match ← withInput path fun d => eachLine d ending use state with
      | .ok (.ok (.ok s)) => state := s
      | .ok (.ok (.error s)) =>
        state := s
        goesOn := false
      | .ok (.error fault) =>
        complaint path fault
        succeeds := false
      | .error fault =>
        complaint path fault
        succeeds := false
  return (state, succeeds)

/-- Opens a file to be written, and writes bytes to it. -/
def writeTo (access : Task.Access) (path : Text) (bytes : List UInt8) :
    Task (Except FileFault Unit) := do
  match ← Task.openFree access path with
  | .error fault => return .error fault
  | .ok descriptor =>
    let _ ← Task.write descriptor bytes
    Task.disconnect descriptor
    return .ok ()

end LineShell.Sh.Tool
