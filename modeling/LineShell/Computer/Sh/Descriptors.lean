import LineShell.Computer.Sh.Task

/-!
# Descriptors

A process reads and writes through descriptors, which are numbers that it gives to channels.  What
is connected to one channel shares its place in a file; a file that is opened once more has a place
of its own.  A process that reads from an empty pipe waits, and so does one that writes to a full
one.
-/

namespace LineShell.Sh.Task

/-- Opens a channel. -/
def addChannel (channel : Channel) : Task Nat := do
  let n := (← get).channels.size
  modify fun m => { m with channels := m.channels.push channel }
  return n

/-- Replaces a channel. -/
def setChannel (n : Nat) (channel : Channel) : Task Unit :=
  modify fun m => { m with channels := m.channels.setIfInBounds n channel }

/-- Connects a descriptor to a channel. -/
def connect (descriptor channel : Nat) : Task Unit :=
  modifyProcess fun p =>
    { p with descriptors :=
        (descriptor, channel) :: p.descriptors.filter (·.1 ≠ descriptor) }

/-- Leaves a descriptor without a channel. -/
def disconnect (descriptor : Nat) : Task Unit :=
  modifyProcess fun p => { p with descriptors := p.descriptors.filter (·.1 ≠ descriptor) }

/-- What a descriptor is connected to, if it is. -/
def channel? (descriptor : Nat) : Task (Option Channel) := do
  let m ← get
  return (m.process.descriptors.lookup descriptor).bind (m.channels[·]?)

/-- Makes a pipe. -/
def addPipe (pipe : Pipe) : Task Nat := do
  let n := (← get).pipes.size
  modify fun m => { m with pipes := m.pipes.push pipe }
  return n

/-- Makes a pipe, and gives the channels of its two ends: where bytes come out and where they go in.
-/
def makePipe : Task (Nat × Nat) := do
  let pipe ← addPipe (.ofBytes [])
  return (← addChannel (.reader pipe), ← addChannel (.writer pipe))

/-- The pipe of a node at which processes meet. -/
def meetingPipe (node : NodeId) : Task Nat := do
  match (← get).meetings.lookup node with
  | some pipe => return pipe
  | none =>
    let pipe ← addPipe (.ofBytes [])
    modify fun m => { m with meetings := (node, pipe) :: m.meetings }
    return pipe

/-- How a file is opened. -/
structure Access where
  reads : Bool := false
  writes : Bool := false
  /-- All that is written goes to the end. -/
  appends : Bool := false
  /-- A file that does not exist is made. -/
  makes : Bool := false
  /-- What the file holds is dropped. -/
  empties : Bool := false
  /-- A file that exists is refused. -/
  keeps : Bool := false

namespace Access

/-- To read. -/
def input : Access := { reads := true }

/-- To write anew. -/
def output : Access := { writes := true, makes := true, empties := true }

/-- To write at the end. -/
def append : Access := { writes := true, makes := true, appends := true }

end Access

/-- The permissions of a new file for which some are asked. -/
def maskedMode (mode : Nat) : Task Nat := do
  return mode &&& (0o7777 ^^^ (← process).mask)

/-- Opens a node. -/
def openNode (access : Access) (id : NodeId) (node : Node) : Task (Except FileFault Channel) := do
  if (access.reads && !node.isReadable) || (access.writes && !node.isWritable) then
    return .error (if access.writes && node.isDirectory then .isDirectory else .denied)
  let file (id : NodeId) : Channel := .file id 0 access.reads access.writes access.appends
  match node.kind with
  | .directory .. => return if access.writes then .error .isDirectory else .ok (file id)
  | .file _ =>
    if access.keeps then return .error .taken
    if access.empties then
      let now ← now
      modify fun m => { m with files := m.files.setContent id now fun _ => .empty }
    return .ok (file id)
  | .program _ => return .ok (file id)
  | .device .terminal => return .error .noDevice
  | .device d => return .ok (.device d)
  | .descriptor n =>
    match ← channel? n with
    | none => return .error .missing
    | some (.file id ..) =>
      if access.empties then
        let now ← now
        modify fun m => { m with files := m.files.setContent id now fun _ => .empty }
      return .ok (file id)
    | some channel => return .ok channel
  | .pipe =>
    let pipe ← meetingPipe id
    return .ok (if access.writes then .writer pipe else .reader pipe)
  | .link _ => return .error .tooManyLinks

/-- Opens the file at a path. -/
def openPath (access : Access) (path : Text) : Task (Except FileFault Channel) := do
  let m ← get
  match m.files.walk true m.process.directory path with
  | .ok (.found _ id) =>
    match m.files.node? id with
    | some node => openNode access id node
    | none => return .error .missing
  | .ok (.absent directory name slashed) =>
    if ¬ access.makes then return .error .missing
    if slashed then return .error .isDirectory
    if ¬ m.files.isKept directory then return .error .missing
    if ¬ m.files.isAlterable directory then return .error .denied
    let now ← now
    let (id, files) := m.files.add ⟨.file .empty, ← maskedMode 0o666, now⟩
    modify fun m => { m with files := files.bind directory name now id }
    return .ok (.file id 0 access.reads access.writes access.appends)
  | .error fault => return .error fault

/-- Connects a descriptor to an opened file.  Where processes meet, it waits for the other one. -/
def attach (descriptor : Nat) (channel : Channel) : Task Unit := do
  connect descriptor (← addChannel channel)
  let isMeeting (pipe : Nat) : Task Bool := do
    return (← get).meetings.any (·.2 = pipe)
  match channel with
  | .reader pipe => if ← isMeeting pipe then await (.writer pipe)
  | .writer pipe => if ← isMeeting pipe then await (.reader pipe)
  | _ => pure ()

/-- The least descriptor from three on that is free. -/
def freeDescriptor : Task Nat := do
  let taken := (← process).descriptors.map Prod.fst
  let free := (List.range (taken.length + 1)).find? fun n => !taken.contains (n + 3)
  return free.getD 0 + 3

/-- Opens the file at a path as a descriptor that is free. -/
def openFree (access : Access) (path : Text) : Task (Except FileFault Nat) := do
  match ← openPath access path with
  | .error fault => return .error fault
  | .ok channel =>
    let descriptor ← freeDescriptor
    attach descriptor channel
    return .ok descriptor

/-- How many bytes a device gives at once at most. -/
def deviceBlock : Nat := 4096

/-- Takes at most `n` bytes from a descriptor.  There are none only at the end. -/
def take (descriptor n : Nat) : Task (Except FileFault (List UInt8)) := do
  match (← process).descriptors.lookup descriptor with
  | none => return .error .badDescriptor
  | some channel =>
    let m ← get
    match m.channels[channel]? with
    | some (.file id offset true writes appends) =>
      match m.files.node? id with
      | some ⟨.file content, _, _⟩ =>
        let bytes := content.slice offset n
        setChannel channel (.file id (offset + bytes.length) true writes appends)
        return .ok bytes
      | some ⟨.directory .., _, _⟩ => return .error .isDirectory
      | _ => return .ok []
    | some (.device .zeros) => return .ok (List.replicate (min n deviceBlock) 0)
    | some (.device .full) => return .ok (List.replicate (min n deviceBlock) 0)
    | some (.device .noise) =>
      return .ok ((List.range (min n deviceBlock)).map fun i => UInt8.ofNat (i * 167 + 13))
    | some (.device _) => return .ok []
    | some (.reader pipe) =>
      if ¬ m.isThere (.input pipe) then await (.input pipe)
      match (← get).pipes[pipe]? with
      | none => return .ok []
      | some p =>
        let (bytes, p) := p.take n
        modify fun m => { m with pipes := m.pipes.setIfInBounds pipe p }
        return .ok bytes
    | _ => return .error .badDescriptor

/-- How many bytes are taken from a descriptor at once. -/
def blockSize : Nat := 65536

/-- How many blocks are taken at most. -/
def blockLimit : Nat := 1000000

/-- Takes bytes from a descriptor as long as they are wanted, in blocks of at most `size` bytes, at
most as many as given. -/
def eachBlock (descriptor size : Nat) (use : List UInt8 → Task Bool) :
    Nat → Task (Except FileFault Unit)
  | 0 => return .ok ()
  | fuel + 1 => do
    match ← take descriptor size with
    | .error fault => return .error fault
    | .ok [] => return .ok ()
    | .ok bytes => if ← use bytes then eachBlock descriptor size use fuel else return .ok ()

/-- Collects blocks, last one first. -/
def collect (descriptor : Nat) : (fuel : Nat) → List (List UInt8) →
    Task (Except FileFault (List UInt8))
  | 0, blocks => return .ok blocks.reverse.flatten
  | fuel + 1, blocks => do
    match ← take descriptor blockSize with
    | .error fault => return .error fault
    | .ok [] => return .ok blocks.reverse.flatten
    | .ok bytes => collect descriptor fuel (bytes :: blocks)

/-- How many blocks are collected from a device that gives them without end. -/
def deviceLimit : Nat := 256

/-- Takes all bytes from a descriptor. -/
def takeAll (descriptor : Nat) : Task (Except FileFault (List UInt8)) := do
  match ← channel? descriptor with
  | some (.device _) => collect descriptor deviceLimit []
  | _ => collect descriptor blockLimit []

/-- Gives back the last bytes that were taken from a descriptor, which is possible for files only.
-/
def giveBack (descriptor n : Nat) : Task Unit := do
  match (← process).descriptors.lookup descriptor with
  | none => pure ()
  | some channel =>
    match (← get).channels[channel]? with
    | some (.file id offset reads writes appends) =>
      setChannel channel (.file id (offset - n) reads writes appends)
    | _ => pure ()

/-- Puts bytes back that have been taken last from a file or a pipe. -/
def putBack (descriptor : Nat) (bytes : List UInt8) : Task Unit := do
  match ← channel? descriptor with
  | some (.reader pipe) =>
    modify fun m => { m with pipes := m.pipes.modify pipe fun p =>
      { p with ready := bytes ++ p.ready, size := p.size + bytes.length } }
  | _ => giveBack descriptor bytes.length

/-- A descriptor is connected to a file, whose place can be altered. -/
def readsFile (descriptor : Nat) : Task Bool := do
  return (← channel? descriptor) matches some (.file ..)

/-- How much time passes with a write. -/
def writeTime : Nat := 4

/-- Notes that something could not be written. -/
def lose (fault : FileFault) : Task Bool := do
  modify fun m => { m with lost := some fault }
  return false

/-- Puts bytes into a pipe, in at most as many pieces as given, each of them as soon as there is
room.  Whoever writes what nobody can read dies, unless it has chosen otherwise. -/
def feed (pipe : Nat) : (fuel : Nat) → List UInt8 → Task Bool
  | 0, _ => return true
  | _, [] => return true
  | fuel + 1, bytes => do
    let m ← get
    if ¬ m.isHeld (.reader pipe) then
      match m.process.traps.lookup Signal.unread with
      | none => throw (.killed Signal.unread)
      | some action =>
        if ¬ action.isEmpty then
          modify fun m => { m with signals := m.signals ++ [(m.process.id, Signal.unread)] }
        lose .unread
    else
      let room := Pipe.capacity - m.pipeSize pipe
      if room = 0 then
        await (.room pipe)
        feed pipe fuel bytes
      else
        modify fun m => { m with pipes := m.pipes.modify pipe (·.put (bytes.take room)) }
        feed pipe fuel (bytes.drop room)

/-- Writes bytes to a descriptor, and tells whether it took them. -/
def write (descriptor : Nat) (bytes : List UInt8) : Task Bool := do
  if bytes = [] then return true
  spend writeTime
  match (← process).descriptors.lookup descriptor with
  | none => lose .badDescriptor
  | some channel =>
    let m ← get
    match m.channels[channel]? with
    | some (.console stream) =>
      modify fun m => { m with printed := (stream, bytes) :: m.printed }
      return true
    | some (.file id offset reads true appends) =>
      let size := ((m.files.node? id).map Node.size).getD 0
      let offset := if appends then size else offset
      let now ← now
      modify fun m => { m with files := m.files.setContent id now (·.write offset bytes) }
      setChannel channel (.file id (offset + bytes.length) reads true appends)
      return true
    | some (.writer pipe) => feed pipe (2 * bytes.length + 2) bytes
    | some (.device .full) => lose .noRoom
    | some (.device _) => return true
    | _ => lose .badDescriptor

/-- Writes a text to a descriptor. -/
def print (descriptor : Nat) (t : Text) : Task Unit := do
  let _ ← write descriptor (Raw.bytes t)

end LineShell.Sh.Task
