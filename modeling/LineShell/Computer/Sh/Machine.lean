import LineShell.Console.Stream
import LineShell.Computer.Files.Change
import LineShell.Computer.Sh.Script
import LineShell.Computer.Sh.Signal
import LineShell.Computer.Text.Integer
import LineShell.Computer.Text.Raw

/-!
# Processes and what they share

A machine is a file tree, the channels and pipes that are open, the process whose turn it is, and
those that wait for theirs.  A subshell is a process of its own that starts as a copy: what it does
to its variables, descriptors and directory is gone with it, and what it does to files and channels
stays.

Each process has a time of its own, which passes as it works; whoever is the furthest behind has its
turn next.  A process that waits does so for an `Occasion`.
-/

namespace LineShell.Sh

/-- What a descriptor is connected to. -/
inductive Channel where
  /-- A stream that the machine shares with whoever started it. -/
  | console (stream : Stream)
  /-- A file or a directory, at an offset. -/
  | file (node : NodeId) (offset : Nat) (reads writes appends : Bool)
  | device (d : Device)
  /-- The end of a pipe where bytes come out. -/
  | reader (pipe : Nat)
  /-- The end of a pipe where bytes go in. -/
  | writer (pipe : Nat)
deriving DecidableEq, Repr

/-- Bytes on their way from one process to another one. -/
structure Pipe where
  /-- The bytes that come out next. -/
  ready : List UInt8
  /-- The pieces that went in after these, last one first. -/
  added : List (List UInt8)
  /-- How many bytes there are. -/
  size : Nat
deriving Repr

namespace Pipe

/-- A pipe with some bytes in it. -/
def ofBytes (bytes : List UInt8) : Pipe := ⟨bytes, [], bytes.length⟩

/-- How many bytes a pipe holds at most. -/
def capacity : Nat := 65536

/-- Puts bytes in. -/
def put (p : Pipe) (bytes : List UInt8) : Pipe :=
  { p with added := bytes :: p.added, size := p.size + bytes.length }

/-- Takes at most `n` bytes out. -/
def take (p : Pipe) (n : Nat) : List UInt8 × Pipe :=
  let all := if p.added.isEmpty then p.ready else p.ready ++ p.added.reverse.flatten
  (all.take n, ⟨all.drop n, [], p.size - n⟩)

end Pipe

/-- What a variable holds. -/
inductive Holding where
  | text (t : Text)
  /-- Texts at places, in the order of the places. -/
  | list (items : List (Nat × Text))
  /-- Texts under keys, last one first. -/
  | table (entries : List (Text × Text))
deriving DecidableEq, Repr

/-- What kind of thing a variable holds. -/
inductive Shape where
  | text
  | list
  | table
deriving DecidableEq, Repr

/-- What becomes of the values of a variable. -/
structure Traits where
  /-- What it holds as soon as it is set. -/
  shape : Shape := .text
  /-- They are computed. -/
  isInteger : Bool := false
  /-- Their letters are altered. -/
  casing : Option Casing := none
  /-- They name the variable that is meant. -/
  isReference : Bool := false
deriving DecidableEq, Repr

/-- A variable. -/
structure Variable where
  /-- What it holds, if it is set. -/
  holding : Option Holding
  /-- It is told to other processes. -/
  exported : Bool
  /-- It cannot be altered. -/
  fixed : Bool
  traits : Traits
deriving Repr

namespace Variable

/-- The key of the text that stands for a whole table. -/
def firstKey : Text := ['0']

/-- The text that a variable stands for, if it is set: its own one, or the first one of several. -/
def value (v : Variable) : Option Text :=
  match v.holding with
  | none => none
  | some (.text t) => some t
  | some (.list items) => items.lookup 0
  | some (.table entries) => entries.lookup firstKey

/-- What it holds, which is nothing yet if it is not set. -/
def content (v : Variable) : Option Holding :=
  match v.holding, v.traits.shape with
  | some h, _ => some h
  | none, .list => some (.list [])
  | none, .table => some (.table [])
  | none, .text => none

/-- It holds texts under keys. -/
def isTable (v : Variable) : Bool :=
  match v.content with
  | some (.table _) => true
  | _ => false

/-- A variable with a text, if it is set. -/
def ofText (value : Option Text) (exported fixed : Bool) : Variable :=
  ⟨value.map .text, exported, fixed, {}⟩

/-- A variable that is told to other processes. -/
def told (value : Text) : Variable := ofText (some value) true false

end Variable

/-- Where the search for options among arguments goes on. -/
structure OptionPlace where
  /-- The number of the next argument. -/
  index : Nat
  /-- How much of the argument before it has been looked at, if more of it may be. -/
  offset : Option Nat
deriving DecidableEq, Repr

/-- Where the search for options begins. -/
def OptionPlace.first : OptionPlace := ⟨1, none⟩

/-- The limits of a resource. -/
structure Limit where
  /-- How much of it may be used, if there is an end to it. -/
  counted : Option Nat
  /-- Up to what that may be raised. -/
  greatest : Option Nat
deriving DecidableEq, Repr

/-- A command that a process has begun without waiting for it, as the process knows it. -/
structure Child where
  /-- The number by which it is called. -/
  number : Nat
  /-- Its process, the last one if there are several. -/
  id : Nat
  /-- How many processes it has. -/
  stages : Nat
  /-- Its end has been noticed. -/
  isNoticed : Bool
  /-- It has been waited for. -/
  isWaitedFor : Bool
  /-- How it is shown, where that may be asked for. -/
  shown : Text
deriving DecidableEq, Repr

/-- What a process keeps track of only in the extended language. -/
structure Extras where
  /-- The names of the settings that are on. -/
  settings : List Text := []
  /-- The exit codes of the commands of the last pipeline. -/
  statuses : List Int := []
  /-- The functions that are being called, the last one first, with the lines of their calls. -/
  callers : List (Text × Nat) := []
  /-- The files of commands that are being carried out, the last one first. -/
  sources : List Text := []
  /-- The directories to which the process may return. -/
  directories : List Text := []
  /-- How often the programs that were found by their names have been run. -/
  hits : List (Text × Nat) := []
  /-- The last argument of the last command. -/
  last : Text := []
  /-- The process was told its script by an argument. -/
  isTold : Bool := false
  /-- The process carries out a file. -/
  hasFile : Bool := false
  /-- How deep texts are nested that are carried out. -/
  depth : Nat := 0
  /-- What is prepared for something is being carried out. -/
  isInTrap : Bool := false
  /-- The command that is carried out, as it is shown. -/
  current : Text := []
  /-- Where the sequence of numbers by chance stands. -/
  chance : Nat := 0
  /-- The time from which seconds are counted, in microseconds. -/
  origin : Int := 0

/-- A process that runs scripts. -/
structure Process where
  /-- The language of its scripts. -/
  language : Language
  /-- The name under which it reports errors. -/
  name : Text
  /-- The command that has a text carried out, if one does; errors in the text are told in its
  name. -/
  speaker : Option Text
  /-- The line of the command that it carries out. -/
  line : Nat
  directory : NodeId
  /-- The path of the directory, by the way that led there. -/
  path : Text
  bindings : List (Text × Variable)
  arguments : List Text
  functions : List (Text × Script)
  /-- The words that stand for other texts, first one first. -/
  aliases : List (Text × Text)
  options : OptionPlace
  /-- The programs that were found by their names, with their paths. -/
  found : List (Text × Text)
  /-- The scripts prepared for signals; number zero is for the end. -/
  traps : List (Signal × Text)
  /-- The exit code of the last command. -/
  status : Int
  /-- The exit code of the last script whose output was captured. -/
  capturedStatus : Int
  /-- The process that the script takes itself for. -/
  shell : Nat
  /-- The process itself. -/
  id : Nat
  /-- The processes that wait for this one, nearest first. -/
  ancestors : List Nat
  /-- The last command that was not waited for. -/
  background : Option Nat
  /-- The commands that it has begun without waiting for them, last one first. -/
  children : List Child
  /-- The channels of the descriptors. -/
  descriptors : List (Nat × Nat)
  /-- The channels to which its descriptors will be connected again.  Programs do not get them. -/
  setAside : List Nat
  /-- The letters of the switches that are on. -/
  switches : Text
  /-- A failure is looked at, so that it cannot end the process. -/
  tolerant : Bool
  /-- Within a function, the variables that are its own, with what they were outside. -/
  locals : Option (List (Text × Option Variable))
  /-- Within a function that has switches of its own, the letters that are on outside. -/
  ownSwitches : Option Text
  /-- The permissions that new files do not get. -/
  mask : Nat
  /-- The limits of resources that have been altered. -/
  limits : List (Char × Limit)
  /-- How many loops are open. -/
  loops : Nat
  /-- How many functions are being called. -/
  calls : Nat
  /-- The command that is carried out is the last thing that the process does. -/
  isLast : Bool
  /-- The time that it has come to, in microseconds. -/
  time : Nat
  /-- What it has printed as a tool and not yet written, last piece first. -/
  pending : List (List UInt8)
  /-- How many bytes these are. -/
  pendingSize : Nat
  extras : Extras

/-- A switch is on. -/
def Process.isOn (p : Process) (letter : Char) : Bool :=
  p.switches.contains letter

/-- Scripts are prepared for signals or for the end of the process. -/
def Process.isPrepared (p : Process) : Bool :=
  p.traps.any (!·.2.isEmpty)

/-- How a process has ended. -/
structure Ending where
  code : Int
  /-- The signal that it died by, if it did. -/
  signal : Option Signal
deriving DecidableEq, Repr

/-- A machine. -/
structure Machine where
  files : FileTree
  channels : Array Channel
  pipes : Array Pipe
  /-- The pipes of the nodes through which processes are connected. -/
  meetings : List (NodeId × Nat)
  /-- What was written to the shared streams, last piece first. -/
  printed : List (Stream × List UInt8)
  /-- Signals on their way, with the processes they are for. -/
  signals : List (Nat × Signal)
  /-- The processes that have ended and that nobody has waited for. -/
  ended : List (Nat × Ending)
  /-- The processes that wait for their turn. -/
  others : List Process
  /-- Something could not be written since the last command began. -/
  lost : Option FileFault
  nextId : Nat
  /-- The process whose turn it is. -/
  process : Process

/-- What a process may wait for. -/
inductive Occasion where
  /-- Its turn. -/
  | turn
  /-- Something to be read from a pipe, or that nobody can write to it any more. -/
  | input (pipe : Nat)
  /-- Room in a pipe, or that nobody can read from it any more. -/
  | room (pipe : Nat)
  /-- Somebody who can read from a pipe. -/
  | reader (pipe : Nat)
  /-- Somebody who can write to a pipe, or has done so. -/
  | writer (pipe : Nat)
  /-- The end of one of some processes. -/
  | ending (ids : List Nat)
  /-- Nothing that could happen. -/
  | never
deriving DecidableEq, Repr

/-- What a process waits for, and for how long. -/
structure Wait where
  occasion : Occasion
  /-- The time at which it does not wait any longer. -/
  deadline : Option Nat
  /-- A signal that the process has prepared for ends the waiting. -/
  interruptible : Bool
deriving DecidableEq, Repr

namespace Wait

/-- Waits for an occasion, for as long as it takes. -/
def forOccasion (occasion : Occasion) : Wait := ⟨occasion, none, false⟩

end Wait

namespace Machine

/-- A process has a channel. -/
def isHeldBy (m : Machine) (channel : Channel) (p : Process) : Bool :=
  (p.descriptors.any fun entry => m.channels[entry.2]? = some channel) ||
    p.setAside.any fun n => m.channels[n]? = some channel

/-- Some process has a channel. -/
def isHeld (m : Machine) (channel : Channel) : Bool :=
  m.isHeldBy channel m.process || m.others.any (m.isHeldBy channel)

/-- How many bytes are in a pipe. -/
def pipeSize (m : Machine) (pipe : Nat) : Nat :=
  (m.pipes[pipe]?.map Pipe.size).getD 0

/-- An occasion is there. -/
def isThere (m : Machine) : Occasion → Bool
  | .turn => true
  | .input pipe => 0 < m.pipeSize pipe || !m.isHeld (.writer pipe)
  | .room pipe => m.pipeSize pipe < Pipe.capacity || !m.isHeld (.reader pipe)
  | .reader pipe => m.isHeld (.reader pipe)
  | .writer pipe => 0 < m.pipeSize pipe || m.isHeld (.writer pipe)
  | .ending ids => ids.any fun id => (m.ended.lookup id).isSome
  | .never => false

/-- The process has prepared for a signal that is on its way. -/
def isCalled (m : Machine) (p : Process) : Bool :=
  m.signals.any fun signal =>
    signal.1 = p.id && (p.traps.lookup signal.2).any (!·.isEmpty)

/-- The signal that the process is about to die by, if there is one. -/
def fatal? (m : Machine) (p : Process) : Option Signal :=
  (m.signals.find? fun signal =>
    signal.1 = p.id && (signal.2 = Signal.kill ||
      ((p.traps.lookup signal.2).isNone && !Signal.isHarmless signal.2))).map Prod.snd

end Machine

/-- Why a process does not go on with its script. -/
inductive Flow where
  /-- It ends, with the exit code that it has. -/
  | leave
  /-- A command has failed in a way that ends the process, unless the command is one that is
  forgiven. -/
  | failed
  /-- It leaves a function. -/
  | giveBack
  /-- It leaves a number of loops. -/
  | leaveLoops (n : Nat)
  /-- It goes on with the next round of a loop. -/
  | nextRound (n : Nat)
  /-- It drops the rest of the line. -/
  | dropLine
  /-- It dies by a signal. -/
  | killed (s : Signal)
deriving DecidableEq, Repr

end LineShell.Sh
