import LineShell.Computer.Sh.Machine

/-!
# What processes do

A `Task` is what a process does on a machine.  It may end early, because the process leaves or dies
or because a loop or a function is left.  A task does not run to its end at once: it comes to a
`Step`, where the process waits for something or begins another one, and what is left of it goes on
when its turn has come.  So a task is given what is to be done with its result, and tasks are a
monad, with machines as states and with the reasons for ending early as exceptions.
-/

namespace LineShell.Sh

/-- Where a process has come to. -/
inductive Step where
  /-- It has ended. -/
  | over (m : Machine)
  /-- It waits, and then goes on. -/
  | pause (m : Machine) (wait : Wait) (rest : Machine → Step)
  /-- It begins another process, and goes on. -/
  | fork (m : Machine) (newborn : Process) (child rest : Machine → Step)

/-- What a process does to come to a result or to end early. -/
def Task (α : Type) : Type :=
  (Except Flow α → Machine → Step) → Machine → Step

namespace Task

variable {α β : Type}

/-- Comes to a result at once. -/
@[inline] protected def pure (a : α) : Task α :=
  fun next => next (.ok a)

/-- Does one task after another; where the first one ends early both do. -/
@[inline] protected def bind (task : Task α) (f : α → Task β) : Task β :=
  fun next => task fun
    | .ok a => f a next
    | .error flow => next (.error flow)

instance : Monad Task where
  pure := Task.pure
  bind := Task.bind

instance : MonadStateOf Machine Task where
  get := fun next m => next (.ok m) m
  set m := fun next _ => next (.ok ⟨⟩) m
  modifyGet f := fun next m => next (.ok (f m).1) (f m).2

instance : MonadExceptOf Flow Task where
  throw flow := fun next => next (.error flow)
  tryCatch task handle := fun next => task fun
    | .ok a => next (.ok a)
    | .error flow => handle flow next

theorem bind_eq (task : Task α) (f : α → Task β) : task >>= f = Task.bind task f := rfl

instance : LawfulMonad Task := LawfulMonad.mk' _
  (fun task => by
    funext next
    refine congrArg task ?_
    funext result
    cases result <;> rfl)
  (fun _ _ => rfl)
  (fun task f g => by
    funext next
    refine congrArg task ?_
    funext result
    cases result <;> rfl)

/-- Does a task and gives how it ended. -/
def ending (task : Task α) : Task (Except Flow α) :=
  fun next => task fun result => next (.ok result)

/-- Does a task and then another one, however the first one ended. -/
def andAfterwards (task : Task α) (last : Task Unit) : Task α := do
  let result ← ending task
  last
  match result with
  | .ok a => return a
  | .error flow => throw flow

/-- Waits. -/
def wait (w : Wait) : Task Unit :=
  fun next m => .pause m w (next (.ok ()))

/-- Waits for an occasion. -/
def await (occasion : Occasion) : Task Unit :=
  wait (.forOccasion occasion)

/-- The process whose turn it is. -/
def process : Task Process := do
  return (← get).process

/-- Alters the process. -/
def modifyProcess (f : Process → Process) : Task Unit :=
  modify fun m => { m with process := f m.process }

/-- Passes time. -/
def spend (time : Nat) : Task Unit := do
  modifyProcess fun p => { p with time := p.time + time }
  await .turn

/-- How much time passes until a process has begun another one, in microseconds. -/
def forkTime : Nat := 60

/-- How much time passes from there until the other one does something. -/
def birthTime : Nat := 120

/-- Begins another process, which starts as `start` says, and gives its number. -/
def fork (start : Process → Process) (body : Task Unit) : Task Nat :=
  fun next m =>
    let p := { m.process with time := m.process.time + forkTime }
    let id := m.nextId
    let newborn := start { p with
      id
      ancestors := p.id :: p.ancestors
      children := []
      pending := []
      pendingSize := 0
      isLast := true
      time := p.time + birthTime }
    .fork { m with nextId := id + 1, process := p } newborn (body fun _ => .over) (next (.ok id))

/-- Sets the exit code of the last command. -/
def setStatus (n : Int) : Task Unit :=
  modifyProcess fun p => { p with status := n }

/-- The file tree as it is. -/
def files : Task FileTree := do
  return (← get).files

/-- The present moment, as files remember it. -/
def now : Task Int := do
  return ((← process).time / 4000 * 4000 : Nat)

/-- Alters the file tree, unless that is refused. -/
def alterFiles (f : FileTree → (directory : NodeId) → (now : Int) → Except FileFault FileTree) :
    Task (Except FileFault Unit) := do
  let m ← get
  match f m.files m.process.directory (← now) with
  | .ok files =>
    modify fun m => { m with files }
    return .ok ()
  | .error fault => return .error fault

/-- Replaces the entry of a name, or adds one at the end. -/
def assign {κ α : Type} [DecidableEq κ] (name : κ) (value : α) (entries : List (κ × α)) :
    List (κ × α) :=
  if (entries.lookup name).isSome then
    entries.map fun entry => if entry.1 = name then (name, value) else entry
  else entries ++ [(name, value)]

end Task

end LineShell.Sh
