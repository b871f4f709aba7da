import LineShell.Computer.Sh.Task

/-!
# Who has the next turn

Processes take turns.  Whoever waits for something that has happened, or has waited long enough, is
due at some time, and the one that is due first goes on until it waits again.  A process that gets a
signal for which it has not prepared has no more turns.
-/

namespace LineShell.Sh

/-- A process that waits, and what it does afterwards. -/
structure Thread where
  id : Nat
  wait : Wait
  /-- When what it waits for has happened, if it has. -/
  happened : Option Nat
  rest : Machine → Step

namespace Thread

/-- When the process has its turn at the latest, if nothing else happens. -/
def due? (t : Thread) : Option Nat :=
  match t.happened, t.wait.deadline with
  | some m, some n => some (min m n)
  | some m, none => some m
  | none, deadline => deadline

/-- The first of those processes whose turns come first. -/
def next? : List Thread → Option (Nat × Thread)
  | [] => none
  | t :: ts =>
    match t.due?, next? ts with
    | none, later => later
    | some n, none => some (n, t)
    | some n, some (m, u) => if n ≤ m then some (n, t) else some (m, u)

end Thread

/-- A machine with the processes that wait. -/
structure Schedule where
  machine : Machine
  threads : List Thread

namespace Schedule

/-- Notes for whom it has happened by now what they wait for. -/
def observe (s : Schedule) (now : Nat) : Schedule :=
  let m := s.machine
  let note (t : Thread) : Thread :=
    match t.happened, m.others.find? (·.id = t.id) with
    | none, some p =>
      if m.isThere t.wait.occasion || (t.wait.interruptible && m.isCalled p) then
        { t with happened := some (max now p.time) }
      else t
    | _, _ => t
  { s with threads := s.threads.map note }

/-- A process dies by a signal while it waits. -/
def bury (s : Schedule) (p : Process) (signal : Signal) : Schedule :=
  let m := s.machine
  { machine := { m with
      others := m.others.filter (·.id ≠ p.id)
      signals := m.signals.filter (·.1 ≠ p.id)
      ended := (p.id, ⟨Signal.exitCode signal, some signal⟩) :: m.ended }
    threads := s.threads.filter (·.id ≠ p.id) }

/-- All processes die that have got signals for which they have not prepared. -/
def buryAll (s : Schedule) : Schedule :=
  if s.machine.signals.isEmpty then s
  else
    s.machine.others.foldl (fun s p =>
      match s.machine.fatal? p with
      | some signal => s.bury p signal
      | none => s) s

/-- A process has come to a step, where some others wait. -/
def after (threads : List Thread) : Step → Schedule
  | .over m =>
    { machine := { m with process := { m.process with descriptors := [], setAside := [] } }, threads }
  | .pause m wait rest =>
    { machine := { m with others := m.process :: m.others }
      threads := threads ++ [⟨m.process.id, wait, none, rest⟩] }
  | .fork m newborn child rest =>
    { machine := { m with others := newborn :: m.process :: m.others }
      threads := threads ++
        [⟨m.process.id, .forOccasion .turn, none, rest⟩,
          ⟨newborn.id, .forOccasion .turn, none, child⟩] }

/-- One process has its turn, unless all wait for what cannot happen. -/
def turn (s : Schedule) : Option Schedule :=
  match Thread.next? s.threads with
  | none => none
  | some (time, t) =>
    let m := s.machine
    let others := s.threads.filter (·.id ≠ t.id)
    match m.others.find? (·.id = t.id) with
    | none => some { s with threads := others }
    | some p =>
      let isDue := t.wait.deadline.any (· ≤ time) || m.isThere t.wait.occasion ||
        (t.wait.interruptible && m.isCalled p)
      if ¬ isDue then
        some { s with threads := others ++ [{ t with happened := none }] }
      else
        let m := { m with
          process := { p with time := max p.time time }
          others := m.others.filter (·.id ≠ t.id) }
        let s := after others (t.rest m)
        some (s.buryAll.observe s.machine.process.time)

/-- Processes have their turns until enough has happened, at most as many as given. -/
def run (isEnough : Schedule → Bool) : Nat → Schedule → Schedule
  | 0, s => s
  | fuel + 1, s =>
    if isEnough s then s
    else
      match s.turn with
      | some s => run isEnough fuel s
      | none => s

/-- A process joins those that wait for their turn. -/
def join (s : Schedule) (p : Process) (task : Task Unit) : Schedule :=
  let s : Schedule :=
    { machine := { s.machine with others := p :: s.machine.others }
      threads := s.threads ++ [⟨p.id, .forOccasion .turn, none, task fun _ => .over⟩] }
  s.observe p.time

end Schedule

end LineShell.Sh
