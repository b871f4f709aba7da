import LineShell.Computer.Sh.Tool.Basic

/-!
# Lines taken one by one

Some tools take lines when they need them, and want to know beforehand whether there are more.
-/

namespace LineShell.Sh.Tool

/-- Lines that are taken from a descriptor one by one. -/
structure Intake where
  descriptor : Nat
  /-- The bytes that have been taken and not been given yet. -/
  ahead : List UInt8
  /-- There are no more bytes than these. -/
  isEnded : Bool

namespace Intake

/-- Nothing has been taken yet. -/
def ofDescriptor (descriptor : Nat) : Intake := ⟨descriptor, [], false⟩

/-- Takes bytes until there are `enough`, or until there are no more. -/
def filled (enough : List UInt8 → Bool) : (fuel : Nat) → Intake → Task (Except FileFault Intake)
  | 0, s => return .ok s
  | fuel + 1, s => do
    if s.isEnded || enough s.ahead then return .ok s
    match ← Task.take s.descriptor Task.blockSize with
    | .error fault => return .error fault
    | .ok [] => return .ok { s with isEnded := true }
    | .ok bytes =>
      let ahead := if s.ahead.isEmpty then bytes else s.ahead ++ bytes
      filled enough fuel { s with ahead }

/-- Takes bytes until it is known whether there is one more. -/
def looked (s : Intake) : Task (Except FileFault Intake) :=
  filled (!·.isEmpty) Task.blockLimit s

/-- The next line and whether what ends it is there, and what is left then. -/
def next (s : Intake) (ending : UInt8) :
    Task (Except FileFault (Option (List UInt8 × Bool) × Intake)) := do
  match ← filled (·.contains ending) Task.blockLimit s with
  | .error fault => return .error fault
  | .ok s =>
    match cutLine? ending [] s.ahead with
    | some (line, rest) => return .ok (some (line, true), { s with ahead := rest })
    | none =>
      if s.ahead.isEmpty then return .ok (none, s)
      return .ok (some (s.ahead, false), { s with ahead := [] })

/-- Leaves what has not been given to others. -/
def release (s : Intake) : Task Unit :=
  Task.giveBack s.descriptor s.ahead.length

end Intake

end LineShell.Sh.Tool
