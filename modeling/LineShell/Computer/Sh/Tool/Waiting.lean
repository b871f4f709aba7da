import LineShell.Computer.Number.Written
import LineShell.Computer.Sh.Tool.Basic

/-!
# Tools that let time pass

Intervals of time are numbers of seconds, or of a greater unit whose letter stands at the end.
-/

namespace LineShell.Sh.Tool

/-- An interval of time. -/
inductive Interval where
  | microseconds (n : Nat)
  | endless
deriving DecidableEq, Repr

namespace Interval

/-- The units of time, in seconds. -/
def units : List (Char × Nat) :=
  [('s', 1), ('m', 60), ('h', 3600), ('d', 86400)]

/-- The interval that a text names. -/
def ofText? (t : Text) : Option Interval := do
  let (x, rest) ← Binary.ofText? .usual t
  let unit ←
    match rest with
    | [] => some 1
    | [c] => units.lookup c
    | _ => none
  match x.value with
  | .finite negative significand exponent =>
    if negative ∧ significand ≠ 0 then none
    else
      let (n, d) := scaled 2 significand 1 exponent
      return .microseconds ((n * unit * 1000000 + d - 1) / d)
  | .infinite false => return .endless
  | _ => none

/-- One interval after another one. -/
def plus : Interval → Interval → Interval
  | .microseconds m, .microseconds n => .microseconds (m + n)
  | _, _ => .endless

/-- The moment after which an interval that begins now has passed. -/
def deadline? (now : Nat) : Interval → Option Nat
  | .microseconds n => some (now + n)
  | .endless => none

end Interval

/-- Complains of a text that names no interval. -/
def refuseInterval (t : Text) : Text :=
  "invalid time interval ".toList ++ Quoting.word t

/-- Lets time pass. -/
def sleep (_ : Given) (operands : List Text) : Task Int := do
  if operands.isEmpty then return ← refuse "missing operand".toList 1
  let faulty := operands.filter fun t => (Interval.ofText? t).isNone
  for t in faulty do
    complain (refuseInterval t)
  if ¬ faulty.isEmpty then
    pointToHelp
    return 1
  let interval := (operands.filterMap Interval.ofText?).foldl Interval.plus (.microseconds 0)
  Task.wait ⟨.never, interval.deadline? (← Task.process).time, false⟩
  return 0

end LineShell.Sh.Tool
