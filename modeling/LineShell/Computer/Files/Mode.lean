import LineShell.Computer.Text.Integer

/-!
# Permissions

Permissions are twelve bits: who may read, write and run a file, in three groups, and three marks of
their own.  They are written as octal digits or as changes of what they are: letters for the groups,
an operation, and letters for what is allowed.
-/

namespace LineShell.Mode

/-- All bits. -/
def all : Nat := 0o7777

/-- The bits that tell who may run a file. -/
def running : Nat := 0o111

/-- Three letters for one group, where a mark of its own shows in the last one. -/
def groupShown (bits : Nat) (isMarked : Bool) (mark : Char) : Text :=
  [if bits / 4 % 2 = 1 then 'r' else '-', if bits / 2 % 2 = 1 then 'w' else '-',
    match bits % 2 == 1, isMarked with
    | true, false => 'x'
    | false, false => '-'
    | true, true => mark
    | false, true => mark.toUpper]

/-- Permissions as letters. -/
def shown (mode : Nat) : Text :=
  groupShown (mode / 64 % 8) (mode / 2048 % 2 = 1) 's' ++
    groupShown (mode / 8 % 8) (mode / 1024 % 2 = 1) 's' ++
    groupShown (mode % 8) (mode / 512 % 2 = 1) 't'

/-- Permissions as octal digits, at least as many as given. -/
def octal (least : Nat) (mode : Nat) : Text :=
  let digits := Nat.toDigits 8 mode
  List.replicate (least - digits.length) '0' ++ digits

/-- What a change allows or forbids. -/
inductive Granted where
  /-- Some bits in all groups. -/
  | bits (value : Nat)
  /-- What some groups have already. -/
  | copied (groups : Nat)
  /-- Some bits, and to run what may be run by somebody or is a directory. -/
  | runnable (value : Nat)
deriving DecidableEq, Repr

/-- One step of a change. -/
structure Step where
  op : Char
  /-- The bits of the groups that it is about; zero if none are named. -/
  affected : Nat
  granted : Granted
  /-- Bits that count as named even where they stay. -/
  mentioned : Nat
deriving DecidableEq, Repr

/-- The bits of a group's letter. -/
def groupBits? (c : Char) : Option Nat :=
  match c with
  | 'u' => some 0o4700
  | 'g' => some 0o2070
  | 'o' => some 0o1007
  | 'a' => some all
  | _ => none

/-- The bits of a letter in all groups. -/
def grantBits? (c : Char) : Option Nat :=
  match c with
  | 'r' => some 0o444
  | 'w' => some 0o222
  | 'x' => some 0o111
  | 's' => some 0o6000
  | 't' => some 0o1000
  | 'X' => some 0
  | _ => none

/-- What the letters after an operation grant, and what follows them. -/
def granted (t : Text) : Option (Granted × Nat × Text) :=
  match t with
  | c :: rest =>
    if '0' ≤ c ∧ c ≤ '7' then
      let digits := t.takeWhile fun c => '0' ≤ c && c ≤ '7'
      let value := digitsIn 8 digits
      if all < value then none else some (.bits value, all, t.drop digits.length)
    else if c = 'u' ∨ c = 'g' ∨ c = 'o' then
      some (.copied (((groupBits? c).getD 0) &&& 0o777), 0, rest)
    else letters
  | [] => letters
where
  /-- Letters of what is granted. -/
  letters : Option (Granted × Nat × Text) :=
    let ls := t.takeWhile fun c => (grantBits? c).isSome
    let value := (ls.filterMap grantBits?).foldl (· ||| ·) 0
    some (if ls.contains 'X' then .runnable value else .bits value, 0, t.drop ls.length)

/-- The operations of one clause, at most as many as given. -/
def operations (affected : Nat) : (fuel : Nat) → Text → Option (List Step)
  | 0, _ => none
  | fuel + 1, t =>
    match t with
    | op :: rest =>
      if op = '+' ∨ op = '-' ∨ op = '=' then do
        let (what, mentioned, rest) ← granted rest
        if mentioned ≠ 0 ∧ affected ≠ 0 then none
        else
          let step : Step := ⟨op, affected, what, mentioned⟩
          if rest.isEmpty then some [step] else return step :: (← operations affected fuel rest)
      else none
    | [] => none

/-- The steps of one clause. -/
def clause (t : Text) : Option (List Step) :=
  let groups := t.takeWhile fun c => (groupBits? c).isSome
  operations ((groups.filterMap groupBits?).foldl (· ||| ·) 0) (t.length + 1) (t.drop groups.length)

/-- The clauses between commas. -/
def clauses : List Text → Option (List Step)
  | [] => some []
  | t :: ts => do return (← clause t) ++ (← clauses ts)

/-- The change that a text describes. -/
def change? (t : Text) : Option (List Step) :=
  if t.head?.any fun c => '0' ≤ c && c ≤ '7' then
    if t.all fun c => '0' ≤ c && c ≤ '7' then
      let value := digitsIn 8 t
      if all < value then none
      else some [⟨'=', all, .bits value, if t.length < 5 then (value &&& 0o7000) ||| 0o777 else all⟩]
    else none
  else
    let (parts, last) := t.foldr (fun c (acc : List Text × Text) =>
      if c = ',' then (acc.2 :: acc.1, []) else (acc.1, c :: acc.2)) ([], [])
    clauses (last :: parts)

/-- The bits of some permissions that others do not have. -/
def without (mode bits : Nat) : Nat :=
  mode &&& (all ^^^ (bits &&& all))

/-- The permissions after one step. -/
def Step.applied (isDirectory : Bool) (mask : Nat) (s : Step) (mode : Nat) : Nat :=
  let value := match s.granted with
    | .bits value => value
    | .copied groups =>
      let kept := groups &&& mode
      let spread (bits : Nat) : Nat := if kept &&& bits ≠ 0 then bits else 0
      kept ||| spread 0o444 ||| spread 0o222 ||| spread 0o111
    | .runnable value =>
      if (mode &&& running) ≠ 0 || isDirectory then value ||| running else value
  let named := if s.mentioned ≠ 0 then s.mentioned
    else if s.affected ≠ 0 then s.affected &&& value else value
  let kept := if isDirectory then without 0o6000 named else 0
  let value := without (value &&& (if s.affected ≠ 0 then s.affected else without all mask)) kept
  match s.op with
  | '=' =>
    let preserved := (if s.affected ≠ 0 then without all s.affected else 0) ||| kept
    (mode &&& preserved) ||| value
  | '+' => mode ||| value
  | _ => without mode value

/-- The permissions after a change. -/
def applied (isDirectory : Bool) (mask : Nat) (steps : List Step) (mode : Nat) : Nat :=
  steps.foldl (fun mode s => s.applied isDirectory mask mode) mode

end LineShell.Mode
