import LineShell.Computer.Sh.Tool.Basic
import LineShell.Computer.Sh.Tool.Show
import LineShell.Computer.Sh.Tool.Size

/-!
# The tool that compares bytes

The first byte in which two files differ is told, or all of them.
-/

namespace LineShell.Sh.Tool

/-- Points to help, under the name of the tool. -/
def announceHelp : Task Unit := do
  let name := (← Task.process).name
  complain ("Try '".toList ++ name ++ " --help' for more information.".toList)

/-- Complains that the tool is called in a wrong way, under its name, and fails. -/
def refuseNamed (message : Text) : Task Int := do
  complain message
  announceHelp
  return 2

namespace Difference

/-- How the tool takes options. -/
def forms : List OptionForm :=
  OptionForm.flags [('b', "print-bytes"), ('l', "verbose"), ('s', "silent")] ++
    OptionForm.names ["quiet"] ++ OptionForm.valuedFlags [('i', "ignore-initial"), ('n', "bytes")]

/-- A byte as it is written so that it shows. -/
def shown (b : UInt8) : Text :=
  Raw.ofBytes (shownByte true true b)

/-- A byte in octal digits, brought to a width. -/
def octal (b : UInt8) : Text :=
  let t := Nat.toDigits 8 b.toNat
  List.replicate (3 - t.length) ' ' ++ t

/-- How many bytes of each file are passed over. -/
def skipsOf (t : Text) : Except Text (Nat × Nat) :=
  let fault (t : Text) : Text := "invalid --ignore-initial value '".toList ++ t ++ ['\'']
  let first := t.takeWhile (· ≠ ':')
  let amount (t : Text) : Option Nat :=
    if t.isEmpty then none else (Amount.ofText "kKMGTPEZYm" t).toOption
  match t.drop first.length, amount first with
  | [], some n => .ok (n, n)
  | [], none => .error (fault t)
  | _ :: second, some m =>
    match amount second with
    | some n => .ok (m, n)
    | none => .error (fault second)
  | _, none => .error (fault t)

/-- What is asked for. -/
structure Wish where
  showsAll : Bool
  isSilent : Bool
  showsBytes : Bool
  /-- How many bytes are compared at most. -/
  limit : Option Nat
  first : Text
  second : Text
  skipFirst : Nat
  skipSecond : Nat

/-- What options and operands ask for. -/
def Wish.of (name : Text) (given : Given) (operands : List Text) : Except Text Wish := do
  let (m, n) ← match given.value? "i" with
    | some t => skipsOf t
    | none => pure (0, 0)
  let limit ← match given.value? "n" with
    | none => pure none
    | some t =>
      match if t.isEmpty then none else (Amount.ofText "kKMGTPEZYm" t).toOption with
      | some n => pure (some n)
      | none => throw ("invalid --bytes value '".toList ++ t ++ ['\''])
  let isSilent := given.has "s" || given.has "quiet"
  if isSilent ∧ given.has "l" then throw "options -l and -s are incompatible".toList
  let skipOf (t : Option Text) (otherwise : Nat) : Except Text Nat :=
    match t with
    | none => .ok otherwise
    | some t => do return (← skipsOf t).1
  match operands with
  | [] => throw ("missing operand after '".toList ++ name ++ ['\''])
  | first :: rest =>
    let m ← skipOf rest[1]? m
    let n ← skipOf rest[2]? n
    if let some extra := rest[3]? then throw ("extra operand '".toList ++ extra ++ ['\''])
    return ⟨given.has "l", isSilent, given.has "b", limit, first, rest.headD ['-'], m, n⟩

/-- The place of the first difference between bytes, and how many lines end before it. -/
def firstDifference? (place lines : Nat) : List UInt8 → List UInt8 →
    Option (Nat × Nat × UInt8 × UInt8)
  | a :: as, b :: bs =>
    if a = b then firstDifference? (place + 1) (if a = newline then lines + 1 else lines) as bs
    else some (place, lines, a, b)
  | _, _ => none

/-- Two descriptors are connected to the same place of one file. -/
def isSamePlace (m n : Nat) : Task Bool := do
  match ← Task.channel? m, ← Task.channel? n with
  | some (.file id offset ..), some (.file id' offset' ..) => return id = id' && offset = offset'
  | _, _ => return false

/-- Compares two files through descriptors. -/
def compare (w : Wish) (m n : Nat) : Task Int := do
  if (← isSamePlace m n) && w.skipFirst == w.skipSecond then return 0
  let bytesFrom (descriptor skip : Nat) (path : Text) : Task (Option (List UInt8)) := do
    match ← Task.takeAll descriptor with
    | .ok bytes =>
      let bytes := bytes.drop skip
      return some ((w.limit.map bytes.take).getD bytes)
    | .error fault =>
      complain (path ++ ": ".toList ++ fault.message)
      return none
  let isFile := (← Task.readsFile m) || (← Task.readsFile n)
  let some as ← bytesFrom m w.skipFirst w.first | return 2
  let some bs ← bytesFrom n w.skipSecond w.second | return 2
  let common := as.take bs.length
  let shorter := if as.length < bs.length then w.first else w.second
  let size := common.length
  let isSameSize := as.length = bs.length
  let endOf (more : Text) : Task Unit := do
    complain ("EOF on ".toList ++ shorter ++
      if size = 0 then " which is empty".toList
      else " after byte ".toList ++ numeral size ++ more)
  match firstDifference? 1 0 as bs with
  | none =>
    if isSameSize then return 0
    if w.isSilent then return 1
    if w.showsAll then endOf []
    else
      let lines := common.count newline
      endOf (if common.getLast? = some newline then ", line ".toList ++ numeral lines
        else ", in line ".toList ++ numeral (lines + 1))
    return 1
  | some (place, lines, a, b) =>
    if w.isSilent then return 1
    if w.showsAll then
      let greatest := if isFile then size else 9223372036854775807
      let width := (numeral greatest).length
      for (i, a, b) in (List.range size).zip (common.zip bs) do
        if a != b then
          let between (t : Text) : Text :=
            if w.showsBytes then ' ' :: t ++ List.replicate (4 - t.length) ' ' else []
          let ending : Text := if w.showsBytes then ' ' :: shown b else []
          printLine (inColumn width (i + 1) ++ ' ' :: octal a ++ between (shown a) ++ ' ' ::
            octal b ++ ending)
      if ¬ isSameSize then endOf []
    else
      let unit := if w.showsBytes then "byte " else "char "
      printLine (w.first ++ ' ' :: w.second ++ " differ: ".toList ++ unit.toList ++ numeral place ++
        ", line ".toList ++ numeral (lines + 1) ++
        if w.showsBytes then
          " is ".toList ++ octal a ++ ' ' :: shown a ++ ' ' :: octal b ++ ' ' :: shown b
        else [])
    return 1

end Difference

/-- Compares two files byte by byte. -/
def cmp (arguments : List Text) : Task Int := do
  match Given.read Difference.forms .free none arguments with
  | .error message => refuseNamed message
  | .ok (given, operands) =>
    match Difference.Wish.of (← Task.process).name given operands with
    | .error message => refuseNamed message
    | .ok w =>
      let opened ← withInput w.first fun m => withInput w.second fun n => Difference.compare w m n
      match opened with
      | .ok (.ok status) => return status
      | .ok (.error fault) =>
        if ¬ w.isSilent then complain (w.second ++ ": ".toList ++ fault.message)
        return 2
      | .error fault =>
        if ¬ w.isSilent then complain (w.first ++ ": ".toList ++ fault.message)
        return 2

end LineShell.Sh.Tool
