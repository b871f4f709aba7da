import LineShell.Computer.Number.Draw
import LineShell.Computer.Sh.Tool.Basic
import LineShell.Computer.Sh.Tool.Size

/-!
# The tool that shuffles lines

Lines, words or numbers are written in an order that is drawn, or each of them is drawn anew.
-/

namespace LineShell.Sh.Tool

namespace Shuffling

/-- How the tool takes options. -/
def usage : Usage :=
  .free (OptionForm.flags [('e', "echo")] ++ OptionForm.valuedFlags [('i', "input-range"),
    ('n', "head-count"), ('o', "output")] ++ OptionForm.valuedNames ["random-source"] ++
    OptionForm.flags [('r', "repeat"), ('z', "zero-terminated")])

/-- The greatest number of a range. -/
def greatest : Nat := 18446744073709551615

/-- The first and the last number of a range; the last one may be one less than the first one. -/
def rangeOf (t : Text) : Except AmountFault (Nat × Nat) := do
  let number (t : Text) : Except AmountFault (Nat × Text) :=
    let bare := t.dropWhile isSpace
    let bare := if bare.head? = some '+' then bare.drop 1 else bare
    let digits := bare.takeWhile Char.isDigit
    if digits.isEmpty then .error .malformed
    else if greatest < digitsValue digits then .error .tooGreat
    else .ok (digitsValue digits, bare.drop digits.length)
  let (low, rest) ← number t
  match rest with
  | '-' :: more =>
    let (high, rest) ← number more
    if ¬ rest.isEmpty then throw .malformed
    if high + 1 < low then throw .malformed
    return (low, high)
  | _ => throw .malformed

/-- Where what is written goes. -/
structure Wish where
  range : Option (Nat × Nat)
  isEcho : Bool
  repeats : Bool
  count : Option Nat
  output : Option Text
  source : Option Text
  ending : UInt8

/-- What options ask for. -/
def Wish.ofGiven (given : Given) : Except Misuse Wish := do
  let range ← match given.values "i" with
    | [] => pure none
    | [t] =>
      match rangeOf t with
      | .ok range => pure (some range)
      | .error fault =>
        throw (.ofValue ("invalid input range: ".toList ++ Quoting.word t ++ Amount.reason fault))
    | _ => throw (.ofValue "multiple -i options specified".toList)
  let counts ← (given.values "n").mapM fun t =>
    match Amount.ofText "" t with
    | .ok n => .ok n
    | .error .tooGreat => .ok greatest
    | .error .malformed =>
      .error (Misuse.ofValue ("invalid line count: ".toList ++ Quoting.word t))
  let only (key message : String) : Except Misuse (Option Text) :=
    match (given.values key).eraseDups with
    | [] => .ok none
    | [t] => .ok (some t)
    | _ => .error (.ofValue message.toList)
  let output ← only "o" "multiple output files specified"
  let source ← only "random-source" "multiple random sources specified"
  if given.has "e" && range.isSome then
    throw (.ofForm "cannot combine -e and -i options".toList)
  return {
    range
    isEcho := given.has "e"
    repeats := given.has "r"
    count := counts.min?
    output
    source
    ending := if given.has "z" then 0 else newline }

/-- The items that are written, in order, for lines that are there from the beginning. -/
def chosen (w : Wish) (n : Nat) (d : Draw) : Option (List Nat) := do
  if w.repeats then return []
  let wanted := min (w.count.getD n) n
  if wanted = 0 then return []
  return (← d.shuffle? wanted n).1

/-- As many lines as wanted, chosen while more of them come, and what is left to draw from. -/
def reservoir (wanted : Nat) (ls : List (List UInt8)) (d : Draw) :
    Option (Array (List UInt8) × Draw) := do
  let first := (ls.take wanted).toArray
  if first.size < wanted then return (first, d)
  let place (n : Nat) (d : Draw) : Option (Nat × Draw) := d.below? (n + 1) Draw.patience
  let (kept, d, n) ← (ls.drop wanted).foldlM (fun (kept, d, n) line => do
    let (j, d) ← place n d
    return (if j < wanted then kept.setIfInBounds j line else kept, d, n + 1)) (first, d, wanted)
  let (_, d) ← place n d
  return (kept, d)

/-- Writes lines. -/
def write (w : Wish) (ls : List (List UInt8)) : Task Int := do
  let bytes := ls.flatMap (· ++ [w.ending])
  match w.output with
  | none =>
    emit bytes
    return 0
  | some path =>
    match ← writeTo .output path bytes with
    | .ok () => return 0
    | .error fault =>
      complainAbout path fault
      return 1

/-- Draws lines again and again, at most as many as given. -/
def repeated (item : Nat → List UInt8) (n : Nat) (ending : UInt8) :
    (count : Nat) → Draw → Task (Option Unit)
  | 0, _ => return some ()
  | count + 1, d => do
    match d.below? n Draw.patience with
    | none => return none
    | some (i, d) =>
      emit (item i ++ [ending])
      if (← get).lost.isSome then return some ()
      repeated item n ending count d

/-- The bytes to draw from, or the exit code after a complaint. -/
def noiseOf (w : Wish) : Task (Except Int Noise) := do
  match w.source with
  | none =>
    let p ← Task.process
    return .ok (.endless (UInt64.ofNat (p.time * 31 + p.id)))
  | some path =>
    match ← bytesOf path with
    | .ok bytes => return .ok (.listed bytes)
    | .error .isDirectory =>
      complain (Quoting.word path ++ ": read error: Is a directory".toList)
      return .error 1
    | .error fault =>
      complainAbout path fault
      return .error 1

/-- The file has a size of its own, and is read as a whole. -/
def isSized (path : Text) : Task Bool := do
  if path ≠ ['-'] then
    match ← Task.openFree .input path with
    | .ok descriptor =>
      let isFile ← Task.readsFile descriptor
      Task.disconnect descriptor
      return isFile
    | .error _ => return false
  else Task.readsFile 0

/-- Shuffles lines, words or numbers. -/
def run (w : Wish) (operands : List Text) : Task Int := do
  let exhausted : Task Int := do
    complain (Quoting.word (w.source.getD []) ++ ": end of file".toList)
    return 1
  let path := operands.headD ['-']
  let input : Except FileFault (List (List UInt8)) ←
    if w.count = some 0 ∨ w.range.isSome then pure (.ok [])
    else if w.isEcho then pure (.ok (operands.map Raw.bytes))
    else do pure ((← bytesOf path).map (linesFrom w.ending []))
  match input with
  | .error .isDirectory =>
    complain "read error: Is a directory".toList
    return 1
  | .error fault =>
    complainAbout path fault
    return 1
  | .ok ls =>
    let isStream ← do
      if w.repeats || w.isEcho || w.range.isSome || w.count.all (· = 0) then pure false
      else do pure (!(← isSized path))
    match ← noiseOf w with
    | .error status => return status
    | .ok noise =>
      let d := Draw.ofNoise noise
      let items := ls.toArray
      let (low, n) : Nat × Nat := match w.range with
        | some (low, high) => (low, high + 1 - low)
        | none => (0, items.size)
      let item (i : Nat) : List UInt8 :=
        if w.range.isSome then Raw.bytes (numeral (low + i)) else items.getD i []
      if w.repeats then
        if w.count = some 0 then return 0
        if n = 0 then
          complain "no lines to repeat".toList
          return 1
        match ← repeated item n w.ending (w.count.getD Task.blockLimit) d with
        | some () => return 0
        | none => exhausted
      else if isStream then
        let result := do
          let (kept, d) ← reservoir (w.count.getD 0) ls d
          let order ← if kept.isEmpty then some [] else (d.shuffle? kept.size kept.size).map Prod.fst
          return order.map (kept.getD · [])
        match result with
        | some ls => write w ls
        | none => exhausted
      else
        match chosen w n d with
        | some order => write w (order.map item)
        | none => exhausted

end Shuffling

/-- Shuffles lines, words or numbers. -/
def shuf (given : Given) (operands : List Text) : Task Int := do
  match Shuffling.Wish.ofGiven given with
  | .error misuse => misuse.refuse 1
  | .ok w =>
    let allowed := if w.range.isSome then 0 else 1
    match operands[allowed]? with
    | some extra => if w.isEcho then Shuffling.run w operands else refuseExtra extra
    | none => Shuffling.run w operands

end LineShell.Sh.Tool
