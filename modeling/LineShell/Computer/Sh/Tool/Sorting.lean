import LineShell.Computer.Number.Binary
import LineShell.Computer.Sh.Tool.Basic
import LineShell.Text.Pieces

/-!
# Sorting

The tool that puts lines in order.  Lines are compared by keys, which are parts of them, one key
after another until there is a difference; an option says how the texts of a key are compared.
-/

namespace LineShell.Sh.Tool

/-- A decimal number as it is written. -/
structure Written where
  isNegative : Bool
  whole : Nat
  /-- The digits behind the point, without zeros at the end. -/
  part : Text
deriving DecidableEq, Repr

namespace Written

/-- The number at the beginning of a text, which is zero if none stands there, and what follows. -/
def ofText (t : Text) : Written × Text :=
  let t := t.dropWhile fun c => c = ' ' || c = '\t' || c = '\n'
  let (isNegative, t) : Bool × Text := match t with
    | '-' :: t => (true, t)
    | t => (false, t)
  let whole := t.takeWhile Char.isDigit
  let rest := t.drop whole.length
  let (part, rest) : Text × Text := match rest with
    | '.' :: r => (r.takeWhile Char.isDigit, r.dropWhile Char.isDigit)
    | r => ([], r)
  let part := (part.reverse.dropWhile (· = '0')).reverse
  (⟨isNegative, digitsValue whole, part⟩, rest)

/-- The number is zero. -/
def isZero (w : Written) : Bool := w.whole = 0 && w.part.isEmpty

/-- The order of two numbers without their signs. -/
def comparedSizes (a b : Written) : Ordering :=
  (compare a.whole b.whole).then
    (if a.part = b.part then .eq else if comesFirst a.part b.part then .lt else .gt)

/-- The order of two numbers. -/
def compared (a b : Written) : Ordering :=
  match a.isNegative && !a.isZero, b.isNegative && !b.isZero with
  | true, false => .lt
  | false, true => .gt
  | true, true => comparedSizes b a
  | false, false => comparedSizes a b

end Written

/-- How the texts of a key are compared. -/
structure Ordered where
  /-- Blanks in front do not count at the beginning of the key. -/
  skipsStart : Bool
  /-- Blanks in front do not count at the end of the key. -/
  skipsEnd : Bool
  /-- The letters of the other options. -/
  letters : Text
deriving DecidableEq, Repr

namespace Ordered

/-- A letter is among the options. -/
def has (o : Ordered) (c : Char) : Bool := o.letters.contains c

/-- Nothing is asked for. -/
def isDefault (o : Ordered) : Bool := o.letters.isEmpty && !o.skipsStart && !o.skipsEnd

/-- The options that do not go together, if there are such. -/
def conflict? (o : Ordered) : Option Text :=
  let kinds := "nghMVR".toList.countP o.has + if o.has 'd' || o.has 'i' then 1 else 0
  if 1 < kinds then some ("dfghiMnRV".toList.filter o.has) else none

end Ordered

/-- A part of lines by which they are compared. -/
structure SortKey where
  /-- The field at which it begins, from zero on, and the byte there. -/
  field : Nat
  byte : Nat
  /-- The field after which it ends and the number of bytes in the next one, if it ends at all. -/
  last : Option (Nat × Nat)
  ordered : Ordered
deriving DecidableEq, Repr

namespace SortKey

/-- The letters that say how texts are compared. -/
def orderLetters : Text := "bdfgihMnRrV".toList

/-- A number in the text of a key. -/
def count (what : String) (t : Text) : Except Text (Nat × Text) :=
  let digits := t.takeWhile Char.isDigit
  if digits.isEmpty then
    .error (what.toList ++ ": invalid count at start of ".toList ++ Quoting.word t)
  else .ok (digitsValue digits, t.drop digits.length)

/-- The key that a text describes. -/
def ofText (t : Text) : Except Text SortKey := do
  let bad {α : Type} (what : String) : Except Text α :=
    throw (what.toList ++ ": invalid field specification ".toList ++ Quoting.word t)
  let (field, rest) ← count "invalid number at field start" t
  if field = 0 then bad "field number is zero"
  let (byte, rest) ← match rest with
    | '.' :: r => do
      let (n, r) ← count "invalid number after '.'" r
      if n = 0 then bad "character offset is zero"
      pure (n - 1, r)
    | r => pure (0, r)
  let first := rest.takeWhile orderLetters.contains
  let rest := rest.drop first.length
  let (last, second, rest) ← match rest with
    | ',' :: r => do
      let (n, r) ← count "invalid number after ','" r
      if n = 0 then bad "field number is zero"
      let (byte, r) ← match r with
        | '.' :: r => count "invalid number after '.'" r
        | r => pure (0, r)
      let second := r.takeWhile orderLetters.contains
      pure (some (n - 1, byte), second, r.drop second.length)
    | r => pure (none, [], r)
  if ¬ rest.isEmpty then bad "stray character in field spec"
  return ⟨field - 1, byte, last, ⟨first.contains 'b', second.contains 'b',
    ((first ++ second).filter (· ≠ 'b')).eraseDups⟩⟩

/-- A byte separates words. -/
def isApart (c : Char) : Bool := c = ' ' || c = '\t' || c = '\n'

/-- What is left of a line after a number of fields. -/
def afterFields (separator : Option Char) : (n : Nat) → Text → Text
  | 0, t => t
  | n + 1, t =>
    match separator with
    | some c => afterFields separator n ((t.dropWhile (· ≠ c)).drop 1)
    | none => afterFields separator n ((t.dropWhile isApart).dropWhile (!isApart ·))

/-- What is left of a line where a key ends. -/
def afterLast (separator : Option Char) (skips : Bool) (field byte : Nat) (t : Text) : Text :=
  if byte = 0 then
    match separator with
    | some c => (afterFields separator field t).dropWhile (· ≠ c)
    | none => afterFields separator (field + 1) t
  else
    let rest := afterFields separator field t
    let rest := if skips then rest.dropWhile isApart else rest
    rest.drop byte

/-- The part of a line that is the key. -/
def part (separator : Option Char) (k : SortKey) (t : Text) : Text :=
  let rest := afterFields separator k.field t
  let rest := if k.ordered.skipsStart then rest.dropWhile isApart else rest
  let rest := rest.drop k.byte
  match k.last with
  | none => rest
  | some (field, byte) =>
    let after := afterLast separator k.ordered.skipsEnd field byte t
    rest.take (rest.length - after.length)

end SortKey

/-- The value of a key by which lines are compared. -/
inductive KeyValue where
  | text (t : Text)
  | number (n : Written)
  /-- A number with a unit. -/
  | sized (unit : Int) (n : Written)
  /-- A number that may have an exponent, or none. -/
  | general (rank : Nat) (n d : Int)
  | month (n : Nat)
  | version (t : Text)

namespace KeyValue

/-- The names of the months. -/
def months : List String :=
  ["JAN", "FEB", "MAR", "APR", "MAY", "JUN", "JUL", "AUG", "SEP", "OCT", "NOV", "DEC"]

/-- A number with an exponent as a fraction, after a rank that puts what is no number in front. -/
def generalOf (t : Text) : KeyValue :=
  let value : Option Binary := (Binary.ofText? .great t).map fun found => found.1.value
  match value with
  | none => .general 0 0 1
  | some (.undefined _) => .general 1 0 1
  | some (.infinite negative) => .general (if negative then 2 else 4) 0 1
  | some (.finite negative significand exponent) =>
    let (n, d) := scaled 2 significand 1 exponent
    .general 3 (if negative then -(n : Int) else n) d

/-- The value of a number with a unit. -/
def sizedOf (t : Text) : KeyValue :=
  let (n, rest) := Written.ofText t
  let unit : Nat := match rest.head? with
    | some c => if c = 'k' then 1 else ("KMGTPEZY".toList.findIdx? (· = c)).elim 0 (· + 1)
    | none => 0
  let unit := if n.isZero then 0 else unit
  .sized (if n.isNegative then -(unit : Int) else unit) n

/-- The value of a key's text. -/
def ofText (o : Ordered) (t : Text) : KeyValue :=
  if o.has 'n' then .number (Written.ofText t).1
  else if o.has 'g' then generalOf t
  else if o.has 'h' then sizedOf t
  else if o.has 'M' then
    let word := String.ofList (((t.dropWhile SortKey.isApart).take 3).map Char.toUpper)
    .month ((months.findIdx? (· = word)).elim 0 (· + 1))
  else
    let kept := if o.has 'd' then
        t.filter fun c => c.isAlphanum || SortKey.isApart c
      else if o.has 'i' then t.filter fun c => ' ' ≤ c && c ≤ '~'
      else t
    let folded := if o.has 'f' then kept.map Char.toUpper else kept
    if o.has 'V' then .version folded else .text folded

/-- The order of two values. -/
def compared : KeyValue → KeyValue → Ordering
  | .text s, .text t => if s = t then .eq else if comesFirst s t then .lt else .gt
  | .number m, .number n => m.compared n
  | .sized a m, .sized b n => (compare a b).then (m.compared n)
  | .general r a b, .general s c d => (compare r s).then (compare (a * d) (c * b))
  | .month m, .month n => compare m n
  | .version s, .version t => Versions.compared s t
  | _, _ => .eq

end KeyValue

/-- How lines are put in order. -/
structure Sorting where
  keys : List SortKey
  separator : Option Char
  isReversed : Bool
  /-- Lines whose keys are the same keep their order. -/
  isStable : Bool
  /-- Of lines whose keys are the same one is kept. -/
  isUnique : Bool
  ending : UInt8

/-- A line with the values of its keys. -/
structure Keyed where
  line : List UInt8
  values : List (KeyValue × Bool)

namespace Sorting

/-- A line with the values of its keys, each with whether its order is turned around. -/
def keyed (s : Sorting) (line : List UInt8) : Keyed :=
  let t := Raw.ofBytes line
  ⟨line, s.keys.map fun k =>
    (KeyValue.ofText k.ordered (k.part s.separator t), k.ordered.has 'r')⟩

/-- The order of values. -/
def comparedValues : List (KeyValue × Bool) → List (KeyValue × Bool) → Ordering
  | (u, isReversed) :: us, (v, _) :: vs =>
    let order := if isReversed then v.compared u else u.compared v
    order.then (comparedValues us vs)
  | _, _ => .eq

/-- The order of lines. -/
def compared (s : Sorting) (a b : Keyed) : Ordering :=
  match comparedValues a.values b.values with
  | .eq =>
    if s.isStable || s.isUnique then .eq
    else
      let (t, u) := (Raw.ofBytes a.line, Raw.ofBytes b.line)
      let order : Ordering := if t = u then .eq else if comesFirst t u then .lt else .gt
      if s.isReversed then order.swap else order
  | order => order

/-- Lines of which one is kept where several in a row have the same keys. -/
def unique (s : Sorting) : List Keyed → List Keyed
  | [] => []
  | [a] => [a]
  | a :: b :: rest =>
    if s.compared a b = .eq then s.unique (a :: rest) else a :: s.unique (b :: rest)
termination_by ls => ls.length

/-- The first of several lists whose first line comes before those of the others, without it. -/
def popFirst (s : Sorting) : List (List Keyed) → Option (Keyed × List (List Keyed))
  | [] => none
  | [] :: rest => s.popFirst rest
  | (a :: as) :: rest =>
    match s.popFirst rest with
    | none => some (a, [as])
    | some (b, rest') => if s.compared a b ≠ .gt then some (a, as :: rest) else some (b, (a :: as) :: rest')

/-- Lists of lines as one list, into which the first lines go in order. -/
def merged (s : Sorting) : (fuel : Nat) → List (List Keyed) → List Keyed
  | 0, _ => []
  | fuel + 1, lists =>
    match s.popFirst lists with
    | none => []
    | some (a, rest) => a :: s.merged fuel rest

/-- The number of the first line that comes before the one before it, or is the same if none may be,
and the line. -/
def disorder? (s : Sorting) : (number : Nat) → List Keyed → Option (Nat × Keyed)
  | _, [] => none
  | _, [_] => none
  | n, a :: b :: rest =>
    let order := s.compared a b
    if order = .gt ∨ (s.isUnique ∧ order = .eq) then some (n + 1, b)
    else s.disorder? (n + 1) (b :: rest)

end Sorting

/-- How `sort` takes options. -/
def sortUsage : Usage where
  forms := OptionForm.flags [('b', "ignore-leading-blanks"), ('d', "dictionary-order"),
      ('f', "ignore-case"), ('g', "general-numeric-sort"), ('i', "ignore-nonprinting"),
      ('M', "month-sort"), ('h', "human-numeric-sort"), ('n', "numeric-sort"),
      ('R', "random-sort"), ('r', "reverse"), ('V', "version-sort"), ('m', "merge"),
      ('s', "stable"), ('u', "unique"), ('z', "zero-terminated")] ++
    OptionForm.letters "C" ++ [⟨some 'c', some "check", .perhaps⟩] ++
    OptionForm.valuedFlags [('k', "key"), ('o', "output"), ('t', "field-separator"),
      ('S', "buffer-size"), ('T', "temporary-directory")] ++ OptionForm.names ["debug"] ++
    OptionForm.valuedNames ["sort", "parallel", "batch-size", "compress-program", "random-source",
      "files0-from"]
  mixing := .free
  failure := 2

/-- The words that stand for the ways to sort. -/
def sortWays : List (String × Char) :=
  [("general-numeric", 'g'), ("human-numeric", 'h'), ("month", 'M'), ("numeric", 'n'),
    ("random", 'R'), ("version", 'V')]

/-- Arguments in which the letter that asks for a check stands alone. -/
def checkAlone (arguments : List Text) : List Text :=
  match arguments with
  | [] => []
  | t :: ts =>
    if t = "--".toList then t :: ts
    else if t = "--check=quiet".toList ∨ t = "--check=silent".toList then "-C".toList :: checkAlone ts
    else
      match t with
      | '-' :: c :: cs =>
        if c ≠ '-' ∧ cs.contains 'c' ∧ cs.all fun c => "bdfgiMhnRrVmsuzcC".toList.contains c then
          ('-' :: c :: cs.filter (· ≠ 'c')) :: ['-', 'c'] :: checkAlone ts
        else if c = 'c' ∧ ¬ cs.isEmpty then ['-', 'c'] :: ('-' :: cs) :: checkAlone ts
        else t :: checkAlone ts
      | _ => t :: checkAlone ts

/-- What options ask for, or what is wrong with them. -/
def Sorting.ofGiven (given : Given) : Except Text Sorting := do
  let keys ← (given.values "k").mapM SortKey.ofText
  let letters := "dfgiMhnRrV".toList.filter fun c => given.has (String.singleton c)
  let way := (given.value? "sort").bind fun w => sortWays.lookup (String.ofList w)
  let whole : Ordered := ⟨given.has "b", given.has "b", letters ++ way.toList⟩
  let separators := given.values "t"
  for t in separators do
    if t.isEmpty then throw "empty tab".toList
    if t ≠ "\\0".toList ∧ 1 < t.length then
      throw ("multi-character tab ".toList ++ Quoting.word t)
  if separators.eraseDups.length > 1 then throw "incompatible tabs".toList
  let separator := separators.head?.map fun t => if t = "\\0".toList then '\x00' else t.headD ' '
  let keys := keys.map fun k => if k.ordered.isDefault then { k with ordered := whole } else k
  let keys : List SortKey := if keys.isEmpty && !whole.isDefault then [⟨0, 0, none, whole⟩] else keys
  for k in keys do
    if let some conflict := k.ordered.conflict? then
      throw ("options '-".toList ++ conflict ++ "' are incompatible".toList)
  let all := if keys.isEmpty then [⟨0, 0, none, ⟨false, false, []⟩⟩] else keys
  return {
    keys := all
    separator
    isReversed := given.has "r"
    isStable := given.has "s"
    isUnique := given.has "u"
    ending := if given.has "z" then 0 else newline }

/-- Fails with a complaint. -/
def failedSort (message : Text) : Task Int := do
  complain message
  return 2

/-- Puts lines in order, puts ordered lines together, or checks their order. -/
def sort (arguments : List Text) : Task Int := do
  let run (given : Given) (paths : List Text) : Task Int := do
    match Sorting.ofGiven given with
    | .error message => failedSort message
    | .ok s =>
      let checks := given.hasAny "cC"
      if given.has "c" && given.has "C" then
        return ← failedSort "options '-cC' are incompatible".toList
      if checks && given.has "o" then
        return ← failedSort ("options '-".toList ++ (if given.has "c" then ['c'] else ['C']) ++
          "o' are incompatible".toList)
      if 1 < (given.values "o").eraseDups.length then
        return ← failedSort "multiple output files specified".toList
      let paths := if paths.isEmpty then [['-']] else paths
      if checks then
        if let some extra := paths[1]? then
          let letter := if given.has "c" then 'c' else 'C'
          return ← failedSort ("extra operand ".toList ++ Quoting.word extra ++
            " not allowed with -".toList ++ [letter])
      let m ← get
      for path in paths do
        if path ≠ ['-'] then
          let fault? : Option FileFault :=
            match m.files.nodeAt true m.process.directory path with
            | .ok node => if node.isReadable then none else some .denied
            | .error fault => some fault
          if let some fault := fault? then
            return ← failedSort ("cannot read: ".toList ++ Quoting.beforeColon path ++ ": ".toList ++
              fault.message)
      let mut lists := []
      for path in paths do
        match ← bytesOf path with
        | .ok bytes => lists := (linesFrom s.ending [] bytes).map s.keyed :: lists
        | .error fault =>
          return ← failedSort ("read failed: ".toList ++ Quoting.beforeColon path ++ ": ".toList ++
            fault.message)
      let ordered := lists.reverse
      if checks then
        match s.disorder? 1 ordered.flatten with
        | none => return 0
        | some (n, line) =>
          if given.has "c" then
            complain (paths.headD [] ++ ':' :: numeral n ++ ": disorder: ".toList ++
              Raw.ofBytes line.line)
          return 1
      let all := ordered.flatten
      let result := if given.has "m" then s.merged (all.length + 1) ordered
        else all.mergeSort fun a b => s.compared a b ≠ .gt
      let result := if s.isUnique then s.unique result else result
      let bytes := result.flatMap fun k => k.line ++ [s.ending]
      match given.value? "o" with
      | none =>
        emit bytes
        return 0
      | some path =>
        match ← writeTo .output path bytes with
        | .ok () => return 0
        | .error fault =>
          failedSort ("open failed: ".toList ++ Quoting.beforeColon path ++ ": ".toList ++
            fault.message)
  sortUsage.call run (checkAlone arguments)

end LineShell.Sh.Tool
