import LineShell.Computer.Sh.Tool.Basic

/-!
# Parts of lines

Tools that cut parts out of lines and put lines side by side.  Parts are chosen by the numbers of
bytes or fields, one by one or in ranges.
-/

namespace LineShell.Sh.Tool

/-- Some numbers, from the first one to the last one, or without an end. -/
structure Range where
  first : Nat
  last : Option Nat
deriving DecidableEq, Repr

namespace Range

/-- The range holds a number. -/
def holds (r : Range) (n : Nat) : Bool :=
  r.first ≤ n && r.last.all (n ≤ ·)

/-- How messages call what is chosen. -/
structure Wording where
  fromOne : String
  badRange : String
  badNumber : String
  tooLarge : String

/-- The wording about fields. -/
def Wording.fields : Wording :=
  ⟨"fields are numbered from 1", "invalid field range", "invalid field value ", "field number "⟩

/-- The wording about bytes. -/
def Wording.bytes : Wording :=
  ⟨"byte/character positions are numbered from 1", "invalid byte or character range",
    "invalid byte/character position ", "byte/character offset "⟩

/-- One range of a list as it is read. -/
structure Reading where
  /-- The number on the left, if there is one. -/
  left : Option Nat
  dash : Bool
  /-- The number on the right, if there is one. -/
  right : Option Nat

/-- The range that has been read. -/
def Reading.close (w : Wording) (r : Reading) : Except Text Range := do
  let first := r.left.getD 1
  match r.dash, r.left, r.right with
  | true, none, none => throw "invalid range with no endpoint: -".toList
  | true, _, none => return ⟨first, none⟩
  | true, _, some last =>
    if last < first then throw "invalid decreasing range".toList
    return ⟨first, some last⟩
  | false, some n, _ =>
    if n = 0 then throw w.fromOne.toList
    return ⟨n, some n⟩
  | false, none, _ => throw w.fromOne.toList

/-- The ranges of a list, read in at most `fuel` steps. -/
def listFrom (w : Wording) : (fuel : Nat) → Reading → Text → Except Text (List Range)
  | 0, r, _ => do return [← r.close w]
  | _, r, [] => do return [← r.close w]
  | fuel + 1, r, c :: t => do
    if c = '-' then
      if r.dash then throw w.badRange.toList
      if r.left = some 0 then throw w.fromOne.toList
      listFrom w fuel { r with dash := true } t
    else if c = ',' ∨ c = ' ' ∨ c = '\t' then
      let range ← r.close w
      return range :: (← listFrom w fuel ⟨none, false, none⟩ t)
    else if c.isDigit then
      let digits := (c :: t).takeWhile Char.isDigit
      let n := digitsValue digits
      if 18446744073709551615 ≤ n then
        throw (w.tooLarge.toList ++ Quoting.word digits ++ " is too large".toList)
      let rest := (c :: t).drop digits.length
      listFrom w fuel (if r.dash then { r with right := some n } else { r with left := some n }) rest
    else throw (w.badNumber.toList ++ Quoting.word (c :: t))

/-- The ranges of a list. -/
def listOf (w : Wording) (t : Text) : Except Text (List Range) :=
  listFrom w (t.length + 1) ⟨none, false, none⟩ t

/-- The range ends before a number. -/
def endsBefore (r : Range) (n : Nat) : Bool :=
  r.last.any (· < n)

/-- Ranges in order, of which those that share a number are one. -/
def merged : List Range → List Range
  | [] => []
  | [r] => [r]
  | r :: s :: rest =>
    if r.endsBefore s.first then r :: merged (s :: rest)
    else
      let last := match r.last, s.last with
        | some m, some n => some (max m n)
        | _, _ => none
      merged (⟨r.first, last⟩ :: rest)
termination_by rs => rs.length

/-- Ranges in order, without common numbers. -/
def normal (rs : List Range) : List Range :=
  merged (rs.mergeSort fun r s => r.first ≤ s.first)

/-- The ranges of all numbers from `next` on that are in none of some ranges in order. -/
def gaps (next : Nat) : List Range → List Range
  | [] => [⟨next, none⟩]
  | r :: rest =>
    let before : List Range := if next < r.first then [⟨next, some (r.first - 1)⟩] else []
    match r.last with
    | none => before
    | some last => before ++ gaps (max next (last + 1)) rest

end Range

/-- How `cut` takes options. -/
def cutUsage : Usage :=
  .free (OptionForm.valuedFlags [('b', "bytes"), ('c', "characters"), ('d', "delimiter"),
    ('f', "fields")] ++ OptionForm.flags [('s', "only-delimited"), ('z', "zero-terminated")] ++
    OptionForm.letters "n" ++ OptionForm.names ["complement"] ++
    OptionForm.valuedNames ["output-delimiter"])

/-- The items that ranges choose, numbered from one on, in groups of those of one range. -/
def chosen {α : Type} (ranges : List Range) (items : List α) : List (List α) :=
  let numbered := items.zip ((List.range items.length).map (· + 1))
  (ranges.map fun r => (numbered.filter fun (_, n) => r.holds n).map Prod.fst).filter
    (!·.isEmpty)

/-- The bytes of a line that ranges choose, with bytes between those of different ranges. -/
def cutBytes (ranges : List Range) (between : List UInt8) (line : List UInt8) : List UInt8 :=
  between.intercalate (chosen ranges line)

/-- The fields of a line that ranges choose, or the line itself if it has only one. -/
def cutFields (ranges : List Range) (delimiter : UInt8) (between : List UInt8)
    (line : List UInt8) : List UInt8 :=
  let fields := (pieces (Char.ofNat delimiter.toNat) (Raw.ofBytes line)).map Raw.bytes
  between.intercalate (chosen ranges fields).flatten

/-- What is cut out of lines. -/
structure Cutting where
  ranges : List Range
  /-- What stands between fields, if fields are cut out. -/
  delimiter : Option UInt8
  /-- What is written between parts. -/
  between : List UInt8
  /-- Lines without a delimiter are left out. -/
  onlyDelimited : Bool
  ending : UInt8

namespace Cutting

/-- What options ask for, or what is wrong with them. -/
def ofGiven (given : Given) : Except Text Cutting := do
  let lists := given.filter fun entry => ["b", "c", "f"].contains entry.1
  let delimiter := given.value? "d"
  match lists with
  | [] => throw "you must specify a list of bytes, characters, or fields".toList
  | [(kind, list)] =>
    if delimiter.any fun t => 1 < t.length then
      throw "the delimiter must be a single character".toList
    if kind ≠ "f" then
      if delimiter.isSome then
        throw "an input delimiter may be specified only when operating on fields".toList
      if given.has "s" then
        throw ("suppressing non-delimited lines makes sense\n\tonly when operating on ".toList ++
          "fields".toList)
    let ranges ← Range.listOf (if kind = "f" then .fields else .bytes) list
    let normal := Range.normal ranges
    let separator : UInt8 := match delimiter with
      | some (c :: _) => UInt8.ofNat c.toNat
      | some [] => 0
      | none => 0x09
    return {
      ranges := if given.has "complement" then Range.gaps 1 normal else normal
      delimiter := if kind = "f" then some separator else none
      between := match given.value? "output-delimiter" with
        | some [] => [0]
        | some t => Raw.bytes t
        | none => if kind = "f" then [separator] else []
      onlyDelimited := given.has "s"
      ending := if given.has "z" then 0 else newline }
  | _ => throw "only one list may be specified".toList

/-- What is left of a line, if it is not left out. -/
def line? (c : Cutting) (line : List UInt8) : Option (List UInt8) :=
  match c.delimiter with
  | none => some (cutBytes c.ranges c.between line)
  | some d =>
    if line.contains d then some (cutFields c.ranges d c.between line)
    else if c.onlyDelimited then none
    else some line

end Cutting

/-- Cuts parts out of lines. -/
def cut (given : Given) (paths : List Text) : Task Int := do
  match Cutting.ofGiven given with
  | .error message => refuse message 1
  | .ok c =>
    if c.delimiter = some c.ending then
      let (found, status) ← inputs complainAbout 1 paths
      for (_, bytes) in found do
        let whole := if bytes.getLast? = some c.ending then bytes.dropLast else bytes
        if !bytes.isEmpty then
          if let some left := c.line? whole then emit (left ++ [c.ending])
      return status
    let use (_ : Unit) (line : List UInt8) (_ : Bool) : Task (Except Unit Unit) := do
      if let some left := c.line? line then emit (left ++ [c.ending])
      return .ok ()
    let (_, succeeds) ← eachLineOf complainAbout c.ending use () paths
    return if succeeds then 0 else 1

/-- How `paste` takes options. -/
def pasteUsage : Usage :=
  .free (OptionForm.valuedFlags [('d', "delimiters")] ++
    OptionForm.flags [('s', "serial"), ('z', "zero-terminated")])

/-- The delimiters that a text lists, with escapes; an empty one is nothing. -/
def delimitersOf : Text → List (List UInt8)
  | '\\' :: c :: t =>
    (match ("0\\bfnrtv".toList.zip
        [[], [0x5C], [0x08], [0x0C], [0x0A], [0x0D], [0x09], [0x0B]]).lookup c with
      | some bytes => bytes
      | none => [UInt8.ofNat c.toNat]) :: delimitersOf t
  | c :: t => [UInt8.ofNat c.toNat] :: delimitersOf t
  | [] => []

/-- Things with delimiters between them, which are taken in turn. -/
def delimited (delimiters : List (List UInt8)) : (next : Nat) → List (List UInt8) → List UInt8
  | _, [] => []
  | _, [x] => x
  | n, x :: xs =>
    x ++ (delimiters[n % delimiters.length]?).getD [] ++ delimited delimiters (n + 1) xs

/-- Rows of columns that may be of different lengths, at most as many as given. -/
def rowsOf : (fuel : Nat) → List (List (List UInt8)) → List (List (List UInt8))
  | 0, _ => []
  | fuel + 1, columns =>
    if columns.all List.isEmpty then []
    else columns.map (fun column => column.headD []) :: rowsOf fuel (columns.map List.tail)

/-- Puts the lines of files side by side, or those of each file. -/
def paste (given : Given) (paths : List Text) : Task Int := do
  let delimiters := match given.value? "d" with
    | some [] => [[]]
    | some t => delimitersOf t
    | none => [[0x09]]
  let ending : UInt8 := if given.has "z" then 0 else newline
  let linesOf (bytes : List UInt8) : List (List UInt8) := linesFrom ending [] bytes
  if given.has "s" then
    let (found, status) ← inputs complainAbout 1 paths
    for (_, bytes) in found do
      emit (delimited delimiters 0 (linesOf bytes) ++ [ending])
    return status
  let isShared := 1 < paths.countP (· = ['-'])
  let (shared, _) ← if isShared then inputs complainAbout 1 [['-']] else pure ([], 0)
  let sharedLines := linesOf ((shared.map Prod.snd).flatten)
  let count := paths.countP (· = ['-'])
  let mut columns := []
  let mut index := 0
  for path in if paths.isEmpty then [['-']] else paths do
    if isShared ∧ path = ['-'] then
      let i := index
      let own := (sharedLines.zip (List.range sharedLines.length)).filter fun (_, n) =>
        n % count = i
      columns := own.map Prod.fst :: columns
      index := index + 1
    else
      match ← bytesOf path with
      | .ok bytes => columns := linesOf bytes :: columns
      | .error fault =>
        complainAbout path fault
        return 1
  let longest := (columns.map List.length).foldl max 0
  for row in rowsOf longest columns.reverse do
    emit (delimited delimiters 0 row ++ [ending])
  return 0

end LineShell.Sh.Tool
