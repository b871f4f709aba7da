import LineShell.Computer.Sh.Tool.Basic

/-!
# Comparing lines

Tools that compare neighbouring lines of a file, or the lines of two files that are in order.
-/

namespace LineShell.Sh.Tool

/-- How `uniq` takes options. -/
def uniqUsage : Usage :=
  .free (OptionForm.flags [('c', "count"), ('d', "repeated"), ('i', "ignore-case"),
      ('u', "unique"), ('z', "zero-terminated")] ++
    [⟨some 'D', none, .never⟩, ⟨none, some "all-repeated", .perhaps⟩,
      ⟨none, some "group", .perhaps⟩] ++
    OptionForm.valuedFlags [('f', "skip-fields"), ('s', "skip-chars"), ('w', "check-chars")])

/-- What is left of a line after its first fields. -/
def skipFields : Nat → Text → Text
  | 0, t => t
  | n + 1, t =>
    let isApart (c : Char) : Bool := c = ' ' || c = '\t' || c = '\n'
    skipFields n ((t.dropWhile isApart).dropWhile (!isApart ·))

/-- Lines in groups of those in a row that have the same key. -/
def grouped {κ α : Type} [DecidableEq κ] (key : α → κ) : List α → List (List α)
  | [] => []
  | a :: as =>
    match grouped key as with
    | (b :: bs) :: rest => if key a = key b then (a :: b :: bs) :: rest else [a] :: (b :: bs) :: rest
    | rest => [a] :: rest

/-- A number that an option gives, or what is wrong with it. -/
def countOption (given : Given) (letter what : String) : Except Text (Option Nat) :=
  match given.value? letter with
  | none => .ok none
  | some t =>
    match wholeInteger? false t with
    | some n =>
      if 0 ≤ n then .ok (some n.toNat)
      else .error ("invalid number of ".toList ++ what.toList ++ ": ".toList ++ Quoting.word t)
    | none =>
      .error ("invalid number of ".toList ++ what.toList ++ ": ".toList ++ Quoting.word t)

/-- Opens the file that a tool writes its output to, in the stead of the standard output. -/
def redirectOutput (path : Text) : Task (Except FileFault Unit) := do
  match ← Task.openPath .output path with
  | .error fault => return .error fault
  | .ok channel =>
    Task.attach 1 channel
    return .ok ()

/-- Writes one of several equal lines in a row. -/
def uniq (arguments : List Text) : Task Int := do
  let run (given : Given) (operands : List Text) : Task Int := do
    if let some extra := operands[2]? then return ← refuseExtra extra
    let numbers : Except Text (Nat × Nat × Option Nat) := do
      return ((← countOption given "f" "fields to skip").getD 0,
        (← countOption given "s" "bytes to skip").getD 0,
        ← countOption given "w" "bytes to compare")
    match numbers with
    | .error message =>
      complain message
      return 1
    | .ok (fields, skipped, compared) =>
      let isAll := given.hasAny "D" || given.has "all-repeated"
      if given.has "group" && (given.hasAny "cdDu" || given.has "all-repeated") then
        return ← refuse "--group is mutually exclusive with -c/-d/-D/-u".toList 1
      if isAll && given.has "c" then
        return ← refuse ("printing all duplicated lines and repeat counts is ".toList ++
          "meaningless".toList) 1
      let ending : UInt8 := if given.has "z" then 0 else newline
      let path := operands.headD ['-']
      let key (line : List UInt8) : Text :=
        let t := (skipFields fields (Raw.ofBytes line)).drop skipped
        let t := compared.elim t t.take
        if given.has "i" then t.map Char.toLower else t
      match ← bytesOf path with
      | .error fault =>
        complain (Quoting.beforeColon path ++ ": ".toList ++ fault.message)
        return 1
      | .ok bytes =>
        if let some output := operands[1]? then
          if output ≠ ['-'] then
            if let .error fault := ← redirectOutput output then
              complainAbout output fault
              return 1
        let ended (line : List UInt8) : List UInt8 := line ++ [ending]
        let method := String.ofList ((given.value? "all-repeated").getD [])
        let groups := grouped key (linesFrom ending [] bytes)
        let mut isFirst := true
        for group in groups do
          let size := group.length
          let isShown := if size = 1 then !(given.has "d" || isAll) else !given.has "u"
          let count := if given.has "c" then
            List.replicate (7 - (numeral size).length) ' ' ++ numeral size ++ [' '] else []
          if given.has "group" then
            unless isFirst do emit [ending]
            isFirst := false
            emit (group.flatMap ended)
          else if isShown then
            if isAll then
              if method = "prepend" ∨ (method = "separate" ∧ ¬ isFirst) then emit [ending]
              isFirst := false
              emit (group.flatMap ended)
            else emit (Raw.bytes count ++ ended (group.headD []))
        return 0
  let isNumber (t : Text) : Bool := match t with
    | '-' :: ds => !ds.isEmpty && ds.all Char.isDigit
    | _ => false
  uniqUsage.call run (arguments.map fun t => if isNumber t then ['-', 'f'] ++ t.drop 1 else t)

/-- The order of two lines. -/
def orderOfLines (s t : Text) : Ordering :=
  if s = t then .eq else if comesFirst s t then .lt else .gt

/-- Complains of a missing operand, or of one that is one too many, where there have to be two. -/
def refuseUnlessTwo (operands : List Text) : Task (Option Int) := do
  match operands with
  | [] => return some (← refuse "missing operand".toList 1)
  | [t] => return some (← refuse ("missing operand after ".toList ++ Quoting.word t) 1)
  | [_, _] => return none
  | _ :: _ :: t :: _ => return some (← refuseExtra t)

/-- How `comm` takes options. -/
def commUsage : Usage :=
  .free (OptionForm.letters "123" ++ OptionForm.flags [('z', "zero-terminated")] ++
    OptionForm.names ["check-order", "nocheck-order", "total"] ++
    OptionForm.valuedNames ["output-delimiter"])

/-- A line of a comparison: in which of the files it stands. -/
inductive Side where
  | first
  | second
  | both
deriving DecidableEq, Repr

/-- The lines of two files in order, each with the files in which it stands. -/
def sides : (fuel : Nat) → List Text → List Text → List (Side × Text)
  | 0, _, _ => []
  | _, [], ts => ts.map (.second, ·)
  | _, ss, [] => ss.map (.first, ·)
  | fuel + 1, s :: ss, t :: ts =>
    match orderOfLines s t with
    | .lt => (.first, s) :: sides fuel ss (t :: ts)
    | .gt => (.second, t) :: sides fuel (s :: ss) ts
    | .eq => (.both, s) :: sides fuel ss ts

/-- Lines are in order. -/
def areOrdered : List Text → Bool
  | s :: t :: rest => comesFirst s t && areOrdered (t :: rest)
  | _ => true

/-- Writes which lines two files have in common, and which not. -/
def comm (given : Given) (operands : List Text) : Task Int := do
  if let some code := ← refuseUnlessTwo operands then return code
  let ending : UInt8 := if given.has "z" then 0 else newline
  let mut files := []
  for path in operands do
    match ← bytesOf path with
    | .ok bytes => files := files ++ [(linesFrom ending [] bytes).map Raw.ofBytes]
    | .error fault =>
      complainAbout path fault
      return 1
  let first := files.headD []
  let second := files.getLastD []
  let rows := sides (first.length + second.length + 1) first second
  let between := match given.value? "output-delimiter" with
    | some [] => ['\x00']
    | some t => t
    | none => ['\t']
  let columns := (if given.has "1" then 0 else 1, if given.has "2" then 0 else 1)
  for (side, t) in rows do
    let isHidden := match side with
      | .first => given.has "1"
      | .second => given.has "2"
      | .both => given.has "3"
    let indent := match side with
      | .first => 0
      | .second => columns.1
      | .both => columns.1 + columns.2
    unless isHidden do
      print ((List.replicate indent between).flatten ++ t ++ [Char.ofNat ending.toNat])
  if given.has "total" then
    let count (side : Side) : Text := numeral (rows.countP (·.1 = side))
    print (count .first ++ between ++ count .second ++ between ++ count .both ++ between ++
      "total".toList ++ [Char.ofNat ending.toNat])
  let isPaired := rows.all (·.1 = .both)
  let checks := given.has "check-order" || (!given.has "nocheck-order" && !isPaired)
  let mut isWrong := false
  if checks then
    for (ls, n) in [(first, 1), (second, 2)] do
      unless areOrdered ls do
        complain ("file ".toList ++ numeral n ++ " is not in sorted order".toList)
        isWrong := true
    if isWrong && !given.has "check-order" then
      complain "input is not in sorted order".toList
  return if isWrong then 1 else 0

/-- How `join` takes options. -/
def joinUsage : Usage :=
  .free (OptionForm.valuedLetters "avejot12" ++ OptionForm.flags [('i', "ignore-case"),
    ('z', "zero-terminated")] ++ OptionForm.names ["check-order", "nocheck-order", "header"])

/-- A field of joined lines: the key, or a field of one of the files. -/
inductive JoinField where
  | key
  | ofFile (isSecond : Bool) (n : Nat)
deriving DecidableEq, Repr

/-- The fields of a line. -/
def joinFields (separator : Option Char) (t : Text) : List Text :=
  match separator with
  | some c => if c = '\n' then [t] else pieces c t
  | none =>
    let isApart (c : Char) : Bool := c = ' ' || c = '\t' || c = '\n'
    (pieces ' ' (t.map fun c => if isApart c then ' ' else c)).filter (!·.isEmpty)

/-- How lines are joined. -/
structure Joining where
  first : Nat
  second : Nat
  separator : Option Char
  empty : Text
  format : Option (List JoinField)
  /-- Every line has as many fields as the first one of its file. -/
  isAuto : Bool
  ignoresCase : Bool
  showsPairs : Bool
  /-- Lines of the two files without a partner are shown. -/
  showsAlone : Bool × Bool

namespace Joining

/-- The key of a line's fields. -/
def key (j : Joining) (isSecond : Bool) (fields : List Text) : Text :=
  let t := (fields[(if isSecond then j.second else j.first)]?).getD []
  if j.ignoresCase then t.map Char.toLower else t

/-- Fields without the key. -/
def others (n : Nat) (fields : List Text) : List Text :=
  fields.take n ++ fields.drop (n + 1)

/-- A joined line of the fields of two lines, one of which may be missing. -/
def line (j : Joining) (sizes : Nat × Nat) (l r : Option (List Text)) : Text :=
  let between := [j.separator.getD ' ']
  let orEmpty (t : Option Text) : Text := match t with
    | some [] => j.empty
    | some t => t
    | none => j.empty
  let own (isSecond : Bool) : Option (List Text) := if isSecond then r else l
  let key : Option Text :=
    match l with
    | some fields => fields[j.first]?
    | none => r.bind (·[j.second]?)
  let cell : JoinField → Text
    | .key => orEmpty key
    | .ofFile isSecond n => orEmpty ((own isSecond).bind (·[n]?))
  let format := if j.isAuto then
      let ofSize (isSecond : Bool) (size keyField : Nat) : List JoinField :=
        ((List.range size).filter (· ≠ keyField)).map (.ofFile isSecond)
      some (.key :: ofSize false sizes.1 j.first ++ ofSize true sizes.2 j.second)
    else j.format
  match format with
  | some fields => between.intercalate (fields.map cell)
  | none =>
    let rest (n : Nat) (fields : Option (List Text)) : List Text :=
      ((fields.map (others n)).getD []).map fun t => orEmpty (some t)
    between.intercalate (orEmpty key :: rest j.first l ++ rest j.second r)

/-- The joined lines of two files whose lines are in the order of their keys. -/
def rows (j : Joining) (sizes : Nat × Nat) :
    (fuel : Nat) → List (List Text) → List (List Text) → List Text
  | 0, _, _ => []
  | _, [], rs => if j.showsAlone.2 then rs.map fun r => j.line sizes none (some r) else []
  | _, ls, [] => if j.showsAlone.1 then ls.map fun l => j.line sizes (some l) none else []
  | fuel + 1, l :: ls, r :: rs =>
    let (k, k') := (j.key false l, j.key true r)
    match orderOfLines k k' with
    | .lt =>
      (if j.showsAlone.1 then [j.line sizes (some l) none] else []) ++ j.rows sizes fuel ls (r :: rs)
    | .gt =>
      (if j.showsAlone.2 then [j.line sizes none (some r)] else []) ++ j.rows sizes fuel (l :: ls) rs
    | .eq =>
      let same := (l :: ls).takeWhile fun l => j.key false l = k
      let same' := (r :: rs).takeWhile fun r => j.key true r = k
      (if j.showsPairs then
        same.flatMap fun l => same'.map fun r => j.line sizes (some l) (some r) else []) ++
        j.rows sizes fuel ((l :: ls).drop same.length) ((r :: rs).drop same'.length)

/-- The number of the first line whose key comes before that of the line before it. -/
def disorder? (j : Joining) (isSecond : Bool) : (number : Nat) → List (List Text) → Option Nat
  | n, l :: l' :: rest =>
    if comesFirst (j.key isSecond l) (j.key isSecond l') then j.disorder? isSecond (n + 1) (l' :: rest)
    else some (n + 1)
  | _, _ => none

/-- The field that a text of a format names. -/
def fieldOf (t : Text) : Except Text JoinField :=
  match t with
  | ['0'] => .ok .key
  | c :: '.' :: ds =>
    if c ≠ '1' ∧ c ≠ '2' then
      .error ("invalid file number in field spec: ".toList ++ Quoting.word t)
    else if ds.isEmpty || !ds.all Char.isDigit || digitsValue ds = 0 then
      .error ("invalid field number: ".toList ++ Quoting.word ds)
    else .ok (.ofFile (c = '2') (digitsValue ds - 1))
  | _ => .error ("invalid field specifier: ".toList ++ Quoting.word t)

/-- What options ask for. -/
def ofGiven (given : Given) : Except Text Joining := do
  let number (letter : String) : Except Text (Option Nat) :=
    match given.value? letter with
    | none => .ok none
    | some ds =>
      if ds.isEmpty || !ds.all Char.isDigit || digitsValue ds = 0 then
        .error ("invalid field number: ".toList ++ Quoting.word ds)
      else .ok (some (digitsValue ds - 1))
  let common ← number "j"
  let alone := given.values "a" ++ given.values "v"
  for t in alone do
    if t ≠ ['1'] ∧ t ≠ ['2'] then throw ("invalid file number: ".toList ++ Quoting.word t)
  let separator ← match given.value? "t" with
    | none => pure none
    | some [] => pure (some '\n')
    | some [c] => pure (some c)
    | some t =>
      if t = "\\0".toList then pure (some '\x00')
      else throw ("multi-character tab ".toList ++ Quoting.word t)
  let format := (given.values "o").flatMap fun t =>
    (pieces ' ' (t.map fun c => if c = ',' ∨ c = '\t' then ' ' else c)).filter (!·.isEmpty)
  let isAuto := format = ["auto".toList]
  let fields ← if isAuto then pure [] else format.mapM fieldOf
  return {
    first := ((← number "1").or common).getD 0
    second := ((← number "2").or common).getD 0
    separator
    empty := (given.value? "e").getD []
    format := if fields.isEmpty then none else some fields
    isAuto
    ignoresCase := given.has "i"
    showsPairs := !given.has "v"
    showsAlone := (alone.contains ['1'], alone.contains ['2']) }

end Joining

/-- Joins the lines of two files that have a field in common. -/
def join (given : Given) (operands : List Text) : Task Int := do
  match Joining.ofGiven given with
  | .error message =>
    complain message
    return 1
  | .ok j =>
    if let some code := ← refuseUnlessTwo operands then return code
    let ending : UInt8 := if given.has "z" then 0 else newline
    let mut files := []
    for path in operands do
      match ← bytesOf path with
      | .ok bytes => files := files ++ [(linesFrom ending [] bytes).map Raw.ofBytes]
      | .error fault =>
        complainAbout path fault
        return 1
    let fieldsOf := List.map (joinFields j.separator)
    let lines := (files.headD [], files.getLastD [])
    let (first, second) := (fieldsOf lines.1, fieldsOf lines.2)
    let header := given.has "header"
    let sizes := ((first.headD []).length, (second.headD []).length)
    let printRow (t : Text) : Task Unit := print (t ++ [Char.ofNat ending.toNat])
    if header then
      match first, second with
      | [], [] => pure ()
      | _, _ => printRow (j.line sizes first.head? second.head?)
    let skip := if header then 1 else 0
    let (first, second) := (first.drop skip, second.drop skip)
    for row in j.rows sizes (first.length + second.length + 1) first second do
      printRow row
    let mut isWrong := false
    unless given.has "nocheck-order" do
      for (isSecond, rows, ls, path) in [(false, first, lines.1, operands.headD []),
          (true, second, lines.2, operands.getLastD [])] do
        let others := if isSecond then first else second
        let keys := others.map (j.key !isSecond)
        let isPaired := rows.all fun r => keys.contains (j.key isSecond r)
        if let some n := j.disorder? isSecond (1 + skip) rows then
          unless isPaired && !given.has "check-order" do
            complain (path ++ ':' :: numeral n ++ ": is not sorted: ".toList ++
              (ls[n - 1]?).getD [])
            isWrong := true
      if isWrong && !given.has "check-order" then complain "input is not in sorted order".toList
    return if isWrong then 1 else 0

end LineShell.Sh.Tool
