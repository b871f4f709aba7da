import LineShell.Computer.Sh.Tool.Basic

/-!
# Translation of bytes

The tool that replaces bytes by others, leaves some out, or makes one of several equal ones in a row.
Sets of bytes are written as texts in which brackets name classes and say how often a byte stands,
and a minus sign between two bytes means all between them.
-/

namespace LineShell.Sh.Tool

/-- A part of a set. -/
inductive SetPart where
  | single (b : UInt8)
  | range (first last : UInt8)
  /-- A class of bytes, by its name. -/
  | named (name : String) (members : List UInt8)
  /-- All bytes that count as the same as one, which is only itself. -/
  | same (b : UInt8)
  /-- A byte that stands several times, or as often as is needed. -/
  | repeated (b : UInt8) (count : Option Nat)
deriving Repr

namespace SetPart

/-- All bytes. -/
def allBytes : List UInt8 :=
  (List.range 256).map UInt8.ofNat

/-- The classes of bytes. -/
def classes : List (String × (Char → Bool)) :=
  [("alnum", Char.isAlphanum), ("alpha", Char.isAlpha), ("blank", fun c => c = ' ' || c = '\t'),
    ("cntrl", fun c => c < ' ' || c = '\x7f'), ("digit", Char.isDigit),
    ("graph", fun c => '!' ≤ c && c ≤ '~'), ("lower", Char.isLower),
    ("print", fun c => ' ' ≤ c && c ≤ '~'),
    ("punct", fun c => '!' ≤ c && c ≤ '~' && !c.isAlphanum), ("space", isSpace),
    ("upper", Char.isUpper), ("xdigit", fun c => (digitIn? 16 c).isSome)]

/-- The members of a class. -/
def members? (name : String) : Option (List UInt8) :=
  (classes.lookup name).map fun holds => allBytes.filter fun b => holds (Char.ofNat b.toNat)

/-- The bytes of a part, where `count` says how often a byte stands that may stand any number of
times. -/
def bytes (count : Nat) : SetPart → List UInt8
  | .single b => [b]
  | .range first last => allBytes.filter fun b => first ≤ b && b ≤ last
  | .named _ members => members
  | .same b => [b]
  | .repeated b n => List.replicate (n.getD count) b

/-- The part is a class of letters of one case. -/
def isCase : SetPart → Bool
  | .named name _ => name = "lower" || name = "upper"
  | _ => false

/-- How often the part's bytes count where cases are turned into each other: a class of letters of
one case counts once. -/
def caseLength (count : Nat) (p : SetPart) : Nat :=
  if p.isCase then 1 else (p.bytes count).length

end SetPart

/-- A byte of a set as it is written, and whether a backslash stood before it. -/
abbrev SetByte := Char × Bool

/-- The bytes of a set as it is written, without their backslashes, and warnings. -/
def unescaped : Text → List SetByte × List Text
  | [] => ([], [])
  | ['\\'] =>
    ([('\\', false)],
      ["warning: an unescaped backslash at end of string is not portable".toList])
  | '\\' :: c :: t =>
    if (digitIn? 8 c).isNone then
      let b := (("\\abfnrtv".toList.zip "\\\x07\x08\x0c\n\x0d\t\x0b".toList).lookup c).getD c
      let (bytes, warnings) := unescaped t
      ((b, true) :: bytes, warnings)
    else
      match t with
      | d :: t' =>
        if (digitIn? 8 d).isNone then octal [c] (d :: t')
        else
          match t' with
          | e :: t'' =>
            if (digitIn? 8 e).isNone then octal [c, d] (e :: t'')
            else if 255 < digitsIn 8 [c, d, e] then
              let (bytes, warnings) := octal [c, d] (e :: t'')
              let escape := ['\\', c, d, e]
              (bytes, ("warning: the ambiguous octal escape ".toList ++ escape ++
                " is being\n\tinterpreted as the 2-byte sequence \\0".toList ++ [c, d] ++
                [',', ' ', e]) :: warnings)
            else octal [c, d, e] t''
          | [] => octal [c, d] []
      | [] => octal [c] []
  | c :: t =>
    let (bytes, warnings) := unescaped t
    ((c, false) :: bytes, warnings)
termination_by t => t.length
where
  /-- A byte by its octal number, and what follows it. -/
  octal (digits : Text) (t : Text) : List SetByte × List Text :=
    let (bytes, warnings) := unescaped t
    ((Char.ofNat (digitsIn 8 digits), true) :: bytes, warnings)
  termination_by t.length + 1

/-- A byte as it is shown in messages. -/
def shownSetByte (c : Char) : Text :=
  if ' ' ≤ c ∧ c ≤ '~' then [c]
  else '\\' :: [c.toNat / 64, c.toNat / 8 % 8, c.toNat % 8].map Nat.digitChar

/-- The name between an opening bracket with a mark and the next closing one, and what follows. -/
def bracketed? (mark : Char) : List SetByte → Option (List SetByte × List SetByte)
  | (c, c') :: (d, d') :: rest =>
    if c = mark ∧ ¬ c' ∧ d = ']' ∧ ¬ d' then some ([], rest)
    else (bracketed? mark ((d, d') :: rest)).map fun (name, rest) => ((c, c') :: name, rest)
  | _ => none

/-- What stands after an opening bracket says how often a byte stands: the part and what follows, or
what is wrong. -/
def repetition? (t : List SetByte) : Except Text (Option (SetPart × List SetByte)) :=
  match t with
  | (c, _) :: ('*', false) :: rest =>
    let digits := rest.takeWhile fun (d, escaped) => d ≠ ']' && !escaped
    match rest.drop digits.length with
    | (']', false) :: rest =>
      let digits := digits.map Prod.fst
      let base := if digits.head? = some '0' then 8 else 10
      let b := UInt8.ofNat c.toNat
      if digits.isEmpty then .ok (some (.repeated b none, rest))
      else if digits.all (fun d => (digitIn? base d).isSome) ∧
          digitsIn base digits ≤ 18446744073709551615 then
        let n := digitsIn base digits
        .ok (some (.repeated b (if n = 0 then none else some n), rest))
      else
        .error ("invalid repeat count ".toList ++
          Quoting.word (digits.flatMap shownSetByte) ++ " in [c*n] construct".toList)
    | _ => .ok none
  | _ => .ok none

/-- What stands after a bracket and a mark looks as if it said how often the mark stands. -/
def looksRepeated : List SetByte → Bool
  | ('*', false) :: rest =>
    let rest := rest.dropWhile fun (d, escaped) => d.isDigit && !escaped
    rest.head? = some (']', false)
  | _ => false

/-- A byte and all up to another one, or the byte alone. -/
def rangeOrSingle (c : Char) (t : List SetByte) : Except Text (SetPart × List SetByte) :=
  match t with
  | ('-', false) :: (d, _) :: rest =>
    if d < c then
      .error ("range-endpoints of '".toList ++ shownSetByte c ++ ['-'] ++ shownSetByte d ++
        "' are in reverse collating sequence order".toList)
    else .ok (.range (UInt8.ofNat c.toNat) (UInt8.ofNat d.toNat), rest)
  | _ => .ok (.single (UInt8.ofNat c.toNat), t)

/-- The next part of a set and what follows it. -/
def nextSetPart (c : Char) (escaped : Bool) (t : List SetByte) :
    Except Text (SetPart × List SetByte) := do
  if c = '[' ∧ ¬ escaped ∧ 2 ≤ t.length then
    let inBrackets : Option (Char × List SetByte × List SetByte) :=
      match t with
      | (mark, false) :: inner =>
        if mark = ':' ∨ mark = '=' then (bracketed? mark inner).map (mark, ·) else none
      | _ => none
    if let some (mark, name, rest) := inBrackets then
      let inner := t.tail
      let name := name.map Prod.fst
      if name.isEmpty then
        throw (if mark = ':' then "missing character class name '[::]'".toList
          else "missing equivalence class character '[==]'".toList)
      if mark = ':' then
        match SetPart.members? (String.ofList name) with
        | some members => return (.named (String.ofList name) members, rest)
        | none =>
          if ¬ looksRepeated inner then
            throw ("invalid character class ".toList ++ Quoting.word (name.flatMap shownSetByte))
      else
        match name with
        | [c] => return (.same (UInt8.ofNat c.toNat), rest)
        | name =>
          if ¬ looksRepeated inner then
            throw (name.flatMap shownSetByte ++
              ": equivalence class operand must be a single character".toList)
    match ← repetition? t with
    | some found => return found
    | none => rangeOrSingle c t
  else rangeOrSingle c t

/-- The parts of a set, read in at most `fuel` steps. -/
def setParts : (fuel : Nat) → List SetByte → Except Text (List SetPart)
  | 0, _ => .ok []
  | _, [] => .ok []
  | fuel + 1, (c, escaped) :: t => do
    let (part, rest) ← nextSetPart c escaped t
    return part :: (← setParts fuel rest)

/-- How `tr` takes options. -/
def trUsage : Usage :=
  .strict (OptionForm.flags [('c', "complement"), ('d', "delete"), ('s', "squeeze-repeats"),
    ('t', "truncate-set1")] ++ OptionForm.letters "C")

/-- The bytes of a set. -/
def setBytes (count : Nat) (parts : List SetPart) : List UInt8 :=
  parts.flatMap (SetPart.bytes count)

/-- The bytes of a set in pieces: a class of letters of one case is one piece, with all else each
byte is a piece of its own. -/
def setPieces (count : Nat) (parts : List SetPart) : List (Option String × List UInt8) :=
  parts.flatMap fun p =>
    match p with
    | .named "lower" members => [(some "lower", members)]
    | .named "upper" members => [(some "upper", members)]
    | p => (p.bytes count).map fun b => (none, [b])

/-- Which bytes become which, piece by piece; nothing if a class of letters of one case does not
stand beside another one.  A class beside another one is turned into it as a whole. -/
def pairsOf? : (fuel : Nat) → List (Option String × List UInt8) →
    List (Option String × List UInt8) → Option (List (UInt8 × UInt8))
  | 0, _, _ => some []
  | _, [], _ => some []
  | _, _, [] => some []
  | fuel + 1, (k, bs) :: rest, (l, cs) :: rest' =>
    match k, l with
    | none, some _ => none
    | some _, none =>
      match bs, cs with
      | b :: bs, c :: _ =>
        let left := if bs.isEmpty then rest else (some "", bs) :: rest
        (pairsOf? fuel left rest').map ((b, c) :: ·)
      | _, _ => pairsOf? fuel rest rest'
    | some k, some _ => if k = "" then none else (pairsOf? fuel rest rest').map (bs.zip cs ++ ·)
    | none, none => (pairsOf? fuel rest rest').map (bs.zip cs ++ ·)

/-- Which bytes become which, where the first set may be taken as all that it does not hold. -/
def translation (complement truncate : Bool) (first second : List SetPart) :
    Except Text (List (UInt8 × UInt8)) := do
  let isRepeated : SetPart → Bool
    | .repeated _ none => true
    | _ => false
  let inFirst := setBytes 0 first
  let others := SetPart.allBytes.filter (!inFirst.contains ·)
  let firstLength := if complement then others.length else inFirst.length
  if 1 < second.countP isRepeated then
    throw "only one [c*] repeat construct may appear in string2".toList
  let count := firstLength - (setBytes 0 second).length
  let isSame : SetPart → Bool
    | .same _ => true
    | _ => false
  let isNamed : SetPart → Bool
    | .named .. => true
    | _ => false
  if second.any isSame then
    throw "[=c=] expressions may not appear in string2 when translating".toList
  if second.any fun p => isNamed p && !p.isCase then
    throw ("when translating, the only character classes that may appear in\n".toList ++
      "string2 are 'upper' and 'lower'".toList)
  let fitsCases := !complement && second.any isNamed
  let (pieces, pieces') := (setPieces 0 first, setPieces count second)
  let aligned := pairsOf? (firstLength + 1) pieces pieces'
  if fitsCases ∧ aligned.isNone then
    throw "misaligned [:upper:] and/or [:lower:] construct".toList
  let lengthOf (count : Nat) (parts : List SetPart) : Nat :=
    if fitsCases then (parts.map (SetPart.caseLength count)).foldl (· + ·) 0
    else (setBytes count parts).length
  let firstSize := if complement then firstLength else lengthOf 0 first
  let secondSize := lengthOf count second
  let extension : List SetPart ←
    if secondSize < firstSize ∧ ¬ truncate then
      if secondSize = 0 then
        throw "when not truncating set1, string2 must be non-empty".toList
      match second.getLast? with
      | some (.named ..) =>
        throw ("when translating with string1 longer than string2,\nthe latter string must not ".toList
          ++ "end with a character class".toList)
      | some p => pure [.repeated ((p.bytes count).getLastD 0) (some (firstSize - secondSize))]
      | none => pure []
    else pure []
  let second := second ++ extension
  let secondBytes := setBytes count second
  if complement then
    if first.any isNamed then
      if ¬ (secondBytes.length = firstLength ∧ secondBytes.all (· = secondBytes.headD 0)) then
        throw ("when translating with complemented character classes,\n".toList ++
          "string2 must map all characters in the domain to one".toList)
    return others.zip secondBytes
  return (pairsOf? (firstLength + 1) pieces (setPieces count second)).getD []

/-- Several equal bytes in a row, if they are in a set, become one. -/
def squeezed (set : ByteArray) : (last : Option UInt8) → List UInt8 → List UInt8
  | _, [] => []
  | last, b :: bs =>
    if last = some b ∧ set.get! b.toNat = 1 then squeezed set last bs
    else b :: squeezed set (some b) bs

/-- A table of all bytes, with a mark for those of a list. -/
def tableOf (bytes : List UInt8) : ByteArray :=
  bytes.foldl (fun table b => table.set! b.toNat 1) ⟨Array.replicate 256 0⟩

/-- The bytes of an operand as a set. -/
def readSet (t : Text) : Task (Except Text (List SetPart)) := do
  let (bytes, warnings) := unescaped t
  for warning in warnings do
    complain warning
  return setParts (bytes.length + 1) bytes

/-- What becomes of all input bytes: those that are left out, what the others become, and which are
squeezed. -/
structure Translation where
  dropped : ByteArray
  become : ByteArray
  squeezes : Option ByteArray

/-- Every byte as itself. -/
def identityTable : ByteArray := ⟨SetPart.allBytes.toArray⟩

/-- What options and sets ask for. -/
def Translation.ofSets (given : Given) (first : List SetPart) (second : Option (List SetPart)) :
    Except Text Translation := do
  let complement := given.hasAny "cC"
  let isRepeated : SetPart → Bool
    | .repeated _ none => true
    | _ => false
  if first.any isRepeated then
    throw "the [c*] repeat construct may not appear in string1".toList
  let inFirst := setBytes 0 first
  let chosen := if complement then SetPart.allBytes.filter (!inFirst.contains ·) else inFirst
  let secondBytes := setBytes 1 (second.getD [])
  let none := tableOf []
  if given.has "d" then
    if (second.getD []).any isRepeated then
      throw "the [c*] construct may appear in string2 only when translating".toList
    return ⟨tableOf chosen, identityTable, if given.has "s" then some (tableOf secondBytes) else .none⟩
  match second with
  | .none => return ⟨none, identityTable, some (tableOf chosen)⟩
  | some parts =>
    let pairs ← translation complement (given.has "t") first parts
    let become := pairs.foldl (fun (table : ByteArray) (b, c) => table.set! b.toNat c) identityTable
    return ⟨none, become, if given.has "s" then some (tableOf secondBytes) else .none⟩

/-- Complains of operands, with a line that tells more. -/
def refuseOperands (message : Text) (more : Option String) : Task Int := do
  complain message
  if let some line := more then Task.print 2 (line.toList ++ ['\n'])
  pointToHelp
  return 1

/-- Translates, leaves out or squeezes bytes. -/
def tr (given : Given) (operands : List Text) : Task Int := do
  let deletes := given.has "d"
  let squeezes := given.has "s"
  let least := if deletes = squeezes then 2 else 1
  let most := if deletes ∧ ¬ squeezes then 1 else 2
  match operands with
  | [] => return ← refuse "missing operand".toList 1
  | [t] =>
    if least = 2 then
      return ← refuseOperands ("missing operand after ".toList ++ Quoting.word t)
        (some (if squeezes then
          "Two strings must be given when both deleting and squeezing repeats."
        else "Two strings must be given when translating."))
  | _ =>
    if let some extra := operands[most]? then
      return ← refuseOperands ("extra operand ".toList ++ Quoting.word extra)
        (if operands.length = 2 then
          some "Only one string may be given when deleting without squeezing repeats."
        else none)
  let first ← readSet (operands.headD [])
  match first with
  | .error message => failing message
  | .ok first =>
    let second ← match operands.tail with
      | [] => pure (.ok none)
      | t :: _ => do pure ((← readSet t).map some)
    match second.bind (Translation.ofSets given first) with
    | .error message => failing message
    | .ok t =>
      match ← copy t Task.blockLimit none with
      | .ok () => return 0
      | .error fault =>
        complain ("read error: ".toList ++ fault.message)
        return 1
where
  /-- Complains and fails. -/
  failing (message : Text) : Task Int := do
    complain message
    return 1
  /-- Writes what becomes of the input, block by block, where `last` is the last byte written. -/
  copy (t : Translation) : (fuel : Nat) → (last : Option UInt8) → Task (Except FileFault Unit)
    | 0, _ => return .ok ()
    | fuel + 1, last => do
      match ← Task.take 0 Task.blockSize with
      | .error fault => return .error fault
      | .ok [] => return .ok ()
      | .ok bytes =>
        let kept := bytes.filter fun b => t.dropped.get! b.toNat = 0
        let changed := kept.map fun b => t.become.get! b.toNat
        let written := match t.squeezes with
          | some set => squeezed set last changed
          | none => changed
        emit written
        copy t fuel (written.getLast?.or last)

end LineShell.Sh.Tool
