import LineShell.Computer.Sh.Tool.Edit.Script
import LineShell.Computer.Text.Integer
import LineShell.Text.Pieces

/-!
# How editing scripts are written

Scripts are read from pieces, each of which is an argument or a file.  A fault is told with the place
where reading has come to.
-/

namespace LineShell.Sh.Tool.Edit

open Search

/-- Where a piece of a script comes from. -/
inductive Origin where
  | argument (n : Nat)
  | file (name : Text)
deriving DecidableEq, Repr

/-- A block that has not been closed yet. -/
structure OpenBlock where
  command : Nat
  origin : Origin
  line : Nat

/-- Where reading has come to. -/
structure ReadState where
  rest : Text
  /-- The length of the piece that is read. -/
  size : Nat
  origin : Origin
  line : Nat
  /-- The pieces that follow. -/
  others : List (Origin × Text)
  /-- How expressions are written. -/
  dialect : Dialect
  isFirst : Bool
  /-- The commands so far, last one first. -/
  reversed : List Command
  blocks : List OpenBlock
  labels : List (Text × Nat)
  isSilent : Bool

/-- Why a script is refused, and the exit code. -/
structure EditFault where
  message : Text
  code : Int

/-- What reads scripts. -/
abbrev Reader := StateT ReadState (Except EditFault)

namespace Reader

/-- What is wrong, after the place of it. -/
def located (origin : Origin) (line position : Nat) (message : Text) : Text :=
  match origin with
  | .argument n => "-e expression #".toList ++ numeral n ++ ", char ".toList ++ numeral position ++
      ": ".toList ++ message
  | .file name => "file ".toList ++ name ++ " line ".toList ++ numeral line ++ ": ".toList ++ message

/-- Refuses the script at the place where reading has come to. -/
def refuse {α : Type} (message : Text) : Reader α := do
  let s ← get
  throw ⟨located s.origin s.line (s.size - s.rest.length) message, 1⟩

/-- Refuses the script. -/
def fail {α : Type} (message : String) : Reader α := refuse message.toList

/-- The next character, which is not passed over. -/
def peek? : Reader (Option Char) := do
  return (← get).rest.head?

/-- Passes over the next character and gives it. -/
def next? : Reader (Option Char) := do
  let s ← get
  match s.rest with
  | [] => return none
  | c :: rest =>
    set { s with rest, line := if c = '\n' then s.line + 1 else s.line }
    return some c

/-- Passes over characters of a kind, and gives them. -/
def takeWhile (p : Char → Bool) : Reader Text := do
  let s ← get
  let taken := s.rest.takeWhile p
  set { s with rest := s.rest.drop taken.length, line := s.line + taken.count '\n' }
  return taken

/-- The character is a blank. -/
def isBlankChar (c : Char) : Bool := c = ' ' || c = '\t'

/-- Passes over blanks and the character after them, and gives it. -/
def nextNonblank? : Reader (Option Char) := do
  let _ ← takeWhile isBlankChar
  next?

/-- Passes over blanks, and looks at the character after them. -/
def peekNonblank? : Reader (Option Char) := do
  let _ ← takeWhile isBlankChar
  peek?

/-- The number whose first digit has been read. -/
def numberFrom (c : Char) : Reader Nat := do
  return digitsValue (c :: (← takeWhile Char.isDigit))

/-- The number that follows after blanks, or zero. -/
def number : Reader Nat := do
  let _ ← takeWhile isBlankChar
  return digitsValue (← takeWhile Char.isDigit)

/-- Passes over the end of a command. -/
def endCommand : Reader Unit := do
  match ← peekNonblank? with
  | some '\x7d' => pure ()
  | some '#' => pure ()
  | _ =>
    match ← next? with
    | none => pure ()
    | some '\n' => pure ()
    | some ';' => pure ()
    | some _ => fail "extra characters after command"

/-- What letters after a backslash spell in all parts of a script. -/
def spelled? (c : Char) : Option Char :=
  ("afnrtv".toList.zip "\x07\x0c\n\x0d\t\x0b".toList).lookup c

/-- The character that a number after a backslash and a letter spells, in the base that the letter
tells, and what follows. -/
def numbered? (letter : Char) (t : Text) : Option (Char × Text) :=
  let (base, most) : Nat × Nat :=
    if letter = 'd' then (10, 3) else if letter = 'o' then (8, 3) else (16, 2)
  if ¬ ['d', 'o', 'x'].contains letter then none
  else
    let digits := (t.take most).takeWhile fun c => (digitIn? base c).isSome
    if digits.isEmpty then none
    else some (Char.ofNat (digitsIn base digits % 256), t.drop digits.length)

/-- What a backslash and what follows it spell, and the text after that, in all parts of a script. -/
def escape? : Text → Option (Char × Text)
  | 'c' :: c :: t => some (Char.ofNat (c.toUpper.toNat ^^^ 0x40), t)
  | c :: t =>
    match spelled? c with
    | some d => some (d, t)
    | none => numbered? c t
  | [] => none

/-- The part of an expression between delimiters, read up to the second one, in at most `fuel` steps.
Between brackets the delimiter stands for itself; `bracket` is what closes those that are open.
Nothing if the delimiter is not there. -/
def delimited (delimiter : Char) (isExpression : Bool) :
    (fuel : Nat) → (bracket : Option (Option Char)) → (reversed : Text) → Reader (Option Text)
  | 0, _, _ => return none
  | fuel + 1, bracket, reversed => do
    if (← peek?) = some '\n' then
      let s ← get
      set { s with line := s.line + if s.origin matches .file _ then 1 else 0 }
      return none
    match ← next?, bracket with
    | none, _ => return none
    | some '\\', none =>
      match ← next? with
      | none => return none
      | some 'n' =>
        if isExpression then delimited delimiter isExpression fuel none ('\n' :: reversed)
        else delimited delimiter isExpression fuel none ('n' :: '\\' :: reversed)
      | some c =>
        let isBare := c = '\n' || (c = delimiter && (isExpression || c ≠ '&'))
        delimited delimiter isExpression fuel none
          (if isBare then c :: reversed else c :: '\\' :: reversed)
    | some c, none =>
      if c = delimiter then return some reversed.reverse
      if c = '[' && isExpression then
        let caret : Text := if (← peek?) = some '^' then ['^'] else []
        let _ ← if caret.isEmpty then pure none else next?
        let close : Text := if (← peek?) = some ']' then [']'] else []
        let _ ← if close.isEmpty then pure none else next?
        delimited delimiter isExpression fuel (some none) (close ++ caret ++ c :: reversed)
      else delimited delimiter isExpression fuel none (c :: reversed)
    | some '\\', some none =>
      match ← peek? with
      | some 'n' =>
        let _ ← next?
        delimited delimiter isExpression fuel bracket ('\n' :: reversed)
      | some '\\' =>
        let _ ← next?
        delimited delimiter isExpression fuel bracket ('\\' :: '\\' :: reversed)
      | _ => delimited delimiter isExpression fuel bracket ('\\' :: reversed)
    | some c, some none =>
      let inner ← peek?
      if c = ']' then delimited delimiter isExpression fuel none (c :: reversed)
      else if c = '[' && (inner = some ':' || inner = some '.' || inner = some '=') then
        let _ ← next?
        delimited delimiter isExpression fuel (some inner) (inner.getD ':' :: c :: reversed)
      else delimited delimiter isExpression fuel bracket (c :: reversed)
    | some c, some (some mark) =>
      if c = mark && (← peek?) = some ']' then
        let _ ← next?
        delimited delimiter isExpression fuel (some none) (']' :: c :: reversed)
      else delimited delimiter isExpression fuel bracket (c :: reversed)

/-- The part between delimiters. -/
def part (delimiter : Option Char) (isExpression : Bool) (fault : String) : Reader Text := do
  match delimiter with
  | none => fail fault
  | some c =>
    if c = '\n' ∨ c = '\\' then fail fault
    match ← delimited c isExpression ((← get).rest.length + 1) none [] with
    | none => fail fault
    | some t => return t

/-- An expression with what backslashes spell in its place. -/
def unescaped : (fuel : Nat) → Text → Text
  | 0, t => t
  | _, [] => []
  | fuel + 1, '\\' :: t =>
    match t with
    | 'c' :: _ :: _ => (escape? t).elim ('\\' :: t) fun (c, rest) => c :: unescaped fuel rest
    | c :: rest =>
      match escape? t with
      | some (d, rest) => d :: unescaped fuel rest
      | none => '\\' :: c :: unescaped fuel rest
    | [] => ['\\']
  | fuel + 1, c :: t => c :: unescaped fuel t

/-- An expression, or none if it is empty and stands for the last one. -/
def sought (t : Text) (ignoresCase isMultiline : Bool) : Reader (Option Sought) := do
  if t.isEmpty then
    if ignoresCase ∨ isMultiline then fail "cannot specify modifiers on empty regexp"
    return none
  match compile (← get).dialect (symbols (unescaped (t.length + 1) t)).toList with
  | .ok c => return some ⟨c.expression, c.groups, ignoresCase, isMultiline⟩
  | .error .loneClass => throw ⟨SearchFault.loneClass.message.toList, 4⟩
  | .error fault => fail fault.message

/-- The letters behind an expression that selects lines. -/
def modifiers : (fuel : Nat) → (ignoresCase isMultiline : Bool) → Reader (Bool × Bool)
  | 0, i, m => return (i, m)
  | fuel + 1, i, m => do
    match ← peekNonblank? with
    | some 'I' =>
      let _ ← next?
      modifiers fuel true m
    | some 'M' =>
      let _ ← next?
      modifiers fuel i true
    | _ => return (i, m)

/-- What selects lines, if a character begins that, which has been read. -/
def limit? (c : Option Char) : Reader (Option Limit) := do
  match c with
  | some '$' => return some (.at .last)
  | some '+' => return some (.plus (← number))
  | some '~' => return some (.multiple (← number))
  | some c =>
    if c = '/' ∨ c = '\\' then
      let delimiter ← if c = '/' then pure (some c) else next?
      let t ← part delimiter true "unterminated address regex"
      let (i, m) ← modifiers ((← get).rest.length + 1) false false
      return some (.at (.matching (← sought t i m)))
    else if c.isDigit then
      let n ← numberFrom c
      if (← peekNonblank?) = some '~' then
        let _ ← next?
        let step ← number
        return some (.at (if step = 0 then .line n else .every n step))
      return some (.at (.line n))
    else return none
  | none => return none

/-- The text of a command, up to a newline with no backslash in front, where the next piece goes on
if this one ends too early. -/
def textWithin : (fuel : Nat) → (reversed : Text) → Reader Text
  | 0, reversed => return reversed.reverse
  | fuel + 1, reversed => do
    match ← next? with
    | none => return ('\n' :: reversed).reverse
    | some '\n' => return ('\n' :: reversed).reverse
    | some '\\' =>
      match (← get).rest with
      | [] =>
        if ← nextPiece then textWithin fuel ('\n' :: reversed)
        else return ('\n' :: reversed).reverse
      | t =>
        match escape? t with
        | some (c, rest) =>
          modify fun s => { s with rest }
          textWithin fuel (c :: reversed)
        | none =>
          let c ← next?
          textWithin fuel (c.toList ++ reversed)
    | some c => textWithin fuel (c :: reversed)
where
  /-- Goes on with the next piece, if there is one. -/
  nextPiece : Reader Bool := do
    let s ← get
    match s.others with
    | [] => return false
    | (origin, t) :: others =>
      set { s with rest := t, size := t.length, origin, line := 1, others, isFirst := false }
      return true

/-- How many characters there are in all pieces. -/
def amount : Reader Nat := do
  let s ← get
  return s.rest.length + (s.others.map fun other => other.2.length + 1).foldl (· + ·) 0 + 2

/-- The text that a command takes. -/
def commandText : Reader Text := do
  let fault := "expected \\ after \x60a', \x60c' or \x60i'"
  match ← nextNonblank? with
  | none => fail fault
  | some '\n' => fail fault
  | some '\\' =>
    match ← peek? with
    | none => if ← textWithin.nextPiece then textWithin (← amount) [] else return []
    | some '\n' =>
      let _ ← next?
      if (← get).rest.isEmpty && (← get).others.isEmpty then return []
      textWithin (← amount) []
    | some '\\' => textWithin (← amount) []
    | some c =>
      let _ ← next?
      textWithin (← amount) [c]
  | some c =>
    modify fun s => { s with rest := c :: s.rest }
    textWithin (← amount) []

/-- The name of a file that takes up the rest of a line. -/
def fileName : Reader Text := do
  let _ ← takeWhile isBlankChar
  let name ← takeWhile (· ≠ '\n')
  if name.isEmpty then fail "missing filename in r/R/w/W commands"
  let _ ← next?
  return name

/-- A label. -/
def label : Reader Text := do
  let _ ← takeWhile isBlankChar
  takeWhile fun c => !isSpace c && c ≠ ';' && c ≠ '\x7d'

/-- The parts of what replaces something. -/
def pieces : (fuel : Nat) → Text → List Piece
  | 0, _ => []
  | _, [] => []
  | fuel + 1, '&' :: t => .group 0 :: pieces fuel t
  | fuel + 1, '\\' :: t =>
    match t with
    | [] => [.text ['\\']]
    | 'U' :: t => .change .upper :: pieces fuel t
    | 'L' :: t => .change .lower :: pieces fuel t
    | 'E' :: t => .change .none :: pieces fuel t
    | 'u' :: t => .change .upperNext :: pieces fuel t
    | 'l' :: t => .change .lowerNext :: pieces fuel t
    | c :: rest =>
      if c.isDigit then .group (c.toNat - '0'.toNat) :: pieces fuel rest
      else
        match escape? t with
        | some (d, rest) => .text [d] :: pieces fuel rest
        | none => .text [c] :: pieces fuel rest
  | fuel + 1, c :: t => .text [c] :: pieces fuel t

/-- What stands behind a replacement, before the expression is read: the substitution and the two
ways to search. -/
def substitutionFlags : (fuel : Nat) → Substitution × Bool × Bool → Reader (Substitution × Bool × Bool)
  | 0, s => return s
  | fuel + 1, (s, i, m) => do
    match ← peek? with
    | some '\x7d' => return (s, i, m)
    | some '#' => return (s, i, m)
    | _ =>
      match ← next? with
      | none => return (s, i, m)
      | some '\n' => return (s, i, m)
      | some ';' => return (s, i, m)
      | some ' ' => substitutionFlags fuel (s, i, m)
      | some '\t' => substitutionFlags fuel (s, i, m)
      | some 'i' => substitutionFlags fuel (s, true, m)
      | some 'I' => substitutionFlags fuel (s, true, m)
      | some 'm' => substitutionFlags fuel (s, i, true)
      | some 'M' => substitutionFlags fuel (s, i, true)
      | some 'e' => substitutionFlags fuel ({ s with evaluates := true }, i, m)
      | some 'p' =>
        if s.prints then fail "multiple \x60p' options to \x60s' command"
        substitutionFlags fuel ({ s with prints := true }, i, m)
      | some 'g' =>
        if s.isGlobal then fail "multiple \x60g' options to \x60s' command"
        substitutionFlags fuel ({ s with isGlobal := true }, i, m)
      | some 'w' => return ({ s with target := some (← fileName) }, i, m)
      | some c =>
        if c.isDigit then
          if s.number ≠ 0 then fail "multiple number options to \x60s' command"
          let n ← numberFrom c
          if n = 0 then fail "number option to \x60s' command may not be zero"
          substitutionFlags fuel ({ s with number := n }, i, m)
        else fail "unknown option to \x60s'"

/-- A replacement of what is found. -/
def substitution : Reader Action := do
  let fault := "unterminated \x60s' command"
  let delimiter ← next?
  let expression ← part delimiter true fault
  let replacement ← part delimiter false fault
  let found := pieces (replacement.length + 1) replacement
  let (s, i, m) ← substitutionFlags ((← get).rest.length + 1)
    (⟨none, found, false, 0, false, false, none⟩, false, false)
  let sought ← sought expression i m
  let greatest := (found.map fun
    | .group n => n
    | _ => 0).foldl max 0
  if let some e := sought then
    if e.groups < greatest then
      refuse ("invalid reference \\".toList ++ numeral greatest ++
        " on \x60s' command's RHS".toList)
  return .substitute { s with sought }

/-- One side of a translation. -/
def translated : (fuel : Nat) → Text → Text
  | 0, t => t
  | _, [] => []
  | fuel + 1, '\\' :: '\\' :: t => '\\' :: translated fuel t
  | fuel + 1, '\\' :: t =>
    match escape? t with
    | some (c, rest) => c :: translated fuel rest
    | none => translated fuel t
  | fuel + 1, c :: t => c :: translated fuel t

/-- A translation of characters. -/
def translation : Reader Action := do
  let fault := "unterminated \x60y' command"
  let delimiter ← next?
  let source ← part delimiter false fault
  let target ← part delimiter false fault
  let source := (symbols (translated (source.length + 1) source)).toList
  let target := (symbols (translated (target.length + 1) target)).toList
  if source.length ≠ target.length then fail "strings for \x60y' command are different lengths"
  endCommand
  return .translate (source.zip target)

/-- A command that may have a number behind it. -/
def numbered (action : Option Nat → Action) : Reader Action := do
  let n ← match ← peekNonblank? with
    | some c => if c.isDigit then some <$> number else pure none
    | none => pure none
  endCommand
  return action n

/-- A command that takes nothing. -/
def alone (action : Action) : Reader Action := do
  endCommand
  return action

/-- Adds a command. -/
def add (c : Command) : Reader Unit :=
  modify fun s => { s with reversed := c :: s.reversed }

/-- How many commands there are. -/
def count : Reader Nat := do
  return (← get).reversed.length

/-- Ends a block. -/
def closeBlock (hasAddress : Bool) : Reader Unit := do
  match (← get).blocks with
  | [] => fail "unexpected \x60\x7d'"
  | b :: blocks =>
    if hasAddress then fail "\x60\x7d' doesn't want any addresses"
    endCommand
    let n ← count
    modify fun s => { s with
      blocks
      reversed := s.reversed.zipIdx.map fun (c, i) =>
        if i + b.command + 1 = n then { c with action := .block n } else c }

/-- What a command does whose letter has been read; nothing if it is no command that stays. -/
def action? (letter : Option Char) (first : Option Address) (limit : Option Limit) :
    Reader (Option Action) := do
  let letter ← match letter with
    | none => fail "missing command"
    | some c => pure c
  let one (action : Reader Action) : Reader (Option Action) := do
    if limit.isSome then fail "command only uses one address"
    return some (← action)
  match letter with
  | '#' =>
    if first.isSome then fail "comments don't accept any addresses"
    let s ← get
    if s.isFirst ∧ s.size = s.rest.length + 1 ∧ s.rest.head? = some 'n' then
      set { s with isSilent := true }
    let _ ← takeWhile (· ≠ '\n')
    return none
  | ':' =>
    if first.isSome then fail ": doesn't want any addresses"
    let name ← label
    if name.isEmpty then fail "\":\" lacks a label"
    let n ← count
    modify fun s => { s with labels := (name, n) :: s.labels }
    return none
  | '\x7b' =>
    let s ← get
    set { s with blocks := ⟨← count, s.origin, s.line⟩ :: s.blocks }
    return some (.block 0)
  | '\x7d' =>
    closeBlock first.isSome
    return none
  | 'v' =>
    let wanted ← label
    if Versions.compared wanted "4.9".toList = .gt then fail "expected newer version of sed"
    return none
  | 'a' => return some (.append (← commandText))
  | 'i' => return some (.insert (← commandText))
  | 'c' => return some (.change (← commandText))
  | 'e' =>
    let _ ← takeWhile isBlankChar
    let command ← takeWhile (· ≠ '\n')
    let _ ← next?
    return some (.run (if command.isEmpty then none else some command))
  | 'q' => one (numbered fun n => .quit (n.getD 0))
  | 'Q' => one (numbered fun n => .quitSilently (n.getD 0))
  | 'l' => numbered .spell
  | 'r' => return some (.readFile (← fileName))
  | 'R' => return some (.readLine (← fileName))
  | 'w' => return some (.write (← fileName))
  | 'W' => return some (.writeFirst (← fileName))
  | 's' => substitution
  | 'y' => translation
  | 'b' => return some (.jump .always (← label))
  | 't' => return some (.jump .afterReplacing (← label))
  | 'T' => return some (.jump .unlessReplacing (← label))
  | '=' => alone .number
  | 'd' => alone .delete
  | 'D' => alone .deleteFirst
  | 'F' => alone .name
  | 'g' => alone .recall
  | 'G' => alone .recallMore
  | 'h' => alone .keep
  | 'H' => alone .keepMore
  | 'n' => alone .next
  | 'N' => alone .nextMore
  | 'p' => alone .print
  | 'P' => alone .printFirst
  | 'x' => alone .exchange
  | 'z' => alone .clear
  | c => refuse ("unknown command: \x60".toList ++ [c, '\''])

/-- The addresses in front of a command whose first character has been read, and the next one. -/
def addresses (c : Option Char) : Reader (Option Address × Option Limit × Option Char) := do
  match ← limit? c with
  | none => return (none, none, c)
  | some (.plus _) => fail "invalid usage of +N or ~N as first address"
  | some (.multiple _) => fail "invalid usage of +N or ~N as first address"
  | some (.at first) =>
    let c ← nextNonblank?
    let (limit, c) ← if c = some ',' then do
        match ← limit? (← nextNonblank?) with
        | none => fail "unexpected \x60,'"
        | some limit => pure (some limit, ← nextNonblank?)
      else pure (none, c)
    let isAllowed : Bool := match first, limit with
      | .line 0, some (.at (.matching _)) => true
      | .line 0, _ => false
      | _, _ => true
    if ¬ isAllowed then fail "invalid usage of line address 0"
    return (some first, limit, c)

/-- Reads commands, at most as many as given. -/
def commands : (fuel : Nat) → Reader Unit
  | 0 => pure ()
  | fuel + 1 => do
    let _ ← takeWhile fun c => c = ';' || isSpace c
    match ← next? with
    | none => if ← textWithin.nextPiece then commands fuel
    | some c =>
      let (first, limit, c) ← addresses (some c)
      let isNegated := c = some '!'
      let c ← if isNegated then nextNonblank? else pure c
      if isNegated && c = some '!' then fail "multiple \x60!'s"
      if let some action ← action? c first limit then add ⟨first, limit, isNegated, action⟩
      commands fuel

/-- The script of all pieces. -/
def script : Reader Script := do
  commands (← amount)
  let s ← get
  if let some b := s.blocks.head? then
    throw ⟨located b.origin b.line 0 "unmatched \x60\x7b'".toList, 1⟩
  for c in s.reversed.reverse do
    if let .jump _ name := c.action then
      if ¬ name.isEmpty ∧ (s.labels.lookup name).isNone then
        throw ⟨"can't find label for jump to \x60".toList ++ name ++ ['\''], 4⟩
  return ⟨s.reversed.reverse.toArray, s.labels, s.isSilent⟩

end Reader

/-- Reads a script from its pieces. -/
def Script.ofPieces (dialect : Dialect) : List (Origin × Text) → Except EditFault Script
  | [] => .ok ⟨#[], [], false⟩
  | (origin, t) :: others =>
    (Reader.script.run
      ⟨t, t.length, origin, 1, others, dialect, true, [], [], [], false⟩).map Prod.fst

end LineShell.Sh.Tool.Edit
