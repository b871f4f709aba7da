import LineShell.Computer.Search.Basic

/-!
# How expressions are written

Expressions are written in one of two ways.  In the basic one most characters stand for themselves
and a backslash makes operators of some; in the extended one the operators stand alone and a
backslash takes their meaning from them.  Programs differ in what they make of operators with nothing
before them.
-/

namespace LineShell.Search

/-- Why a text is no expression. -/
inductive SearchFault where
  | openGroup
  | strayClose
  | openBracket
  | emptyBracket
  | openBrace
  | badBrace
  | badRange
  | badReference
  | nothingToRepeat
  | trailingBackslash
  | badClass
  | badCollation
  | tooBig
  | loneClass
deriving DecidableEq, Repr

/-- The text of a fault. -/
def SearchFault.message : SearchFault → String
  | openGroup => "Unmatched ( or \\("
  | strayClose => "Unmatched ) or \\)"
  | openBracket => "Unmatched [, [^, [:, [., or [="
  | emptyBracket => "Invalid regular expression"
  | openBrace => "Unmatched \\\x7b"
  | badBrace => "Invalid content of \\\x7b\\\x7d"
  | badRange => "Invalid range end"
  | badReference => "Invalid back reference"
  | nothingToRepeat => "Invalid preceding regular expression"
  | trailingBackslash => "Trailing backslash"
  | badClass => "Invalid character class name"
  | badCollation => "Invalid collation character"
  | tooBig => "Regular expression too big"
  | loneClass => "character class syntax is [[:space:]], not [:space:]"

/-- What becomes of an operator with nothing before it. -/
inductive Leading where
  /-- It stands for itself. -/
  | literal
  /-- It is passed over with a warning. -/
  | skipped
  | refused
deriving DecidableEq, Repr

/-- How expressions are written for a program. -/
structure Dialect where
  isExtended : Bool
  leading : Leading
  /-- Braces that hold no numbers stand for themselves. -/
  keepsBraces : Bool
  /-- A closing bracket without an opening one stands for itself. -/
  keepsClose : Bool
  /-- Braces say how often something is repeated. -/
  hasBraces : Bool
  /-- A backslash spells characters, also between brackets. -/
  hasEscapes : Bool
  /-- A question mark after an operator makes it lazy, and backslashes name classes. -/
  hasLaziness : Bool

namespace Dialect

/-- The basic way. -/
def basic : Dialect := ⟨false, .literal, false, false, true, false, false⟩

/-- The extended way. -/
def extended : Dialect := ⟨true, .refused, false, false, true, false, false⟩

/-- The extended way of a program that searches files. -/
def lenient : Dialect := ⟨true, .skipped, true, true, true, false, false⟩

/-- The extended way with escapes, in which braces stand for themselves. -/
def escaped : Dialect := ⟨true, .literal, true, true, false, true, false⟩

/-- The extended way with lazy operators and more classes. -/
def rich : Dialect := ⟨true, .refused, true, false, true, true, true⟩

end Dialect

/-- Where reading has come to. -/
structure ReadState where
  rest : List Symbol
  /-- How many groups have been opened. -/
  opened : Nat
  /-- The groups that have been closed. -/
  closed : List Nat
  /-- The operators that were passed over. -/
  warnings : List String
  /-- Letters stand for their capital and small forms. -/
  isCaseless : Bool

/-- What reads expressions. -/
abbrev Reader := StateT ReadState (Except SearchFault)

namespace Reader

/-- The number of a character. -/
def code (c : Char) : Symbol := c.toNat

/-- The symbols to come begin with some characters. -/
def sees (t : String) : Reader Bool := do
  return (t.toList.map code).isPrefixOf (← get).rest

/-- Passes over symbols. -/
def skip (n : Nat) : Reader Unit :=
  modify fun s => { s with rest := s.rest.drop n }

/-- Passes over some characters if they are next. -/
def takes (t : String) : Reader Bool := do
  if ← sees t then
    skip t.length
    return true
  return false

/-- The next symbol. -/
def peek? : Reader (Option Symbol) := do
  return (← get).rest.head?

/-- The digits to come. -/
def digits : Reader Text := do
  let ds := (← get).rest.takeWhile fun s => s < 0x80 && (Char.ofNat s).isDigit
  skip ds.length
  return ds.map Char.ofNat

/-- The greatest number of repetitions. -/
def mostRepetitions : Nat := 32767

/-- What stands between braces after an opening one: how often at least and at most.  There is none
if the braces hold something else. -/
def interval (d : Dialect) : Reader (Option (Nat × Option Nat)) := do
  let start := (← get).rest
  let close := if d.isExtended then "\x7d" else "\\\x7d"
  let least ← digits
  let comma ← takes ","
  let most ← if comma then digits else pure []
  if (← takes close) && !(least.isEmpty && !comma) then
    let least' := digitsValue least
    let most' := if comma then (if most.isEmpty then none else some (digitsValue most))
      else some least'
    if most'.any (· < least') then throw .badBrace
    if mostRepetitions < least' ∨ most'.any (mostRepetitions < ·) then throw .tooBig
    return some (least', most')
  else if d.keepsBraces then
    modify fun s => { s with rest := start }
    return none
  else
    let closeCode := (close.toList.map code).getLastD 0
    throw (if start.contains closeCode then .badBrace else .openBrace)

/-- The character that a letter after a backslash spells. -/
def spelled? (c : Char) : Option Char :=
  ("abfnrtv".toList.zip "\x07\x08\x0c\n\x0d\t\x0b".toList).lookup c

/-- The name between brackets with a mark, up to the mark and a closing bracket. -/
def nameIn (mark : Char) : (fuel : Nat) → List Symbol → Except SearchFault (List Symbol × List Symbol)
  | 0, _ => .error .openBracket
  | _, [] => .error .openBracket
  | fuel + 1, a :: rest =>
    if a = code mark ∧ rest.head? = some (code ']') then .ok ([], rest.tail)
    else do
      let (name, rest) ← nameIn mark fuel rest
      return (a :: name, rest)

/-- One element between brackets, and whether it is a class. -/
def element (d : Dialect) (isFirst : Bool) : Reader (SetItem × Bool) := do
  match (← get).rest with
  | [] => throw .openBracket
  | a :: rest =>
    let next := rest.head?
    if a = code '[' then
      if next = some (code ':') then
        let (name, rest) ← nameIn ':' rest.length rest.tail
        match SymbolClass.table.lookup (String.ofList (name.map Char.ofNat)) with
        | some k =>
          modify fun s => { s with rest }
          return (.named k, true)
        | none => throw .badClass
      else if next = some (code '=') ∨ next = some (code '.') then
        let mark := if next = some (code '=') then '=' else '.'
        match ← nameIn mark rest.length rest.tail with
        | ([b], rest) =>
          modify fun s => { s with rest }
          return (.single b, mark = '=')
        | _ => throw .badCollation
    if a = code '\\' ∧ d.hasEscapes then
      match next with
      | none => throw .openBracket
      | some b =>
        skip 2
        let c := Char.ofNat b
        let classes := if d.hasLaziness then
          [('d', SymbolClass.digit), ('w', .word), ('s', .space)] else []
        match classes.lookup c with
        | some k => return (.named k, true)
        | none => return (.single (((spelled? c).map code).getD b), false)
    else
      if a = code '-' ∧ ¬ isFirst ∧ next ≠ some (code ']') then throw .badRange
      skip 1
      return (.single a, false)

/-- The items between brackets, after the first of which `isFirst` is false. -/
def items (d : Dialect) : (fuel : Nat) → (isFirst : Bool) → Reader (List SetItem)
  | 0, _ => throw .openBracket
  | fuel + 1, isFirst => do
    if (← sees "]") && !isFirst then
      skip 1
      return []
    let (item, isClass) ← element d isFirst
    let rest := (← get).rest
    let isRange := rest.head? = some (code '-') && rest.tail.head?.any (· ≠ code ']')
    match item, isRange && !isClass with
    | .single first, true =>
      skip 1
      let (other, isClass) ← element d true
      match other, isClass with
      | .single last, false =>
        if last < first then throw .badRange
        return .range first last :: (← items d fuel false)
      | _, _ => throw .badRange
    | item, _ => return item :: (← items d fuel false)

/-- A set between brackets, after the opening one. -/
def bracketed (d : Dialect) : Reader Expression := do
  let start := (← get).rest
  let isNegated ← takes "^"
  if (← get).rest.isEmpty then throw .emptyBracket
  let found ← items d (start.length + 1) true
  let used := start.take (start.length - (← get).rest.length)
  let inner := used.dropLast
  if 2 < inner.length ∧ inner.head? = some (code ':') ∧ inner.getLast? = some (code ':') then
    throw .loneClass
  return .set isNegated found

/-- An expression for symbols of a class. -/
def classed (k : SymbolClass) (isNegated : Bool) : Expression := .set isNegated [.named k]

/-- The expressions for letters after a backslash. -/
def special? (d : Dialect) (c : Char) : Option Expression :=
  match c with
  | 'w' => some (classed .word false)
  | 'W' => some (classed .word true)
  | 's' => some (classed .space false)
  | 'S' => some (classed .space true)
  | 'd' => if d.hasLaziness then some (classed .digit false) else none
  | 'D' => if d.hasLaziness then some (classed .digit true) else none
  | 'h' => if d.hasLaziness then some (classed .blank false) else none
  | 'A' => if d.hasLaziness then some (.mark .textStart) else none
  | 'z' => if d.hasLaziness then some (.mark .textEnd) else none
  | 'K' => if d.hasLaziness then some .cut else none
  | 'b' => some (.mark .wordEdge)
  | 'B' => some (.mark .noWordEdge)
  | '<' => some (.mark .wordStart)
  | '>' => some (.mark .wordEnd)
  | '\x60' => some (.mark .textStart)
  | '\'' => some (.mark .textEnd)
  | _ => none

/-- What a backslash and a character mean that are no operator. -/
def escape (d : Dialect) (a : Symbol) : Reader Expression := do
  let c := Char.ofNat a
  if d.hasEscapes ∧ ¬ d.hasLaziness then
    return .literal (((spelled? c).map code).getD a)
  match special? d c with
  | some e => return e
  | none =>
    if c.isDigit ∧ c ≠ '0' then
      let k := c.toNat - '0'.toNat
      if (← get).closed.contains k then return .again k else throw .badReference
    else if d.hasEscapes then return .literal (((spelled? c).map code).getD a)
    else return .literal a

/-- How often at least and at most the next operator repeats what is before it, if there is one. -/
def repetition? (d : Dialect) : Reader (Option (Nat × Option Nat)) := do
  if ← takes "*" then return some (0, none)
  let (plus, question, brace) :=
    if d.isExtended then ("+", "?", "\x7b") else ("\\+", "\\?", "\\\x7b")
  if ← takes plus then return some (1, none)
  if ← takes question then return some (0, some 1)
  if d.hasBraces then
    let start := (← get).rest
    if ← takes brace then
      match ← interval d with
      | some found => return some found
      | none => modify fun s => { s with rest := start }
  return none

/-- An expression with operators behind it that repeat it, at most as many as given. -/
def withRepetitions (d : Dialect) : (fuel : Nat) → Expression → Reader Expression
  | 0, e => return e
  | fuel + 1, e => do
    match ← repetition? d with
    | none => return e
    | some (least, most) =>
      let isLazy ← if d.hasLaziness then takes "?" else pure false
      withRepetitions d fuel (.repeated e least most isLazy)

/-- One expression after another one that may be missing. -/
def joined (before : Option Expression) (e : Expression) : Option Expression :=
  match before with
  | none => some e
  | some b => some (.inOrder b e)

/-- What opens, closes and separates groups. -/
def groupMarks (d : Dialect) : String × String × String :=
  if d.isExtended then ("(", ")", "|") else ("\\(", "\\)", "\\|")

/-- The symbols to come close a group, begin another alternative, or are none. -/
def isAtEnd (d : Dialect) (inGroup : Bool) : Reader Bool := do
  let (_, close, bar) := groupMarks d
  let closes := inGroup || (d.isExtended && !d.keepsClose) || !d.isExtended
  return (← get).rest.isEmpty || (← sees bar) || (closes && (← sees close))

/-- The operator that is next, with nothing before it, is passed over or refused, or else it stands
for itself, which is told by the result. -/
def leadingOperator (d : Dialect) : Reader (Option Expression) := do
  let start := (← get).rest
  if d.isExtended then
    if d.leading = .refused && d.hasBraces && (← sees "\x7b") then throw .nothingToRepeat
    match ← repetition? d with
    | none => return none
    | some _ =>
      match d.leading with
      | .refused => throw .nothingToRepeat
      | .skipped =>
        let shown := match start.head? with
          | some a => if a = 0x7B then "\x7b...\x7d" else String.singleton (Char.ofNat a)
          | none => ""
        modify fun s => { s with warnings := s.warnings ++ [shown ++ " at start of expression"] }
        return some .empty
      | .literal =>
        modify fun s => { s with rest := start.drop 1 }
        return some (.literal (start.headD 0))
  else
    if ← takes "*" then return some (.literal (code '*'))
    if ← takes "\\+" then return some (.literal (code '+'))
    if ← takes "\\?" then return some (.literal (code '?'))
    if ← sees "\\\x7b" then throw .nothingToRepeat
    return none

/-- The marks of what is ahead of a place or before it, the second of which denies it. -/
def lookMark? (mark denial : String) : Reader (Option Bool) := do
  if ← takes mark then return some false
  if ← takes denial then return some true
  return none

/-- An expression for single symbols in which letters stand for their capital and small forms, if so
told. -/
def caselessIf (isCaseless : Bool) (e : Expression) : Expression :=
  if ¬ isCaseless then e
  else
    let both (i : SetItem) : List SetItem :=
      match i with
      | .single a => [.single (small a), .single (capital a)]
      | .range a b => [i, .range (small a) (small b), .range (capital a) (capital b)]
      | .named _ => [i]
    match e with
    | .literal a => .set false (both (.single a))
    | .set negated found => .set negated (found.flatMap both)
    | e => e

mutual

/-- One alternative. -/
def branch (d : Dialect) (inGroup : Bool) :
    (fuel : Nat) → (before : Option Expression) → (start : Bool) → Reader Expression
  | 0, before, _ => return before.getD .empty
  | fuel + 1, before, start => do
    if ← isAtEnd d inGroup then return before.getD .empty
    if start then
      if let some e ← leadingOperator d then
        if e = .empty then return ← branch d inGroup fuel before true
        let e ← withRepetitions d fuel e
        return ← branch d inGroup fuel (joined before e) false
    let (e, isAnchor) ← atom d fuel start
    if isAnchor then branch d inGroup fuel (joined before e) true
    else
      let e ← withRepetitions d fuel e
      branch d inGroup fuel (joined before e) false

/-- One thing that can be repeated, or else an anchor at the beginning, which is told. -/
def atom (d : Dialect) : (fuel : Nat) → (start : Bool) → Reader (Expression × Bool)
  | 0, _ => return (.empty, false)
  | fuel + 1, start => do
    let (opening, close, bar) := groupMarks d
    if ← takes opening then
      if d.hasLaziness then
        if ← takes "?i)" then
          modify fun s => { s with isCaseless := true }
          return (.empty, true)
        let ahead ← lookMark? "?=" "?!"
        let behind ← lookMark? "?<=" "?<!"
        let isBare ← takes "?:"
        if ahead.isSome || behind.isSome || isBare then
          let e ← alternatives d true fuel
          if ¬ (← takes close) then throw .openGroup
          match ahead, behind with
          | some negated, _ => return (.look true negated e, true)
          | none, some negated => return (.look false negated e, true)
          | none, none => return (e, false)
        if ← takes "?<" then
          modify fun s => { s with rest := (s.rest.dropWhile (· ≠ code '>')).tail }
      let number := (← get).opened + 1
      modify fun s => { s with opened := number }
      let e ← alternatives d true fuel
      if ¬ (← takes close) then throw .openGroup
      modify fun s => { s with closed := number :: s.closed }
      return (.group number e, false)
    if ← takes "[" then return (caselessIf (← get).isCaseless (← bracketed d), false)
    if ← takes "." then return (.any, false)
    if ← sees "^" then
      if d.isExtended || start then
        skip 1
        return (.mark .lineStart, true)
    if ← sees "$" then
      let saved := (← get).rest
      skip 1
      let isLast := d.isExtended || (← get).rest.isEmpty || (← sees close) || (← sees bar)
      if isLast then return (.mark .lineEnd, false)
      modify fun s => { s with rest := saved }
    match (← get).rest with
    | [] => return (.empty, false)
    | [0x5C] => throw .trailingBackslash
    | 0x5C :: a :: _ =>
      skip 2
      return (caselessIf (← get).isCaseless (← escape d a), false)
    | a :: _ =>
      skip 1
      return (caselessIf (← get).isCaseless (.literal a), false)

/-- Alternatives, up to the end of the group or of all. -/
def alternatives (d : Dialect) (inGroup : Bool) : (fuel : Nat) → Reader Expression
  | 0 => return .empty
  | fuel + 1 => do
    let first ← branch d inGroup fuel none true
    let (_, _, bar) := groupMarks d
    if ← takes bar then return .either first (← alternatives d inGroup fuel)
    else return first

end

/-- A whole expression. -/
def whole (d : Dialect) : Reader Expression := do
  let e ← alternatives d false (4 * (← get).rest.length + 8)
  if (← get).rest.isEmpty then return e else throw .strayClose

end Reader

/-- An expression that has been read. -/
structure Compiled where
  expression : Expression
  /-- How many groups it has. -/
  groups : Nat
  warnings : List String

/-- Reads an expression from the symbols with which it is written. -/
def compile (d : Dialect) (written : List Symbol) : Except SearchFault Compiled :=
  match (Reader.whole d).run ⟨written, 0, [], [], false⟩ with
  | .ok (expression, s) => .ok ⟨expression, s.opened, s.warnings⟩
  | .error fault => .error fault

end LineShell.Search
