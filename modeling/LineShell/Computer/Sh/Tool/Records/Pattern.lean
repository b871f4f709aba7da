import LineShell.Computer.Search.Basic
import LineShell.Computer.Sh.Tool.Records.Token

/-!
# How programs describe texts

Expressions that describe texts are read from the text with which they are written.  An anchor stands
for itself nowhere, a closing parenthesis without an opening one does, and so do braces.
-/

namespace LineShell.Sh.Tool.Records

open Search

/-- Why an expression is refused. -/
inductive PatternFault where
  | missingClose
  | badClass
  | missingOperand
  | repeatedStart
deriving DecidableEq, Repr

/-- The words for what is wrong with an expression. -/
def PatternFault.message : PatternFault → String
  | missingClose => "missing ')'"
  | badClass => "bad class -- [], [^] or ["
  | missingOperand => "missing operand"
  | repeatedStart => "syntax error ^* or ^+"

namespace Pattern

/-- The symbol of a character. -/
def code (c : Char) : Symbol := c.toNat

/-- The character that is spelled behind a backslash, and what follows it. -/
def escaped : Text → Char × Text
  | [] => ('\\', [])
  | c :: t =>
    match Reader.spelled.lookup c with
    | some d => (d, t)
    | none =>
      let octal := ((c :: t).take 3).takeWhile Escape.isOctal
      let hexadecimal := (t.take 2).takeWhile fun c => (digitIn? 16 c).isSome
      if !octal.isEmpty then
        (Char.ofNat (digitsIn 8 octal % 256), (c :: t).drop octal.length)
      else if c = 'x' && !hexadecimal.isEmpty then
        (Char.ofNat (digitsIn 16 hexadecimal), t.drop hexadecimal.length)
      else (c, t)

/-- One character between brackets, and what follows it. -/
def element : Text → Char × Text
  | '\\' :: t => escaped t
  | c :: t => (c, t)
  | [] => ('\\', [])

/-- What stands between brackets, and what follows the closing one, which may be the first character
without closing. -/
def items : (fuel : Nat) → (isFirst : Bool) → Text → Except PatternFault (List SetItem × Text)
  | 0, _, _ => .error .badClass
  | _, _, [] => .error .badClass
  | fuel + 1, isFirst, c :: t =>
    if c = ']' && !isFirst then .ok ([], t)
    else if c = '[' && t.head? = some ':' then
      let name := t.tail.takeWhile Char.isAlpha
      let rest := t.drop (name.length + 1)
      match SymbolClass.table.lookup (String.ofList name), ":]".toList.isPrefixOf rest with
      | some k, true => do
        let (found, rest) ← items fuel false (rest.drop 2)
        return (.named k :: found, rest)
      | _, _ => .error .badClass
    else do
      let (first, rest) := element (c :: t)
      match rest with
      | '-' :: d :: u =>
        let (last, after) := element (d :: u)
        if d = ']' || last < first then do
          let (found, rest) ← items fuel false rest
          return (.single (code first) :: found, rest)
        else do
          -- A hyphen behind a range stands for itself.
          let (hyphen, after) : List SetItem × Text :=
            match after with
            | '-' :: e :: v => if e = ']' then ([], after) else ([.single (code '-')], e :: v)
            | after => ([], after)
          let (found, rest) ← items fuel false after
          return (.range (code first) (code last) :: (hyphen ++ found), rest)
      | rest => do
        let (found, rest) ← items fuel false rest
        return (.single (code first) :: found, rest)

/-- Operators that repeat what is before them, and what follows them. -/
def repetitions : (fuel : Nat) → Expression → Text → Expression × Text
  | 0, e, t => (e, t)
  | fuel + 1, e, t =>
    match t with
    | '*' :: t => repetitions fuel (.repeated e 0 none false) t
    | '+' :: t => repetitions fuel (.repeated e 1 none false) t
    | '?' :: t => repetitions fuel (.repeated e 0 (some 1) false) t
    | t => (e, t)

/-- Two parts of an expression in order. -/
def followed (before : Option Expression) (e : Expression) : Option Expression :=
  match before with
  | none => some e
  | some d => some (.inOrder d e)

/-- An expression in order of its parts and between bars, up to the end of a group or of all. -/
def alternatives : (fuel depth : Nat) → (before : Option Expression) → Text →
    Except PatternFault (Expression × Text)
  | 0, _, _, _ => .error .missingOperand
  | fuel + 1, depth, before, t => do
    let more (e : Expression) (rest : Text) : Except PatternFault (Expression × Text) := do
      let (e, rest) := repetitions rest.length e rest
      alternatives fuel depth (followed before e) rest
    match t with
    | [] =>
      if depth ≠ 0 then throw .missingClose
      match before with
      | none => throw .missingOperand
      | some e => return (e, [])
    | c :: t =>
      if c = '|' then
        match before with
        | none => throw .missingOperand
        | some e =>
          let (other, rest) ← alternatives fuel depth none t
          return (.either e other, rest)
      else if c = ')' ∧ depth ≠ 0 then
        match before with
        | none => throw .missingOperand
        | some e => return (e, c :: t)
      else if c = '(' then
        if t.head? = some ')' ∧ before.isSome then
          alternatives fuel depth (followed before .empty) t.tail
        else
          let (e, rest) ← alternatives fuel (depth + 1) none t
          more e rest.tail
      else if c = '*' ∨ c = '+' ∨ c = '?' then throw .missingOperand
      else if c = '^' then
        if t.head? = some '*' ∨ t.head? = some '+' then throw .repeatedStart
        more (.mark .textStart) t
      else if c = '$' then more (.mark .textEnd) t
      else if c = '.' then more .any t
      else if c = '[' then
        let isNegated : Bool := t.head? == some '^'
        let inside := if isNegated then t.tail else t
        let (found, rest) ← items (inside.length + 1) true inside
        more (.set isNegated found) rest
      else if c = '\\' then
        let (d, rest) := escaped t
        more (.literal (code d)) rest
      else more (.literal (code c)) t

/-- The expression that is written with a text. -/
def compile (t : Text) : Except PatternFault Expression := do
  if t.isEmpty then return .empty
  let (e, _) ← alternatives (2 * t.length + 2) 0 none t
  return e

end Pattern

/-- What is wrong with an expression, and the expression itself, as both are told. -/
def refusedPattern (fault : PatternFault) (t : Text) : Text :=
  ("regular expression compile failed (" ++ fault.message ++ ")\n").toList ++ t

/-- A text in which something described is sought. -/
def subjectOf (t : Text) : Search.Subject := ⟨byteSymbols t, false, false, false⟩

end LineShell.Sh.Tool.Records
