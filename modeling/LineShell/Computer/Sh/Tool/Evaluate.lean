import LineShell.Computer.Search.Syntax
import LineShell.Computer.Sh.Tool.Basic

/-!
# Values of expressions

The tool that writes the value of an expression whose words are its arguments.  Values are texts; a
text that looks like an integer is one, of any size.
-/

namespace LineShell.Sh.Tool.Evaluate

/-- Where reading has come to: the words to come, and the one before them. -/
structure State where
  rest : List Text
  before : Text

/-- What reads words and comes to a value, or tells what is wrong. -/
abbrev Reader := StateT State (Except Text)

/-- Passes over a word if it is next. -/
def takes (word : String) : Reader Bool := do
  match (← get).rest with
  | t :: ts =>
    if t = word.toList then
      set (⟨ts, t⟩ : State)
      return true
    return false
  | [] => return false

/-- The next one of some words, if it is one of them. -/
def takesOne (words : List String) : Reader (Option String) := do
  match words with
  | [] => return none
  | w :: ws => if ← takes w then return some w else takesOne ws

/-- Complains if there are no more words. -/
def demandMore : Reader Unit := do
  let s ← get
  if s.rest.isEmpty then
    throw ("syntax error: missing argument after ".toList ++ Quoting.word s.before)

/-- The next word, which has to be there. -/
def anyWord : Reader Text := do
  demandMore
  let s ← get
  set (⟨s.rest.tail, s.rest.headD []⟩ : State)
  return s.rest.headD []

/-- The integer that a text looks like. -/
def integer? (t : Text) : Option Int :=
  let digits := match t with
    | '-' :: ds => ds
    | ds => ds
  if digits.isEmpty || !digits.all Char.isDigit then none
  else
    let n : Int := digitsValue digits
    some (if t.head? = some '-' then -n else n)

/-- The value counts as none: it is empty or zero. -/
def isNull (t : Text) : Bool :=
  match t with
  | [] => true
  | '-' :: ds => !ds.isEmpty && ds.all (· = '0')
  | ds => ds.all (· = '0')

/-- What an operator of arithmetic makes of two values. -/
def combined (op : String) (l r : Text) : Except Text Text := do
  match integer? l, integer? r with
  | some m, some n =>
    match op with
    | "+" => return signedNumeral (m + n)
    | "-" => return signedNumeral (m - n)
    | "*" => return signedNumeral (m * n)
    | _ =>
      if n = 0 then throw "division by zero".toList
      return signedNumeral (if op = "/" then m.tdiv n else m.tmod n)
  | _, _ => throw "non-integer argument".toList

/-- What a comparison of two values comes to. -/
def compared (op : String) (l r : Text) : Bool :=
  let less (a b : Text) : Bool := comesFirst a b && a ≠ b
  let (isLess, isSame) : Bool × Bool := match integer? l, integer? r with
    | some m, some n => (decide (m < n), decide (m = n))
    | _, _ => (less l r, decide (l = r))
  match op with
  | "<" => isLess
  | "<=" => isLess || isSame
  | "=" => isSame
  | "==" => isSame
  | "!=" => !isSame
  | ">=" => !isLess
  | _ => !isLess && !isSame

/-- What of a text at its beginning an expression to search for describes: what its first group has
matched, or if it has none how long the match is. -/
def matched (t expression : Text) : Except Text Text :=
  match Search.compile .basic (Search.symbols expression).toList with
  | .error fault => .error fault.message.toList
  | .ok compiled =>
    let symbols := Search.symbols t
    let subject : Search.Subject := ⟨symbols, false, false, false⟩
    let found := compiled.expression.matchAt subject 0
    if compiled.groups = 0 then .ok (numeral ((found.map Search.Found.last).getD 0))
    else
      match found.bind (·.group? 1) with
      | some (first, last) => .ok ((symbols.extract first last).toList.flatMap Search.textOf)
      | none => .ok []

/-- The number of the first character of a text that is among some others; zero if there is none. -/
def indexOfAny (t among : Text) : Nat :=
  let others := (Search.symbols among).toList
  match (Search.symbols t).toList.findIdx? others.contains with
  | some i => i + 1
  | none => 0

/-- The part of a text from the character with a number on. -/
def part (t first size : Text) : Text :=
  match integer? first, integer? size with
  | some i, some n =>
    if i ≤ 0 ∨ n ≤ 0 then []
    else (((Search.symbols t).toList.drop (i.toNat - 1)).take n.toNat).flatMap Search.textOf
  | _, _ => []

mutual

/-- A value, at most as deeply nested as given, whose operators bind at least as tightly as `level`
says.  It is only read if not `live`. -/
def value (live : Bool) : (fuel level : Nat) → Reader Text
  | 0, _ => return []
  | fuel + 1, level => do
    if level = 6 then simple live fuel
    else
      let l ← value live fuel (level + 1)
      more live fuel level l

/-- A value to the right of which operators follow. -/
def more (live : Bool) : (fuel level : Nat) → (l : Text) → Reader Text
  | 0, _, l => return l
  | fuel + 1, level, l => do
    let operators := match level with
      | 0 => ["|"]
      | 1 => ["&"]
      | 2 => ["<", "<=", "=", "==", "!=", ">=", ">"]
      | 3 => ["+", "-"]
      | 4 => ["*", "/", "%"]
      | _ => [":"]
    match ← takesOne operators with
    | none => return l
    | some op =>
      let isNeeded := match op with
        | "|" => isNull l
        | "&" => !isNull l
        | _ => true
      let r ← value (live && isNeeded) fuel (level + 1)
      let result ←
        if ¬ live then pure l
        else
          match level with
          | 0 => pure (if !isNull l then l else if isNull r then ['0'] else r)
          | 1 => pure (if isNull l || isNull r then ['0'] else l)
          | 2 => pure (if compared op l r then ['1'] else ['0'])
          | 5 => matched l r
          | _ => combined op l r
      more live fuel level result

/-- A word, a value between brackets, or what a named function makes of values. -/
def simple (live : Bool) : (fuel : Nat) → Reader Text
  | 0 => return []
  | fuel + 1 => do
    if ← takes "+" then return ← anyWord
    if ← takes "length" then
      let t ← simple live fuel
      return numeral (Search.symbols t).size
    if ← takes "match" then
      let t ← simple live fuel
      let e ← simple live fuel
      return ← if live then (matched t e : Except Text Text) else pure t
    if ← takes "index" then
      let t ← simple live fuel
      let among ← simple live fuel
      return numeral (indexOfAny t among)
    if ← takes "substr" then
      let t ← simple live fuel
      let first ← simple live fuel
      let size ← simple live fuel
      return part t first size
    demandMore
    if ← takes "(" then
      let t ← value live fuel 0
      let s ← get
      if ← takes ")" then return t
      match s.rest with
      | [] => throw ("syntax error: expecting ')' after ".toList ++ Quoting.word s.before)
      | w :: _ => throw ("syntax error: expecting ')' instead of ".toList ++ Quoting.word w)
    if ← takes ")" then throw "syntax error: unexpected ')'".toList
    anyWord

end

/-- The value of a whole expression. -/
def whole (words : List Text) : Except Text Text := do
  let (t, s) ← (value true (16 * words.length + 16) 0).run ⟨words, []⟩
  match s.rest with
  | [] => return t
  | w :: _ => throw ("syntax error: unexpected argument ".toList ++ Quoting.word w)

end Evaluate

/-- Writes the value of an expression. -/
def expr (arguments : List Text) : Task Int := do
  let words := if arguments.head? = some "--".toList then arguments.tail else arguments
  if words.isEmpty then return ← refuse "missing operand".toList 2
  match Evaluate.whole words with
  | .ok t =>
    printLine t
    return if Evaluate.isNull t then 1 else 0
  | .error message =>
    complain message
    return 2

end LineShell.Sh.Tool
