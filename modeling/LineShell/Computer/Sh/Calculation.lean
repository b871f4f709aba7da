import LineShell.Computer.Sh.Arithmetic

/-!
# Arithmetic of the extended language

Expressions over 64-bit signed integers, with powers, sequences, counting up and down, numbers in any
base up to 64, and items of lists.  The value of a variable is an expression in turn.  As in the
common language an expression is evaluated while it is read; a fault tells the text from the symbol
on where it was found.
-/

namespace LineShell.Sh.Calculation

open Arithmetic (Operator wrap truth)

/-- What an assignment is about: a variable, or an item of one by its key. -/
structure Target where
  name : Text
  key : Option Text
deriving DecidableEq, Repr

/-- Why an expression has no value. -/
inductive Fault where
  /-- Something is wrong with an expression, with the text from there on where it was found. -/
  | wrong (expression : Text) (message : String) (left : Text)
  /-- A variable has no value, and it has to have one. -/
  | unbound (name : Text)
  /-- A variable cannot be assigned. -/
  | readOnly (name : Text)
deriving Repr

/-- The text of a fault. -/
def Fault.message : Fault → Text
  | .wrong expression message left =>
    expression.dropWhile isSpace ++ ": ".toList ++ message.toList ++ " (error token is \"".toList ++
      left ++ "\")".toList
  | .unbound name => name ++ ": unbound variable".toList
  | .readOnly name => name ++ ": readonly variable".toList

/-- What an expression can see of the variables. -/
structure Scope where
  /-- The text of a variable or of an item of one. -/
  text? : Target → Option Text
  /-- The keys of the items of a variable are texts. -/
  isTable : Text → Bool
  /-- The number after the place of the last item of a list. -/
  places : Text → Int
  isReadOnly : Text → Bool
  /-- A variable has to have a value. -/
  isStrict : Bool

/-- A symbol of an expression. -/
inductive Symbol where
  | ended
  | number
  | name
  /-- An operator or a bracket, by its text. -/
  | sign (t : String)
  /-- An assignment that combines the value with the one before. -/
  | combining (op : Operator)
  /-- A variable that counts up, or down, before or after its value is taken. -/
  | before (up : Bool)
  | after (up : Bool)
deriving DecidableEq, Repr

/-- Where the reading of one expression stands. -/
structure Place where
  /-- The whole expression. -/
  whole : Text
  /-- What is left to read. -/
  left : Text
  /-- What was left to read where the last symbol began. -/
  start : Text
  symbol : Symbol
  /-- The symbol before it. -/
  previous : Symbol
  /-- The value of the symbol. -/
  value : Int
  /-- The variable that the symbol names. -/
  target : Target
  /-- The variable named last. -/
  known : Target

/-- Where an evaluation stands. -/
structure State where
  place : Place
  /-- The assignments that have been made, last one first. -/
  assigned : List (Target × Int)
  /-- How many parts that do not count are open. -/
  idle : Nat

/-- A step of an evaluation. -/
abbrev Work := ReaderT Scope (ExceptT Fault (StateM State))

/-- The operators with two operands, by their texts, longer ones first. -/
def operators : List (String × Operator) :=
  [("<<", .shiftLeft), (">>", .shiftRight), ("<=", .atMost), (">=", .atLeast), ("==", .equal),
    ("!=", .different), ("*", .times), ("/", .divide), ("%", .remainder), ("+", .plus),
    ("-", .minus), ("<", .less), (">", .greater), ("&", .bitAnd), ("^", .bitXor), ("|", .bitOr)]

/-- The signs of several characters that are no assignments. -/
def longSigns : List String := ["<<", ">>", "<=", ">=", "==", "!=", "&&", "||", "**"]

/-- The characters that may be signs. -/
def signs : Text := "=><+-*/%!()&|^~?:,".toList

/-- Fails where the last symbol began. -/
def fail {α : Type} (message : String) : Work α := do
  let p := (← get).place
  throw (.wrong p.whole message p.start)

/-- Parts that are read count. -/
def counts : Work Bool := do
  return (← get).idle = 0

/-- Does something that does not count, if told so. -/
def idly {α : Type} (isIdle : Bool) (work : Work α) : Work α := do
  if !isIdle then work
  else
    modify fun s => { s with idle := s.idle + 1 }
    let a ← work
    modify fun s => { s with idle := s.idle - 1 }
    return a

/-- Alters the place. -/
def place (f : Place → Place) : Work Unit :=
  modify fun s => { s with place := f s.place }

/-- The character belongs to a number. -/
def isNumberChar (c : Char) : Bool :=
  c.isAlphanum || c = '#' || c = '@' || c = '_'

/-- The value of a digit in a base. -/
def digit (base : Nat) (c : Char) : Nat :=
  if c.isDigit then c.toNat - '0'.toNat
  else if c.isLower then c.toNat - 'a'.toNat + 10
  else if c.isUpper then c.toNat - 'A'.toNat + (if base ≤ 36 then 10 else 36)
  else if c = '@' then 62
  else 63

/-- The number that a text denotes. -/
def numberOf (t : Text) : Except String Int :=
  match t with
  | ['0'] => .ok 0
  | '0' :: c :: rest =>
    if c = 'x' ∨ c = 'X' then
      if rest.isEmpty then .error "invalid number" else digits 16 true 0 rest
    else digits 8 true 0 (c :: rest)
  | t => digits 10 false 0 t
where
  /-- Reads digits on. -/
  digits (base : Nat) (isGiven : Bool) (n : Int) : Text → Except String Int
    | [] => .ok n
    | c :: t =>
      if c = '#' then
        if isGiven then .error "invalid number"
        else if n < 2 ∨ 64 < n then .error "invalid arithmetic base"
        else if !((t.head?.map isNumberChar).getD false) then .error "invalid integer constant"
        else digits n.toNat true 0 t
      else if base ≤ digit base c then .error "value too great for base"
      else digits base isGiven (wrap (n * base + digit base c)) t

/-- The text in square brackets at the beginning of a text, which begins after the first one, and
what follows them. -/
def bracketed? (depth : Nat) : Text → Option (Text × Text)
  | [] => none
  | c :: t =>
    let more (depth : Nat) : Option (Text × Text) :=
      (bracketed? depth t).map fun (inside, rest) => (c :: inside, rest)
    if c = ']' then if depth = 0 then some ([], t) else more (depth - 1)
    else if c = '[' then more (depth + 1)
    else more depth

/-- A power. -/
def power (m : Int) : (n : Nat) → Int
  | 0 => 1
  | n + 1 => wrap (power m n * m)

/-- Combines two values. -/
def combine (op : Operator) (m n : Int) : Int :=
  match op with
  | .divide => if m = int64Min ∧ n = -1 then m else Int.tdiv m n
  | .remainder => if n = -1 then 0 else Int.tmod m n
  | op => (op.apply m n).toOption.getD 0

/-- The operators that bind as tightly as given, by their texts; tighter ones have smaller numbers. -/
def level : Nat → List String
  | 1 => ["*", "/", "%"]
  | 2 => ["+", "-"]
  | 3 => ["<<", ">>"]
  | 4 => ["<", ">", "<=", ">="]
  | 5 => ["==", "!="]
  | 6 => ["&"]
  | 7 => ["^"]
  | 8 => ["|"]
  | _ => []

/-- The sign that the last symbol is. -/
def sign? : Work (Option String) := do
  match (← get).place.symbol with
  | .sign t => return some t
  | _ => return none

/-- Gives a variable a value, if that counts. -/
def assign (target : Target) (n : Int) : Work Unit := do
  if ← counts then
    if (← read).isReadOnly target.name then throw (.readOnly target.name)
    modify fun s => { s with assigned := (target, n) :: s.assigned }

/-- The symbol that a sign is, given its first character and what follows it, and its length. -/
def signed (c : Char) (rest : Text) : Work (Symbol × Nat) := do
  let p := (← get).place
  let t := c :: rest
  let afterEqual (n : Nat) : Bool := (t.drop n).head? = some '='
  let isDouble := rest.head? = some c
  match operators.find? fun entry => entry.1.toList.isPrefixOf t with
  | some (spelling, op) =>
    let n := spelling.length
    let isCombining := afterEqual n &&
      !([Operator.less, .greater, .equal, .different, .atMost, .atLeast].contains op)
    if isCombining ∧ ¬ ("**".toList.isPrefixOf t) then return (.combining op, n + 1)
  | none => pure ()
  match longSigns.find? fun s => s.toList.isPrefixOf t with
  | some s => return (.sign s, s.length)
  | none =>
    if (c = '+' ∨ c = '-') ∧ isDouble then
      if p.symbol = .name then return (.after (c = '+'), 2)
      else if p.symbol = .number ∧ (p.previous matches .before _) then
        fail (if c = '+' then "++: assignment requires lvalue" else "--: assignment requires lvalue")
      else
        let beyond := (rest.drop 1).dropWhile isSpace
        if (beyond.head?.map fun c => Arithmetic.isNameChar c && !c.isDigit).getD false then
          return (.before (c = '+'), 2)
        else return (.sign (String.singleton c), 1)
    else if signs.contains c then return (.sign (String.singleton c), 1)
    else
      let isOpen := match p.symbol with
        | .ended => true
        | .sign s => s ≠ ")"
        | .combining _ => true
        | .before _ => true
        | _ => false
      fail (if isOpen then "syntax error: operand expected"
        else "syntax error: invalid arithmetic operator")

mutual

/-- The value of a whole text. -/
def whole (fuel : Nat) (t : Text) : Work Int := do
  match fuel with
  | 0 => throw (.wrong t "expression recursion level exceeded" t)
  | fuel + 1 =>
    if (t.dropWhile isSpace).isEmpty then return 0
    let before := (← get).place
    let nobody : Target := ⟨[], none⟩
    place fun _ => ⟨t, t, t, .ended, .ended, 0, nobody, nobody⟩
    next fuel
    let n ← sequence fuel
    if (← get).place.symbol ≠ .ended then fail "syntax error in expression"
    place fun _ => before
    return n
termination_by structural fuel

/-- Reads the next symbol. -/
def next (fuel : Nat) : Work Unit := do
  match fuel with
  | 0 => fail "expression recursion level exceeded"
  | fuel + 1 =>
    let p := (← get).place
    let t := p.left.dropWhile isSpace
    match t with
    | [] => place fun p => { p with previous := p.symbol, symbol := .ended, left := [] }
    | c :: rest =>
      place fun p => { p with start := t, left := t }
      if Arithmetic.isNameChar c ∧ ¬ c.isDigit then named fuel t
      else if c.isDigit then
        let digits := t.takeWhile isNumberChar
        match numberOf digits with
        | .error message =>
          let p := (← get).place
          throw (.wrong p.whole message digits)
        | .ok n =>
          place fun p => { p with
            previous := p.symbol, symbol := .number, value := n, left := t.drop digits.length }
      else
        let found ← signed c rest
        place fun p => { p with
          previous := p.symbol, symbol := found.1, left := t.drop found.2 }
termination_by structural fuel

/-- Reads a name, perhaps with the key of an item, and finds its value unless it is assigned. -/
def named (fuel : Nat) (t : Text) : Work Unit := do
  match fuel with
  | 0 => fail "expression recursion level exceeded"
  | fuel + 1 =>
    let name := t.takeWhile Arithmetic.isNameChar
    let rest := t.drop name.length
    let (target, rest) ← match rest with
      | '[' :: inside =>
        match bracketed? 0 inside with
        | none => fail "bad array subscript"
        | some (key, rest) =>
          if (← read).isTable name then pure ((⟨name, some key⟩ : Target), rest)
          else
            let n ← whole fuel key
            let places := (← read).places name
            let n := if n < 0 then n + places else n
            if n < 0 then
              throw (.wrong t "bad array subscript" t)
            pure (⟨name, some (signedNumeral n)⟩, rest)
      | rest => pure (⟨name, none⟩, rest)
    let previous := (← get).place.symbol
    place fun p => { p with symbol := .name, left := rest, previous := p.symbol }
    let here := (← get).place
    let isAssigned : Bool ← idly true do
      next fuel
      return (← get).place.symbol == .sign "="
    place fun _ => here
    let isCounted : Bool := previous matches .before _
    let n ← if isCounted || !isAssigned then valueOf fuel target else pure 0
    place fun _ => { here with
      symbol := .name, previous, value := n, target, known := target, left := rest }
termination_by structural fuel

/-- The value of a variable, which is an expression. -/
def valueOf (fuel : Nat) (target : Target) : Work Int := do
  match fuel with
  | 0 => fail "expression recursion level exceeded"
  | fuel + 1 =>
    if !(← counts) then return 0
    match (← get).assigned.lookup target with
    | some n => return n
    | none =>
      match (← read).text? target with
      | some t => whole fuel t
      | none =>
        if (← read).isStrict then throw (.unbound target.name)
        return 0
termination_by structural fuel

/-- The value of the last one of expressions with commas between them. -/
def sequence (fuel : Nat) : Work Int := do
  match fuel with
  | 0 => fail "expression recursion level exceeded"
  | fuel + 1 =>
    let n ← assignment fuel
    if (← sign?) = some "," then
      next fuel
      sequence fuel
    else return n
termination_by structural fuel

/-- The value of an assignment or a choice. -/
def assignment (fuel : Nat) : Work Int := do
  match fuel with
  | 0 => fail "expression recursion level exceeded"
  | fuel + 1 =>
    let n ← choice fuel
    let p := (← get).place
    let op : Option (Option Operator) :=
      match p.symbol with
      | .combining op => some (some op)
      | .sign "=" => some none
      | _ => none
    match op with
    | none => return n
    | some op =>
      if p.previous ≠ .name then fail "attempted assignment to non-variable"
      let target := p.known
      next fuel
      let right ← assignment fuel
      let value ← match op with
        | none => pure right
        | some op =>
          if (op = .divide ∨ op = .remainder) ∧ right = 0 then
            if ← counts then fail "division by 0" else pure 0
          else pure (combine op n right)
      assign target value
      return value
termination_by structural fuel

/-- The value of a choice between two expressions, or of operands. -/
def choice (fuel : Nat) : Work Int := do
  match fuel with
  | 0 => fail "expression recursion level exceeded"
  | fuel + 1 =>
    let condition ← either fuel
    if (← sign?) ≠ some "?" then return condition
    let first ← idly (condition = 0) do
      next fuel
      let s := (← get).place.symbol
      if s = .ended ∨ s = .sign ":" then fail "expression expected"
      sequence fuel
    if (← sign?) ≠ some ":" then fail "\x60:' expected for conditional expression"
    let second ← idly (condition ≠ 0) do
      next fuel
      if (← get).place.symbol = .ended then fail "expression expected"
      choice fuel
    place fun p => { p with previous := .sign "?" }
    return if condition ≠ 0 then first else second
termination_by structural fuel

/-- The value of conditions of which one has to hold. -/
def either (fuel : Nat) : Work Int := do
  match fuel with
  | 0 => fail "expression recursion level exceeded"
  | fuel + 1 => eitherAfter fuel (← both fuel)
termination_by structural fuel

/-- The value of a condition and others of which one has to hold. -/
def eitherAfter (fuel : Nat) (n : Int) : Work Int := do
  match fuel with
  | 0 => fail "expression recursion level exceeded"
  | fuel + 1 =>
    if (← sign?) ≠ some "||" then return n
    let m ← idly (n ≠ 0) do
      next fuel
      both fuel
    place fun p => { p with previous := .sign "||" }
    eitherAfter fuel (truth (n ≠ 0 ∨ m ≠ 0))
termination_by structural fuel

/-- The value of conditions that all have to hold. -/
def both (fuel : Nat) : Work Int := do
  match fuel with
  | 0 => fail "expression recursion level exceeded"
  | fuel + 1 => bothAfter fuel (← operands fuel 8)
termination_by structural fuel

/-- The value of a condition and others that all have to hold. -/
def bothAfter (fuel : Nat) (n : Int) : Work Int := do
  match fuel with
  | 0 => fail "expression recursion level exceeded"
  | fuel + 1 =>
    if (← sign?) ≠ some "&&" then return n
    let m ← idly (n = 0) do
      next fuel
      operands fuel 8
    place fun p => { p with previous := .sign "&&" }
    bothAfter fuel (truth (n ≠ 0 ∧ m ≠ 0))
termination_by structural fuel

/-- The value of operands joined by operators of a level or tighter ones. -/
def operands (fuel height : Nat) : Work Int := do
  match fuel with
  | 0 => fail "expression recursion level exceeded"
  | fuel + 1 =>
    if height = 0 then powers fuel
    else operandsAfter fuel height (← operands fuel (height - 1))
termination_by structural fuel

/-- The value of an operand and others that operators of a level join to it. -/
def operandsAfter (fuel height : Nat) (m : Int) : Work Int := do
  match fuel with
  | 0 => fail "expression recursion level exceeded"
  | fuel + 1 =>
    match (← sign?).filter (level height).contains with
    | none => return m
    | some t =>
      let op := (operators.lookup t).getD .plus
      let beyond := ((← get).place.left).dropWhile isSpace
      next fuel
      let n ← operands fuel (height - 1)
      let r ←
        if (op = .divide ∨ op = .remainder) ∧ n = 0 then
          if ← counts then
            let p := (← get).place
            throw (.wrong p.whole "division by 0" beyond)
          else pure m
        else pure (combine op m n)
      place fun p => { p with previous := .number }
      operandsAfter fuel height r
termination_by structural fuel

/-- The value of a power, or of an operand. -/
def powers (fuel : Nat) : Work Int := do
  match fuel with
  | 0 => fail "expression recursion level exceeded"
  | fuel + 1 =>
    let m ← single fuel
    if (← sign?) ≠ some "**" then return m
    next fuel
    let n ← powers fuel
    place fun p => { p with previous := .number }
    if n < 0 then fail "exponent less than 0"
    return power m n.toNat
termination_by structural fuel

/-- The value of one operand with its signs. -/
def single (fuel : Nat) : Work Int := do
  match fuel with
  | 0 => fail "expression recursion level exceeded"
  | fuel + 1 =>
    let signed (f : Int → Int) : Work Int := do
      next fuel
      let n ← single fuel
      place fun p => { p with previous := .number }
      return f n
    match (← get).place.symbol with
    | .sign "!" => signed fun n => truth (n = 0)
    | .sign "~" => signed fun n => wrap (-n - 1)
    | .sign "-" => signed fun n => wrap (-n)
    | .sign "+" => signed id
    | .before up =>
      next fuel
      let p := (← get).place
      if p.symbol ≠ .name then fail "identifier expected after pre-increment or pre-decrement"
      let n := wrap (p.value + if up then 1 else -1)
      assign p.target n
      place fun p => { p with symbol := .number, previous := .before up }
      next fuel
      return n
    | .sign "(" =>
      next fuel
      let n ← sequence fuel
      if (← sign?) ≠ some ")" then fail "missing \x60)'"
      next fuel
      return n
    | .number =>
      let n := (← get).place.value
      next fuel
      return n
    | .name =>
      let p := (← get).place
      next fuel
      match (← get).place.symbol with
      | .after up =>
        assign p.target (wrap (p.value + if up then 1 else -1))
        place fun q => { q with symbol := .number }
        next fuel
        return p.value
      | _ => return p.value
    | _ => fail "syntax error: operand expected"
termination_by structural fuel

end

/-- How deep expressions may be nested. -/
def depth : Nat := 1024

/-- The value of a text as an expression, and the assignments that it makes, in order. -/
def value (scope : Scope) (t : Text) : Except Fault Int × List (Target × Int) :=
  let nobody : Target := ⟨[], none⟩
  let start : Place := ⟨t, t, t, .ended, .ended, 0, nobody, nobody⟩
  let (result, s) := ((whole (40 * t.length + 40 * depth) t).run scope).run.run ⟨start, [], 0⟩
  (result, s.assigned.reverse)

end LineShell.Sh.Calculation
