import LineShell.Computer.Text.Integer

/-!
# Arithmetic

Expressions over 64-bit signed integers, as they stand in arithmetic expansions.  An expression is
evaluated while it is read, from left to right, so that the first fault in it is the one that is
found, and assignments before it have taken effect.  Values wrap around.
-/

namespace LineShell.Sh.Arithmetic

/-- Operators with two operands. -/
inductive Operator where
  | times | divide | remainder | plus | minus | shiftLeft | shiftRight
  | less | atMost | greater | atLeast | equal | different
  | bitAnd | bitXor | bitOr | both | either
deriving DecidableEq, Repr

/-- A symbol of an expression. -/
inductive Symbol where
  | number (n : Int)
  | name (t : Text)
  | operator (op : Operator)
  /-- An assignment, which may combine the value with the one before. -/
  | assignment (op : Option Operator)
  | complement
  | negation
  | opening
  | closing
  | question
  | colon
  /-- Anything else. -/
  | unknown
deriving DecidableEq, Repr

/-- Why an expression has no value. -/
inductive Fault where
  | expectingPrimary
  | expectingEnd
  | expectingBracket
  | expectingColon
  | divisionByZero
  /-- A quotient that sixty-four bits cannot hold. -/
  | overflow
  | illegalNumber (t : Text)
  /-- A variable that cannot be assigned. -/
  | readOnly (name : Text)
deriving DecidableEq, Repr

/-- The text of a fault. -/
def Fault.message : Fault → Text
  | .expectingPrimary => "expecting primary".toList
  | .expectingEnd => "expecting EOF".toList
  | .expectingBracket => "expecting ')'".toList
  | .expectingColon => "expecting ':'".toList
  | .divisionByZero => "division by zero".toList
  | .overflow => "overflow".toList
  | .illegalNumber t => "Illegal number: ".toList ++ t
  | .readOnly name => name ++ ": is read only".toList

/-- The number of values that a word of 64 bits can have. -/
def wordValues : Nat := 18446744073709551616

/-- The value that the bits of a word have without a sign. -/
def unsigned (n : Int) : Nat :=
  (n % (wordValues : Int)).toNat

/-- Brings an integer into the 64-bit range by wrapping around. -/
def wrap (n : Int) : Int :=
  Int.bmod n wordValues

/-- How tightly an operator binds. -/
def Operator.binding : Operator → Nat
  | .times => 10
  | .divide => 10
  | .remainder => 10
  | .plus => 9
  | .minus => 9
  | .shiftLeft => 8
  | .shiftRight => 8
  | .less => 7
  | .atMost => 7
  | .greater => 7
  | .atLeast => 7
  | .equal => 6
  | .different => 6
  | .bitAnd => 5
  | .bitXor => 4
  | .bitOr => 3
  | .both => 2
  | .either => 1

/-- The spellings of symbols, longer ones first. -/
def spellings : List (String × Symbol) :=
  [("<<=", .assignment (some .shiftLeft)), (">>=", .assignment (some .shiftRight)),
    ("<<", .operator .shiftLeft), (">>", .operator .shiftRight), ("<=", .operator .atMost),
    (">=", .operator .atLeast), ("==", .operator .equal), ("!=", .operator .different),
    ("&&", .operator .both), ("||", .operator .either), ("*=", .assignment (some .times)),
    ("/=", .assignment (some .divide)), ("%=", .assignment (some .remainder)),
    ("+=", .assignment (some .plus)), ("-=", .assignment (some .minus)),
    ("&=", .assignment (some .bitAnd)), ("^=", .assignment (some .bitXor)),
    ("|=", .assignment (some .bitOr)), ("*", .operator .times), ("/", .operator .divide),
    ("%", .operator .remainder), ("+", .operator .plus), ("-", .operator .minus),
    ("<", .operator .less), (">", .operator .greater), ("&", .operator .bitAnd),
    ("^", .operator .bitXor), ("|", .operator .bitOr), ("=", .assignment none),
    ("~", .complement), ("!", .negation), ("(", .opening), (")", .closing), ("?", .question),
    (":", .colon)]

/-- The character belongs to a name. -/
def isNameChar (c : Char) : Bool :=
  c.isAlphanum || c = '_'

/-- The symbols of a text, read in at most `fuel` steps. -/
def symbols : (fuel : Nat) → Text → List Symbol
  | 0, _ => []
  | _, [] => []
  | fuel + 1, c :: t =>
    if c = ' ' ∨ c = '\t' ∨ c = '\n' then symbols fuel t
    else if c.isDigit then
      match LeadingInteger.ofText? true (c :: t) with
      | some i => .number (saturate i.value) :: symbols fuel i.left
      | none => [.unknown]
    else if isNameChar c then
      .name (c :: t.takeWhile isNameChar) :: symbols fuel (t.dropWhile isNameChar)
    else
      match spellings.find? fun entry => entry.1.toList.isPrefixOf (c :: t) with
      | some (spelling, symbol) => symbol :: symbols fuel ((c :: t).drop spelling.length)
      | none => [.unknown]

/-- A truth value as a number. -/
def truth (b : Bool) : Int := if b then 1 else 0

/-- The bits of two integers combined. -/
def bitwise (f : Nat → Nat → Nat) (m n : Int) : Int :=
  wrap (f (unsigned m) (unsigned n))

/-- A quotient or a remainder, for operands that have one. -/
def divided (f : Int → Int → Int) (m n : Int) : Except Fault Int :=
  if n = 0 then .error .divisionByZero
  else if m = int64Min ∧ n = -1 then .error .overflow
  else .ok (f m n)

/-- Combines two values. -/
def Operator.apply (op : Operator) (m n : Int) : Except Fault Int :=
  match op with
  | .times => .ok (wrap (m * n))
  | .divide => divided Int.tdiv m n
  | .remainder => divided Int.tmod m n
  | .plus => .ok (wrap (m + n))
  | .minus => .ok (wrap (m - n))
  | .shiftLeft => .ok (wrap (m * (Nat.pow 2 (n % 64).toNat : Nat)))
  | .shiftRight => .ok (m.fdiv (Nat.pow 2 (n % 64).toNat : Nat))
  | .less => .ok (truth (m < n))
  | .atMost => .ok (truth (m ≤ n))
  | .greater => .ok (truth (m > n))
  | .atLeast => .ok (truth (m ≥ n))
  | .equal => .ok (truth (m = n))
  | .different => .ok (truth (m ≠ n))
  | .bitAnd => .ok (bitwise Nat.land m n)
  | .bitXor => .ok (bitwise Nat.xor m n)
  | .bitOr => .ok (bitwise Nat.lor m n)
  | .both => .ok (truth (m ≠ 0 ∧ n ≠ 0))
  | .either => .ok (truth (m ≠ 0 ∨ n ≠ 0))

/-- What an expression can see of the variables. -/
structure Scope where
  text : Text → Text
  isReadOnly : Text → Bool

/-- Where the evaluation of an expression stands. -/
structure State where
  /-- The symbols that are left. -/
  left : List Symbol
  /-- The assignments that have been made, last one first. -/
  assigned : List (Text × Int)

/-- A step of an evaluation. -/
abbrev Evaluation := ReaderT Scope (ExceptT Fault (StateM State))

namespace Evaluation

/-- The symbol that comes next. -/
def peek : Evaluation (Option Symbol) := do
  return (← get).left.head?

/-- Passes the symbol that comes next. -/
def advance : Evaluation Unit :=
  modify fun s => { s with left := s.left.tail }

/-- The value of a variable; an empty one is zero. -/
def valueOf (name : Text) : Evaluation Int := do
  match (← get).assigned.lookup name with
  | some n => return n
  | none =>
    let t := (← read).text name
    if t.all isSpace then return 0
    match wholeInteger? true t with
    | some n => return n
    | none => throw (.illegalNumber t)

/-- Gives a variable a value. -/
def assign (name : Text) (n : Int) : Evaluation Int := do
  if (← read).isReadOnly name then throw (.readOnly name)
  modify fun s => { s with assigned := (name, n) :: s.assigned }
  return n

/-- Combines two values. -/
def combine (op : Operator) (m n : Int) : Evaluation Int := do
  match op.apply m n with
  | .ok n => return n
  | .error f => throw f

/-- The assignment that comes next: its variable and its operator. -/
def assignment? : Evaluation (Option (Text × Option Operator)) := do
  match (← get).left with
  | .name t :: .assignment op :: _ => return some (t, op)
  | _ => return none

/-- The operator that comes next, if it binds at least as tightly as given. -/
def operator? (binding : Nat) : Evaluation (Option Operator) := do
  match ← peek with
  | some (.operator op) => return if binding ≤ op.binding then some op else none
  | _ => return none

mutual

/-- The value of an assignment or a choice.  Parts that do not count are read, and no more. -/
def expression (fuel : Nat) (counts : Bool) : Evaluation Int := do
  match fuel with
  | 0 => throw .expectingPrimary
  | fuel + 1 =>
    match ← assignment? with
    | some (name, op) =>
      advance
      advance
      let n ← expression fuel counts
      if !counts then return n
      match op with
      | none => assign name n
      | some op => assign name (← combine op (← valueOf name) n)
    | none => choice fuel counts
termination_by structural fuel

/-- The value of a choice between two expressions, or of operands. -/
def choice (fuel : Nat) (counts : Bool) : Evaluation Int := do
  match fuel with
  | 0 => throw .expectingPrimary
  | fuel + 1 =>
    let condition ← operands fuel 1 counts
    if (← peek) ≠ some .question then return condition
    advance
    let l ← expression fuel (counts && condition ≠ 0)
    if (← peek) ≠ some .colon then throw .expectingColon
    advance
    let r ← choice fuel (counts && condition = 0)
    return if condition ≠ 0 then l else r
termination_by structural fuel

/-- The value of operands joined by operators that bind at least as tightly as given. -/
def operands (fuel binding : Nat) (counts : Bool) : Evaluation Int := do
  match fuel with
  | 0 => throw .expectingPrimary
  | fuel + 1 => operandsAfter fuel binding counts (← primary fuel counts)
termination_by structural fuel

/-- The value of an operand and what is joined to it. -/
def operandsAfter (fuel binding : Nat) (counts : Bool) (l : Int) : Evaluation Int := do
  match fuel with
  | 0 => return l
  | fuel + 1 =>
    match ← operator? binding with
    | none => return l
    | some op =>
      advance
      let decided := (op = .both ∧ l = 0) ∨ (op = .either ∧ l ≠ 0)
      let r ← operands fuel (op.binding + 1) (counts && !decided)
      let n ← if decided then pure (truth (op = .either))
        else if counts then combine op l r else pure r
      operandsAfter fuel binding counts n
termination_by structural fuel

/-- The value of a number, a variable, an expression in brackets, or one of these with a sign. -/
def primary (fuel : Nat) (counts : Bool) : Evaluation Int := do
  match fuel with
  | 0 => throw .expectingPrimary
  | fuel + 1 =>
    match ← peek with
    | some .opening =>
      advance
      let n ← expression fuel counts
      if (← peek) ≠ some .closing then throw .expectingBracket
      advance
      return n
    | some (.number n) => do advance; return n
    | some (.name t) => do advance; if counts then valueOf t else return 0
    | some (.operator .plus) => do advance; primary fuel counts
    | some (.operator .minus) => do advance; return wrap (-(← primary fuel counts))
    | some .complement => do advance; return wrap (-(← primary fuel counts) - 1)
    | some .negation => do advance; return truth ((← primary fuel counts) = 0)
    | _ => throw .expectingPrimary
termination_by structural fuel

end

/-- The value of an expression that takes up all symbols. -/
def whole : Evaluation Int := do
  let n ← expression (6 * (← get).left.length + 8) true
  if (← peek).isSome then throw .expectingEnd
  return n

end Evaluation

/-- The value of a text as an expression, and the assignments that it makes, in order. -/
def value (scope : Scope) (t : Text) : Except Fault Int × List (Text × Int) :=
  let (result, s) := (Evaluation.whole.run scope).run.run ⟨symbols t.length t, []⟩
  (result, s.assigned.reverse)

end LineShell.Sh.Arithmetic
