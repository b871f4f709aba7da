import LineShell.Computer.Sh.Tool.Records.Pattern

/-!
# How programs are written

Programs are read from their words by descent.  Where a word is refused, reading goes on at the next
place at which that is possible, so that several mistakes are told at once: behind the statement,
behind the closing parenthesis, or at the next block.

A name stands for a variable or for a table, which its first use decides.  Where it is only given to
a function, the parameter of the function decides in the end.
-/

namespace LineShell.Sh.Tool.Records

namespace Reader

/-- The place of the first element for which something holds. -/
def indexOf? (names : Array (Text × Kind)) (name : Text) : Option Nat :=
  names.findIdx? (·.1 = name)

/-- What a name is called when it is used in a wrong way. -/
def kindName (isOwn : Bool) (k : Kind) : String :=
  (if isOwn then "local " else "") ++ (if k = Kind.table then "array " else "variable ")

/-- The location for which a name stands, which is noted if it is new. -/
def locate (name : Text) : Reader Location := do
  let s ← get
  match indexOf? s.parameters name with
  | some n => return .parameter n
  | none =>
    match indexOf? s.names name with
    | some n => return .global n
    | none =>
      modify fun s => { s with names := s.names.push (name, .unknown) }
      return .global s.names.size

/-- The location for which a name stands that is used in a certain way. -/
def locateAs (kind : Kind) (name : Text) : Reader Location := do
  let location ← locate name
  let s ← get
  let known := match location with
    | .parameter n => (s.parameters[n]?.map Prod.snd).getD .unknown
    | .global n => (s.names[n]?.map Prod.snd).getD .unknown
  if known = .unknown then
    match location with
    | .parameter n =>
      modify fun s => { s with parameters := s.parameters.modify n fun p => (p.1, kind) }
    | .global n => modify fun s => { s with names := s.names.modify n fun p => (p.1, kind) }
  else if known ≠ kind then
    let isOwn : Bool := match location with
      | .parameter _ => true
      | .global _ => false
    noteHere ("illegal reference to ".toList ++ (kindName isOwn known).toList ++ name)
  return location

/-- The number of the function with a name, if there is one. -/
def function? (name : Text) : Reader (Option Nat) := do
  return (← get).functions.findIdx? (·.1 = name)

/-- The number of the function with a name, which is noted if it is new. -/
def functionNumber (name : Text) : Reader Nat := do
  match ← function? name with
  | some n => return n
  | none =>
    let n := (← get).functions.size
    modify fun s => { s with functions := s.functions.push (name, none) }
    return n

/-- A name is that of a variable or a table already. -/
def isNamed (name : Text) : Reader Bool := do
  let s ← get
  return (indexOf? s.parameters name).isSome || (indexOf? s.names name).isSome

/-- The expression that a text writes as an expression that describes texts. -/
def pattern (t : Text) : Reader Expr := do
  match Pattern.compile t with
  | .ok e => return .pattern e
  | .error fault =>
    noteHere (refusedPattern fault t)
    return .pattern .empty

/-- An expression where one is expected that describes texts. -/
def described : Expr → Reader Expr
  | .text t => pattern t
  | e => return e

/-- The expression that separates the pieces of a text.  One character stands for itself, and a blank
for all blanks. -/
def separating : Expr → Reader Expr
  | .text t => if t.length ≤ 1 then return .text t else pattern t
  | e => return e

/-- Reads until one of the next words is reached, without which reading ends. -/
def skipUntil (reaches : Token → Bool) : (fuel : Nat) → Reader Unit
  | 0 => throw .fatal
  | fuel + 1 => do
    let token := (← get).token
    if reaches token then return
    if token matches .nothing then throw .fatal
    advance
    skipUntil reaches fuel

/-- How many words there are at most. -/
def mostWords : Reader Nat := do
  let s ← get
  return s.rest.length + (s.others.map fun o => o.2.length + 1).foldl (· + ·) 0 + 8

/-- Reads something; where that is refused, reading goes on from a word that `reaches`. -/
def recovering {α : Type} (read : Reader α) (reaches : Token → Bool) (instead : Reader α) :
    Reader α := do
  try read
  catch
    | .fatal => throw .fatal
    | .unexpected => do
      modify fun s => { s with isPrinting := false }
      skipUntil reaches (← mostWords)
      instead

/-- How expressions are read: those that bind at least as tightly as a level. -/
structure Levels where
  /-- An expression; the loosest level is one. -/
  expression : Nat → Reader Expr
  /-- What binds more tightly than texts that are joined; the flag tells if it can be assigned. -/
  tight : Nat → Reader (Expr × Bool)

/-- Several expressions between commas, up to a sign, which is passed over. -/
def listUntil (l : Levels) (close : String) : (fuel : Nat) → Reader (List Expr)
  | 0 => throw .fatal
  | fuel + 1 => do
    let e ← l.expression 1
    if ← takes "," then return e :: (← listUntil l close fuel)
    expect close
    return [e]

/-- Several expressions between commas, up to a sign. -/
def list (l : Levels) (close : String) : Reader (List Expr) := do
  listUntil l close (← mostWords)

/-- A name that must come next. -/
def anyName : Reader Text := do
  match (← get).token with
  | .name t isCalled =>
    if (← function? t).isSome || (isCalled && !(← isNamed t)) then unexpected
    advance
    return t
  | _ => unexpected

/-- A table whose name must come next. -/
def anyTable : Reader Location := do
  match (← get).token with
  | .name t _ =>
    if (← function? t).isSome then unexpected
    let location ← locateAs .table t
    advance
    return location
  | _ => unexpected

/-- The arguments of a function that is called. -/
def argumentsOf (l : Levels) (function : Nat) : Reader (List Expr) := do
  expect "("
  if ← takes ")" then return []
  go function 0 (← mostWords)
where
  /-- The arguments from a number on. -/
  go (function n : Nat) : (fuel : Nat) → Reader (List Expr)
    | 0 => throw .fatal
    | fuel + 1 => do
      let line := (← get).tokenLine
      let bare : Option Text := match (← get).token with
        | .name t _ => some t
        | _ => none
      let saved ← get
      let mut found : Option Expr := none
      if let some name := bare then
        if (← function? name).isNone then
          advance
          if (← sees ",") || (← sees ")") then
            let location ← locate name
            modify fun s => { s with uses := (function, n, location, s.function, line) :: s.uses }
            found := some (.named location)
          else set saved
      let e ← match found with
        | some e => pure e
        | none => do
          let e ← l.expression 1
          -- A value that is no name is none of a table: it is noted under a number of its own.
          modify fun s =>
            { s with uses := (function, n, .global 0, s.function, line) :: s.uses }
          pure e
      if ← takes "," then return e :: (← go function (n + 1) fuel)
      expect ")"
      return [e]

/-- The next word may begin something that can be assigned. -/
def seesTarget : Reader Bool := do
  match (← get).token with
  | .name t isCalled =>
    return (← function? t).isNone && !(isCalled && !(← isNamed t))
  | .sign "$" => return true
  | _ => return false

/-- Something that can be assigned, which must come next. -/
def target (l : Levels) : Reader Expr := do
  if ¬ ((← seesTarget) || (← sees "(")) then unexpected
  let (e, isTarget) ← l.tight 16
  if !isTarget then unexpected
  return e

/-- A function that is read in a way of its own. -/
def specialCall (l : Levels) (name : String) : Reader Expr := do
  expect "("
  let a ← l.expression 1
  expect ","
  match name with
  | "match" =>
    let e ← described (← l.expression 1)
    expect ")"
    return .position a e
  | "split" =>
    let table ← anyTable
    let separator ← if ← takes "," then pure (some (← separating (← l.expression 1))) else pure none
    expect ")"
    return .split a table separator
  | name =>
    let e ← described a
    let replacement ← l.expression 1
    let into ← if ← takes "," then target l else pure (.field (.number 0.0))
    expect ")"
    return .substitute (name = "gsub") e replacement into

/-- A function that there is without being defined. -/
def builtinCall (l : Levels) (name : String) : Reader Expr := do
  advance
  match Builtin.table.lookup name with
  | none => specialCall l name
  | some (f, least, greatest) =>
    if f = .length then
      if ¬ (← takes "(") then return .builtin .length []
      if ← takes ")" then return .builtin .length []
      if let .name t _ := (← get).token then
        if (← function? t).isNone then
          let saved ← get
          advance
          let s ← get
          let location := (indexOf? s.parameters t).map Location.parameter
          let location := location.or ((indexOf? s.names t).map Location.global)
          if s.token.isSign ")" then
            let known : Kind := match location with
              | some (.parameter n) => (s.parameters[n]?.map Prod.snd).getD .unknown
              | some (.global n) => (s.names[n]?.map Prod.snd).getD .unknown
              | none => .unknown
            if known ≠ .scalar then
              let location ← locate t
              advance
              return .size location
          set saved
      let e ← l.expression 1
      expect ")"
      return .builtin .length [e]
    else
      let line := (← get).tokenLine
      expect "("
      let arguments ← if ← takes ")" then pure [] else list l ")"
      if arguments.length < least ∨ greatest < arguments.length then
        noteAt line ("wrong number of arguments in call to ".toList ++ name.toList)
      return .builtin f arguments

/-- What stands between parentheses, the opening one of which has been passed over.  Where it is
refused, reading goes on behind the closing one. -/
def parenthesized (l : Levels) : Reader (Expr × Bool) := do
  let inside : Reader (Expr × Bool) := do
    let e ← l.expression 1
    if ← takes "," then
      let es ← list l ")"
      if ¬ (← takesWord "in") then unexpected
      return (.isElement (e :: es) (← anyTable), false)
    expect ")"
    return (e, e.isField)
  let fault : Reader (Expr × Bool) := do
    advance
    return (.number 0.0, false)
  recovering inside (·.isSign ")") fault

/-- A variable, an entry of a table or a call, of which the name comes next. -/
def named (l : Levels) (t : Text) (isCalled : Bool) : Reader (Expr × Bool) := do
  let known ← function? t
  if known.isSome || (isCalled && !(← isNamed t)) then
    let n ← functionNumber t
    advance
    return (.call n (← argumentsOf l n), false)
  advance
  if ← sees "[" then
    let location ← locateAs .table t
    advance
    return (.element location (← list l "]"), true)
  if (← get).token.isWord "in" then
    -- The name may be a subscript or a variable; it is a variable in both cases.
    return (.named (← locateAs .scalar t), true)
  return (.named (← locateAs .scalar t), true)

/-- The field whose number comes next. -/
def fieldNumber (l : Levels) : Reader Expr := do
  match (← get).token with
  | .name t isCalled =>
    let (e, _) ← named l t isCalled
    return e
  | _ =>
    let (e, _) ← l.tight 16
    return e

/-- How the next record is read from the input or a file. -/
def reading (l : Levels) : Reader Expr := do
  let into ← if ← seesTarget then pure (some (← target l)) else pure none
  let s ← get
  if s.token.isSign "<" then
    advance
    let (path, _) ← l.tight 14
    return .readFile into path
  return .read into

/-- What comes first in an expression. -/
def primary (l : Levels) : Reader (Expr × Bool) := do
  match (← get).token with
  | .number x _ =>
    advance
    return (.number x, false)
  | .text t =>
    advance
    return (.text t, false)
  | .pattern t =>
    let e ← pattern t
    advance
    return (e, false)
  | .builtin name => return (← builtinCall l name, false)
  | .name t isCalled => named l t isCalled
  | .word "getline" =>
    advance
    return (← reading l, false)
  | .sign "(" =>
    advance
    parenthesized l
  | .sign "$" =>
    advance
    return (.field (← fieldNumber l), true)
  | .sign "!" =>
    advance
    return (.negation (← l.tight 12).1, false)
  | .sign "-" =>
    advance
    return (.opposite (← l.tight 12).1, false)
  | .sign "+" =>
    advance
    return (.asNumber (← l.tight 12).1, false)
  | .sign "++" =>
    advance
    return (.step true 1.0 (← target l), false)
  | .sign "--" =>
    advance
    return (.step true (-1.0) (← target l), false)
  | _ => unexpected

/-- What comes first in an expression, and signs behind it that make it grow. -/
def stepped (l : Levels) : Reader (Expr × Bool) := do
  let (e, isTarget) ← primary l
  if isTarget then
    if ← takes "++" then return (.step false 1.0 e, false)
    if ← takes "--" then return (.step false (-1.0) e, false)
  return (e, isTarget)

/-- What a sign between two numbers means, how tightly it binds, and how tightly what follows it must
bind. -/
def calculation? (t : Token) : Option (Calculation × Nat × Nat) :=
  match t with
  | .sign "+" => some (.add, 10, 11)
  | .sign "-" => some (.subtract, 10, 11)
  | .sign "*" => some (.multiply, 11, 12)
  | .sign "/" => some (.divide, 11, 12)
  | .sign "%" => some (.remainder, 11, 12)
  | .sign "^" => some (.power, 14, 14)
  | _ => none

/-- What follows an expression and binds at least as tightly as a level, up to signs that bind less
tightly than texts that are joined. -/
def calculated (l : Levels) (level : Nat) : (fuel : Nat) → Expr × Bool → Reader (Expr × Bool)
  | 0, left => return left
  | fuel + 1, (left, isTarget) => do
    let s ← get
    match calculation? s.token with
    | some (c, binds, right) =>
      if binds < level then return (left, isTarget)
      advance
      let (e, _) ← l.tight right
      calculated l level fuel (.calculation c left e, false)
    | none =>
      let isOutlet := s.isPrinting && s.parentheses = 0
      if s.token.isSign "|" ∧ ¬ isOutlet ∧ level ≤ 13 then
        advance
        if ¬ (← takesWord "getline") then unexpected
        let into ← if ← seesTarget then pure (some (← target l)) else pure none
        calculated l level fuel (.readCommand into left, false)
      else return (left, isTarget)

/-- The next word begins an expression that can be joined to the one before it. -/
def seesOperand : Reader Bool := do
  return match (← get).token with
    | .number _ _ => true
    | .text _ => true
    | .pattern _ => true
    | .name _ _ => true
    | .builtin _ => true
    | .word s => s = "getline"
    | .sign s => ["(", "$", "!", "++", "--"].contains s
    | _ => false

/-- Texts that are joined. -/
def joined (l : Levels) : (fuel : Nat) → Expr → Reader Expr
  | 0, e => return e
  | fuel + 1, e => do
    if ← seesOperand then
      let (other, _) ← l.tight 10
      joined l fuel (.joined e other)
    else return e

/-- What an assigning sign calculates. -/
def assignment? (t : Token) : Option (Option Calculation) :=
  match t with
  | .sign "=" => some none
  | .sign "+=" => some (some .add)
  | .sign "-=" => some (some .subtract)
  | .sign "*=" => some (some .multiply)
  | .sign "/=" => some (some .divide)
  | .sign "%=" => some (some .remainder)
  | .sign "^=" => some (some .power)
  | _ => none

/-- What a comparing sign means. -/
def relation? (t : Token) : Option Relation :=
  match t with
  | .sign "<" => some .less
  | .sign "<=" => some .atMost
  | .sign "==" => some .equal
  | .sign "!=" => some .unequal
  | .sign ">" => some .greater
  | .sign ">=" => some .atLeast
  | _ => none

/-- What follows an expression and binds at least as tightly as a level. -/
def compared (l : Levels) (level : Nat) : (fuel : Nat) → Expr → Reader Expr
  | 0, left => return left
  | fuel + 1, left => do
    let s ← get
    let isOutlet : Bool := s.isPrinting && s.parentheses = 0 && s.token.isSign ">"
    match relation? s.token, s.token with
    | some r, _ =>
      if isOutlet ∨ 7 < level then return left
      advance
      compared l level fuel (.relation r left (← l.expression 8))
    | none, .sign "~" =>
      if 6 < level then return left
      advance
      compared l level fuel (.matched false left (← described (← l.expression 7)))
    | none, .sign "!~" =>
      if 6 < level then return left
      advance
      compared l level fuel (.matched true left (← described (← l.expression 7)))
    | none, .word "in" =>
      if 5 < level then return left
      advance
      compared l level fuel (.isElement [left] (← anyTable))
    | none, .sign "&&" =>
      if 4 < level then return left
      advance
      compared l level fuel (.both left (← l.expression 5))
    | none, .sign "||" =>
      if 3 < level then return left
      advance
      compared l level fuel (.either left (← l.expression 4))
    | none, .sign "?" =>
      if 2 < level then return left
      advance
      let a ← l.expression 1
      expect ":"
      let b ← l.expression 2
      compared l level fuel (.choice left a b)
    | _, _ => return left

/-- The rest of an expression that begins with something, which may be assigned. -/
def continued (l : Levels) (level : Nat) (first : Expr × Bool) : Reader Expr := do
  let (e, isTarget) := first
  let fuel ← mostWords
  match isTarget, assignment? (← get).token with
  | true, some calculation =>
    advance
    let value ← l.expression 1
    return match calculation with
      | none => .assign e value
      | some c => .update c e value
  | _, _ =>
    let e ← joined l fuel e
    compared l level fuel e

/-- How expressions are read, to a depth. -/
def levels : (depth : Nat) → Levels
  | 0 => ⟨fun _ => throw .fatal, fun _ => throw .fatal⟩
  | depth + 1 =>
    { expression := fun level => do
        let l := levels depth
        let first ← l.tight 10
        continued l level first
      tight := fun level => do
        let l := levels depth
        let first ← stepped l
        calculated l level (← mostWords) first }

/-- How deeply expressions may be nested. -/
def deepest : Nat := 100000

/-- How expressions are read. -/
def anyLevel : Levels := levels deepest

/-- An expression. -/
def expression : Reader Expr := anyLevel.expression 1

/-- Passes over what ends a statement. -/
def separator : Reader Unit := do
  if (← get).token.isSeparator then advance else unexpected

/-- The next word ends a statement. -/
def seesSeparator : Reader Bool := do
  return (← get).token.isSeparator

/-- Where what is printed goes. -/
def outlet : Reader (Option (Outlet × Expr)) := do
  let s ← get
  let kind : Option Outlet := match s.token with
    | .sign ">" => some .file
    | .sign ">>" => some .append
    | .sign "|" => some .command
    | _ => none
  match kind with
  | none => return none
  | some kind =>
    modify fun s => { s with isPrinting := false }
    advance
    return some (kind, ← expression)

/-- The rest of a list of expressions, after the first one. -/
def commaList : (fuel : Nat) → Reader (List Expr)
  | 0 => throw .fatal
  | fuel + 1 => do
    if ← takes "," then
      let e ← expression
      return e :: (← commaList fuel)
    return []

/-- What is printed.  It may stand between parentheses. -/
def printed : Reader (List Expr) := do
  let token := (← get).token
  if token.isSeparator || token.isSign ">" || token.isSign ">>" || token.isSign "|" then return []
  let fuel ← mostWords
  if token.isSign "(" then
    advance
    if ← takes ")" then return []
    let l := anyLevel
    let inside : Reader (List Expr) := do
      let e ← l.expression 1
      if ← takes "," then
        let es ← list l ")"
        return e :: es
      expect ")"
      return [e]
    let fault : Reader (List Expr) := do
      advance
      return [.number 0.0]
    let es ← recovering inside (·.isSign ")") fault
    match es with
    | [e] =>
      let first ← stepping l e
      let first ← calculated l 10 fuel first
      let e ← continued l 1 first
      return e :: (← commaList fuel)
    | es =>
      if ← takesWord "in" then
        let first ← continued l 1 (.isElement es (← anyTable), false)
        return first :: (← commaList fuel)
      return es
  let e ← expression
  return e :: (← commaList fuel)
where
  /-- Signs behind a field between parentheses that make it grow. -/
  stepping (_ : Levels) (e : Expr) : Reader (Expr × Bool) := do
    if e.isField then
      if ← takes "++" then return (.step false 1.0 e, false)
      if ← takes "--" then return (.step false (-1.0) e, false)
    return (e, e.isField)

/-- A statement that prints. -/
def printing (isFormatted : Bool) : Reader Statement := do
  let line := (← get).tokenLine
  modify fun s => { s with isPrinting := true }
  advance
  let arguments ← printed
  let out ← outlet
  modify fun s => { s with isPrinting := false }
  if isFormatted ∧ arguments.isEmpty then
    noteAt line "no arguments in call to printf".toList
  separator
  return if isFormatted then .printf arguments out else .print arguments out

/-- A value that may be missing, and the end of a statement. -/
def valueAndSeparator : Reader (Option Expr) := do
  let e ← if ← seesSeparator then pure none else pure (some (← expression))
  separator
  return e

/-- Reads something within a loop. -/
def looping {α : Type} (read : Reader α) : Reader α := do
  let before := (← get).isLooping
  modify fun s => { s with isLooping := true }
  let a ← read
  modify fun s => { s with isLooping := before }
  return a

/-- Notes a complaint unless something holds, about the line of a statement that has been read. -/
def demand (holds : Bool) (line : Nat) (message : String) : Reader Unit := do
  if !holds then noteAt line message.toList

/-- A condition between parentheses. -/
def parenthesizedCondition : Reader Expr := do
  expect "("
  let e ← expression
  expect ")"
  return e

/-- The names of a loop for all texts of a table, if there is one, behind its opening parenthesis. -/
def loopNames? : Reader (Option (Text × Text)) := do
  let saved ← get
  match saved.token with
  | .name target _ =>
    if (← function? target).isSome then return none
    advance
    if ← takesWord "in" then
      if let .name table _ := (← get).token then
        advance
        if ← sees ")" then return some (target, table)
    set saved
    return none
  | _ => return none

/-- A loop that begins with a word for counting, which has been passed over. -/
def counting (statement : Reader Statement) : Reader Statement := do
  expect "("
  match ← loopNames? with
  | some (name, table) =>
    let target ← locateAs .scalar name
    let table ← locateAs .table table
    advance
    skipNewline
    return .forEach target table (← looping statement)
  | none =>
    let semicolon : Reader Unit := do
      if (← get).token matches .semicolon false then advance else unexpected
    let isSemicolon : Reader Bool := do
      return (← get).token matches .semicolon false
    let start ← if ← isSemicolon then pure Statement.nothing
      else pure (Statement.expression (← expression))
    semicolon
    let condition ← if ← isSemicolon then pure none else pure (some (← expression))
    semicolon
    let step ← if ← sees ")" then pure Statement.nothing
      else pure (Statement.expression (← expression))
    expect ")"
    skipNewline
    return .counting start condition step (← looping statement)

/-- Statements up to the end of a block, whose opening brace has been passed over. -/
def blockRest (statement : Reader Statement) : (fuel : Nat) → Reader (List Statement)
  | 0 => throw .fatal
  | fuel + 1 => do
    if ← takes "\x7d" then return []
    if (← get).token matches .nothing then unexpected
    let s ← statement
    return s :: (← blockRest statement fuel)

/-- A block. -/
def block (statement : Reader Statement) : Reader Statement := do
  expect "\x7b"
  -- A block holds one statement at least, though it may be empty.
  let first ← statement
  return .block (first :: (← blockRest statement (← mostWords)))

/-- A statement that begins with a word. -/
def wordStatement (statement : Reader Statement) (word : String) : Reader Statement := do
  let line := (← get).tokenLine
  match word with
  | "print" => printing false
  | "printf" => printing true
  | "if" =>
    advance
    let e ← parenthesizedCondition
    skipNewline
    let a ← statement
    if ← takesWord "else" then return .choice e a (← statement)
    return .choice e a .nothing
  | "while" =>
    advance
    let e ← parenthesizedCondition
    skipNewline
    return .loop e (← looping statement)
  | "do" =>
    advance
    let body ← looping statement
    if ¬ (← takesWord "while") then unexpected
    let e ← parenthesizedCondition
    separator
    return .loopOnce body e
  | "for" =>
    advance
    counting statement
  | "break" =>
    advance
    demand (← get).isLooping line "break statement outside of loop"
    separator
    return .leaveLoop
  | "continue" =>
    advance
    demand (← get).isLooping line "continue statement outside of loop"
    separator
    return .nextTurn
  | "next" =>
    demand (← get).isForRecords line "improper use of next"
    advance
    separator
    return .nextRecord
  | "nextfile" =>
    demand (← get).isForRecords line "improper use of nextfile"
    advance
    separator
    return .nextFile
  | "exit" =>
    advance
    return .leave (← valueAndSeparator)
  | "return" =>
    demand (← get).function.isSome line "return outside function body"
    advance
    return .result (← valueAndSeparator)
  | "delete" =>
    advance
    let table ← anyTable
    let subscripts ← if ← takes "[" then pure (some (← list anyLevel "]")) else pure none
    separator
    return .remove table subscripts
  | "getline" =>
    let e ← expression
    separator
    return .expression e
  | _ => unexpected

/-- A statement.  Where it is refused, reading goes on behind what ends it. -/
def statement : (depth : Nat) → Reader Statement
  | 0 => throw .fatal
  | depth + 1 => do
    let read : Reader Statement := do
      match (← get).token with
      | .sign "\x7b" => block (statement depth)
      | .word w => wordStatement (statement depth) w
      | .nothing => throw .fatal
      | token =>
        if token.isSeparator then
          advance
          return .nothing
        let e ← expression
        separator
        return .expression e
    let fault : Reader Statement := do
      advance
      return .nothing
    recovering read Token.isSeparator fault

/-- The block of a rule or of a function. -/
def body : Reader Statement := block (statement deepest)

/-- The parameters of a function, up to the closing parenthesis. -/
def parametersOf (function : Text) : (fuel : Nat) → Reader Unit
  | 0 => throw .fatal
  | fuel + 1 => do
    match (← get).token with
    | .name t _ =>
      if t = function then
        noteHere "function parameter cannot be the function".toList
        unexpected
      if (indexOf? (← get).parameters t).isSome then
        noteHere (t ++ " is duplicated in argument list".toList)
      modify fun s => { s with parameters := s.parameters.push (t, .unknown) }
      advance
      if ← takes "," then parametersOf function fuel else expect ")"
    | _ => unexpected

/-- A function, whose first word has been passed over. -/
def definition : Reader Unit := do
  match (← get).token with
  | .name t _ =>
    if ← isNamed t then
      let s ← get
      let known := (indexOf? s.names t).bind fun n => s.names[n]?.map Prod.snd
      noteHere ("illegal reference to ".toList ++
        (kindName false (known.getD .scalar)).toList ++ t)
    let n ← functionNumber t
    if ((← get).functions[n]?.bind Prod.snd).isSome then
      noteHere ("redefinition of ".toList ++ t)
    modify fun s =>
      { s with
        functions := s.functions.modify n fun f => (f.1, some ⟨f.1, #[], .nothing⟩)
        function := some n
        parameters := #[] }
    advance
    expect "("
    if ¬ (← takes ")") then parametersOf t (← mostWords)
    skipNewline
    let action ← body
    modify fun s =>
      { s with
        functions := s.functions.modify n fun f =>
          (f.1, some ⟨f.1, s.parameters.map Prod.snd, action⟩)
        function := none
        parameters := #[] }
  | _ => unexpected

/-- A rule whose condition has been read, or the record is printed. -/
def ruleOf (condition : Condition) : Reader Rule := do
  if ← sees "\x7b" then return ⟨condition, ← body⟩
  separator
  return ⟨condition, .print [] none⟩

/-- A rule or a function.  Where it is refused, reading goes on at the next block. -/
def rule : Reader (Option Rule) := do
  modify fun s =>
    { s with isForRecords := false, isLooping := false, function := none, parameters := #[] }
  let read : Reader (Option Rule) := do
    match (← get).token with
    | .word "BEGIN" =>
      advance
      return some ⟨.atBeginning, ← body⟩
    | .word "END" =>
      advance
      return some ⟨.atEnd, ← body⟩
    | .word "function" =>
      advance
      definition
      return none
    | .sign "\x7b" =>
      modify fun s => { s with isForRecords := true }
      return some ⟨.always, ← body⟩
    | _ =>
      modify fun s => { s with isForRecords := true }
      let first ← expression
      if ← takes "," then return some (← ruleOf (.between first (← expression)))
      return some (← ruleOf (.when first))
  let fault : Reader (Option Rule) := do
    modify fun s =>
      { s with isForRecords := true, isLooping := false, function := none, parameters := #[] }
    return some ⟨.always, ← body⟩
  recovering read (·.isSign "\x7b") fault

/-- All rules. -/
def rules : (fuel : Nat) → Reader (List Rule)
  | 0 => return []
  | fuel + 1 => do
    if (← get).token matches .nothing then return []
    match ← rule with
    | some r => return r :: (← rules fuel)
    | none => rules fuel

/-- What is known of what a name stands for. -/
def kindAt (s : ReadState) (function : Option Nat) (location : Location) : Kind :=
  match location with
  | .global n => (s.names[n]?.map Prod.snd).getD .unknown
  | .parameter n =>
    let found := (function.bind fun f => s.functions[f]?).bind Prod.snd
    ((found.bind fun f => f.parameters[n]?)).getD .unknown

/-- The state with what a name stands for. -/
def withKind (s : ReadState) (function : Option Nat) (location : Location) (k : Kind) : ReadState :=
  match location, function with
  | .global n, _ => { s with names := s.names.modify n fun p => (p.1, k) }
  | .parameter n, some f =>
    { s with functions := s.functions.modify f fun g =>
        (g.1, g.2.map fun g => { g with parameters := g.parameters.modify n fun _ => k }) }
  | .parameter _, none => s

/-- The use of a name as an argument says that it stands for the same as the parameter, if that is
known of one of both.  What is no name is noted as the first global name, which is a variable. -/
def spread (s : ReadState) (use : Nat × Nat × Location × Option Nat × Nat) : ReadState :=
  let (function, n, location, inside, _) := use
  let given := kindAt s inside location
  let taken := kindAt s (some function) (.parameter n)
  if given = .unknown ∧ taken ≠ .unknown then withKind s inside location taken
  else if taken = .unknown ∧ given ≠ .unknown then withKind s (some function) (.parameter n) given
  else s

/-- Spreads what is known until nothing new is known. -/
def spreadAll (uses : List (Nat × Nat × Location × Option Nat × Nat)) : (rounds : Nat) →
    ReadState → ReadState
  | 0, s => s
  | rounds + 1, s => spreadAll uses rounds (uses.foldl spread s)

/-- Notes complaints about the arguments of functions. -/
def checkUses (uses : List (Nat × Nat × Location × Option Nat × Nat)) : Reader Unit := do
  for (function, n, location, inside, line) in uses do
    let s ← get
    if let some (name, some f) := s.functions[function]? then
      let given := kindAt s inside location
      let taken := kindAt s (some function) (.parameter n)
      if f.parameters.size ≤ n then
        if n = f.parameters.size then
          noteAt line ("too many arguments in call to ".toList ++ name)
      else if given ≠ taken ∧ given ≠ .unknown ∧ taken ≠ .unknown then
        noteAt line ("type error in arg(".toList ++ numeral (n + 1) ++ ") in call to ".toList ++
          name ++ " (actual ".toList ++ (kindName true given).toList ++ "vs ".toList ++
          ((kindName true taken).toList.dropLast) ++ ")".toList)

/-- A whole program. -/
def program : Reader Program := do
  skipAllLines
  advance
  let found ← rules ((← mostWords) + 1)
  let s ← get
  if ¬ s.complaints.isEmpty then throw .fatal
  for (name, f) in s.functions.toList.reverse do
    if f.isNone then noteHere ("function ".toList ++ name ++ " never defined".toList)
  let uses := (← get).uses.reverse
  modify (spreadAll uses (uses.length + 1))
  checkUses uses
  let s ← get
  return ⟨found, s.functions.toList.filterMap Prod.snd |>.toArray, s.names.toList⟩

end Reader

/-- The program that is written in some pieces, with the names of their files, or what is wrong with
it. -/
def Program.ofPieces (pieces : List (Option Text × Text)) : Except (List Text) Program :=
  let names := (specialNames.zipIdx.map fun (name, n) => (name.toList, Special.kind n)).toArray
  let (file, first) := pieces.headD (none, [])
  let start : ReadState :=
    { rest := first ++ ['\n']
      others := pieces.tail
      file
      line := 1
      parentheses := 0
      braces := 0
      token := .nothing
      tokenLine := 1
      complaints := []
      names
      functions := #[]
      function := none
      parameters := #[]
      uses := []
      isPrinting := false
      isLooping := false
      isForRecords := false }
  match Reader.program.run.run start with
  | (.ok p, s) => if s.complaints.isEmpty then .ok p else .error s.complaints.reverse
  | (.error _, s) => .error s.complaints.reverse

end LineShell.Sh.Tool.Records
