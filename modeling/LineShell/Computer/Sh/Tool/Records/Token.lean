import LineShell.Computer.Sh.Tool.Records.Program

/-!
# The words of programs

A program is read word by word.  Ends of lines are words, except where a statement cannot end, and a
brace that closes a block ends the statement before it.
-/

namespace LineShell.Sh.Tool.Records

/-- A word of a program. -/
inductive Token where
  /-- The program ends here. -/
  | nothing
  | newline
  /-- What ends a statement; it may be supplied before a closing brace. -/
  | semicolon (isSupplied : Bool)
  | sign (s : String)
  | word (s : String)
  /-- A function that there is without being defined. -/
  | builtin (name : String)
  /-- A name, which may stand right before an opening parenthesis. -/
  | name (t : Text) (isCalled : Bool)
  | number (x : Float) (written : Text)
  | text (t : Text)
  | pattern (t : Text)
  /-- A character with which no word begins. -/
  | strange (c : Char)
deriving Inhabited

namespace Token

/-- The token as it is told in a message. -/
def shown : Token → Text
  | nothing => "end of file".toList
  | newline => "end of line".toList
  | semicolon false => [';']
  | semicolon true => ['\x7d']
  | sign s => s.toList
  | word s => s.toList
  | builtin s => s.toList
  | name t _ => t
  | number _ t => t
  | text t => t
  | pattern t => '/' :: t ++ ['/']
  | strange c => [c]

/-- The token is a certain sign. -/
def isSign (t : Token) (s : String) : Bool :=
  match t with
  | sign u => u = s
  | _ => false

/-- The token is a certain word. -/
def isWord (t : Token) (s : String) : Bool :=
  match t with
  | word u => u = s
  | _ => false

/-- The token ends a statement. -/
def isSeparator : Token → Bool
  | newline => true
  | semicolon _ => true
  | _ => false

/-- A slash behind the token divides. -/
def isBeforeDivision : Token → Bool
  | number _ _ => true
  | text _ => true
  | name _ _ => true
  | pattern _ => true
  | sign s => [")", "]", "$", "++", "--"].contains s
  | word s => s = "getline"
  | _ => false

end Token

/-- Where reading has come to. -/
structure ReadState where
  rest : Text
  /-- The pieces of the program that follow, with the names of their files. -/
  others : List (Option Text × Text)
  /-- The name of the file that is read. -/
  file : Option Text
  line : Nat
  /-- How many parentheses are open. -/
  parentheses : Nat
  /-- How many braces are open. -/
  braces : Nat
  /-- The next word, and its line. -/
  token : Token
  tokenLine : Nat
  /-- What is wrong, last message first. -/
  complaints : List Text
  /-- The global names with what they stand for, and the functions. -/
  names : Array (Text × Kind)
  functions : Array (Text × Option Routine)
  /-- The function that is read, and its parameters. -/
  function : Option Nat
  parameters : Array (Text × Kind)
  /-- Where names are given to functions whose parameters may be tables. -/
  uses : List (Nat × Nat × Location × Option Nat × Nat)
  /-- What is printed goes somewhere else behind the next sign for that. -/
  isPrinting : Bool
  /-- A loop is read. -/
  isLooping : Bool
  /-- A rule for records is read. -/
  isForRecords : Bool

/-- Why reading stops. -/
inductive Obstacle where
  /-- The next word is not what must stand here. -/
  | unexpected
  /-- Nothing more is read. -/
  | fatal

/-- What reads programs. -/
abbrev Reader := ExceptT Obstacle (StateM ReadState)

namespace Reader

/-- How many complaints there are at most. -/
def mostComplaints : Nat := 5

/-- Notes a complaint. -/
def note (message : Text) : Reader Unit := do
  modify fun s => { s with complaints := message :: s.complaints }
  if mostComplaints ≤ (← get).complaints.length then throw .fatal

/-- Notes a complaint about a line. -/
def noteAt (line : Nat) (message : Text) : Reader Unit := do
  let file := match (← get).file with
    | some name => name ++ ": ".toList
    | none => []
  note (file ++ "line ".toList ++ numeral line ++ ": ".toList ++ message)

/-- Notes a complaint about the line of the next word. -/
def noteHere (message : Text) : Reader Unit := do
  noteAt (← get).tokenLine message

/-- Passes over characters of a kind, and gives them. -/
def takeWhile (p : Char → Bool) : Reader Text := do
  let taken := (← get).rest.takeWhile p
  modify fun s => { s with rest := s.rest.drop taken.length }
  return taken

/-- Passes over some characters. -/
def skip (n : Nat) : Reader Unit :=
  modify fun s => { s with rest := s.rest.drop n }

/-- The next character. -/
def peek? : Reader (Option Char) := do
  return (← get).rest.head?

/-- The character is a blank within a line. -/
def isInner (c : Char) : Bool := [' ', '\t', '\x0b', '\x0c', '\x0d'].contains c

/-- Passes over blanks, comments and ends of lines. -/
def skipLines : (fuel : Nat) → Reader Unit
  | 0 => return
  | fuel + 1 => do
    let _ ← takeWhile isInner
    match (← get).rest with
    | '\n' :: rest =>
      modify fun s => { s with rest, line := s.line + 1 }
      skipLines fuel
    | '#' :: _ =>
      let _ ← takeWhile (· ≠ '\n')
      skipLines fuel
    | '\\' :: '\n' :: rest =>
      modify fun s => { s with rest, line := s.line + 1 }
      skipLines fuel
    | _ => return

/-- Passes over all blanks, comments and ends of lines. -/
def skipAllLines : Reader Unit := do
  skipLines ((← get).rest.length + 1)

/-- Passes over blanks and a semicolon behind them. -/
def skipSemicolon : Reader Unit := do
  let _ ← takeWhile isInner
  if (← peek?) = some ';' then skip 1

/-- The characters that letters spell after a backslash in a text. -/
def spelled : List (Char × Char) :=
  ("\"\\/abfnrtv".toList.zip "\"\\/\x07\x08\x0c\n\x0d\t\x0b".toList)

/-- A text with what backslashes spell in it. -/
def unescaped : (fuel : Nat) → Text → Text
  | 0, t => t
  | _, [] => []
  | fuel + 1, '\\' :: c :: t =>
    match spelled.lookup c with
    | some d => d :: unescaped fuel t
    | none =>
      let octal := ((c :: t).take 3).takeWhile Escape.isOctal
      let hexadecimal := (t.take 2).takeWhile fun c => (digitIn? 16 c).isSome
      if ¬ octal.isEmpty then
        Char.ofNat (digitsIn 8 octal % 256) :: unescaped fuel ((c :: t).drop octal.length)
      else if c = 'x' ∧ ¬ hexadecimal.isEmpty then
        Char.ofNat (digitsIn 16 hexadecimal) :: unescaped fuel (t.drop hexadecimal.length)
      else '\\' :: c :: unescaped fuel t
  | fuel + 1, c :: t => c :: unescaped fuel t

/-- How much of something that does not end is shown. -/
def shownLength : Nat := 10

/-- Complains that a text or an expression does not end in its line. -/
def runaway {α : Type} (what : String) (mark : Char) (t : Text) : Reader α := do
  modify fun s => { s with tokenLine := s.line }
  noteHere (what.toList ++ [' ', mark] ++ t.take shownLength ++ " ...".toList)
  throw .fatal

/-- The inside of a text, behind its opening quote, with its backslashes, last character first. -/
def quoted : (fuel : Nat) → (reversed : Text) → Reader Text
  | 0, reversed => return reversed.reverse
  | fuel + 1, reversed => do
    match (← get).rest with
    | '"' :: rest =>
      modify fun s => { s with rest }
      return reversed.reverse
    | '\\' :: '\n' :: rest =>
      modify fun s => { s with rest, line := s.line + 1 }
      quoted fuel reversed
    | '\\' :: c :: rest =>
      modify fun s => { s with rest }
      quoted fuel (c :: '\\' :: reversed)
    | [] => runaway "runaway string constant" '"' reversed.reverse
    | '\n' :: _ => runaway "runaway string constant" '"' reversed.reverse
    | c :: rest =>
      modify fun s => { s with rest }
      quoted fuel (c :: reversed)

/-- The inside of an expression, behind its opening slash, last character first.  Between brackets a
slash does not end it. -/
def slashed : (fuel : Nat) → (inBrackets : Bool) → (reversed : Text) → Reader Text
  | 0, _, reversed => return reversed.reverse
  | fuel + 1, inBrackets, reversed => do
    match (← get).rest with
    | '\\' :: '\n' :: rest =>
      modify fun s => { s with rest, line := s.line + 1 }
      slashed fuel inBrackets reversed
    | '\\' :: '/' :: rest =>
      modify fun s => { s with rest }
      slashed fuel inBrackets ('/' :: reversed)
    | '\\' :: c :: rest =>
      modify fun s => { s with rest }
      slashed fuel inBrackets (c :: '\\' :: reversed)
    | [] => runaway "runaway regular expression" '/' reversed.reverse
    | '\n' :: _ => runaway "runaway regular expression" '/' reversed.reverse
    | c :: rest =>
      modify fun s => { s with rest }
      if c = '/' ∧ ¬ inBrackets then return reversed.reverse
      if c = '[' ∧ ¬ inBrackets then
        let start := if rest.head? = some '^' then 1 else 0
        let start := if rest[start]? = some ']' then start + 1 else start
        modify fun s => { s with rest := rest.drop start }
        slashed fuel true ((rest.take start).reverse ++ c :: reversed)
      else if c = '[' ∧ rest.head? = some ':' then
        let name := rest.tail.takeWhile Char.isAlpha
        let ended := (":]".toList).isPrefixOf (rest.drop (name.length + 1))
        let taken := if ended then name.length + 3 else 0
        modify fun s => { s with rest := rest.drop taken }
        slashed fuel true ((rest.take taken).reverse ++ c :: reversed)
      else slashed fuel (inBrackets && c ≠ ']') (c :: reversed)

/-- The words that are not names. -/
def words : List String :=
  ["print", "printf", "if", "else", "while", "for", "do", "break", "continue", "next", "nextfile",
    "exit", "return", "delete", "in", "getline", "function", "BEGIN", "END"]

/-- The functions that are read in ways of their own. -/
def specialFunctions : List String := ["split", "match", "sub", "gsub"]

/-- The signs of more than one character, longer ones first. -/
def longSigns : List String :=
  ["&&", "||", "++", "--", "+=", "-=", "*=", "/=", "%=", "^=", "==", "!=", "<=", ">=", "!~"]

/-- The signs of one character. -/
def shortSigns : Text := "+-*/%^!<>|?:~$=(),[]".toList

/-- A number, whose first digit or point comes next. -/
def number : Reader Token := do
  let start := (← get).rest
  let whole ← takeWhile Char.isDigit
  if (← peek?) = some '.' then skip 1
  let _ ← takeWhile Char.isDigit
  match (← get).rest with
  | e :: rest =>
    if e = 'e' ∨ e = 'E' then
      let sign := match rest with
        | '+' :: _ => 1
        | '-' :: _ => 1
        | _ => 0
      let digits := (rest.drop sign).takeWhile Char.isDigit
      if ¬ digits.isEmpty then skip (1 + sign + digits.length)
  | [] => pure ()
  let written := start.take (start.length - (← get).rest.length)
  if whole.isEmpty ∧ ¬ (written.any Char.isDigit) then
    skip 1
    return .strange '.'
  return .number (numberOf written) written

/-- A name or a word. -/
def identifier : Reader Token := do
  let t ← takeWhile fun c => c.isAlphanum || c = '_'
  let s := String.ofList t
  if words.contains s then
    if s = "else" ∨ s = "do" then skipAllLines
    return .word s
  if (Builtin.table.lookup s).isSome || specialFunctions.contains s then return .builtin s
  return .name t ((← peek?) = some '(')

/-- The token that begins with a sign, if there is one. -/
def sign? (before : Token) : Reader (Option Token) := do
  let s ← get
  if (s.rest.head? = some '/') ∧ ¬ before.isBeforeDivision then
    skip 1
    return some (.pattern (← slashed s.rest.length false []))
  let isOutlet := s.isPrinting && s.parentheses = 0
  match s.rest with
  | '>' :: '>' :: rest =>
    if isOutlet then
      modify fun s => { s with rest }
      return some (.sign ">>")
  | '>' :: rest =>
    if isOutlet then
      modify fun s => { s with rest }
      return some (.sign ">")
  | _ => pure ()
  if let some sign := longSigns.find? fun l => l.toList.isPrefixOf s.rest then
    skip sign.length
    if sign = "&&" ∨ sign = "||" then skipAllLines
    return some (.sign sign)
  match s.rest with
  | [] => return none
  | c :: rest =>
    if ¬ shortSigns.contains c then return none
    modify fun s => { s with rest }
    if c = '(' then modify fun s => { s with parentheses := s.parentheses + 1 }
    if c = ')' then modify fun s => { s with parentheses := s.parentheses - 1 }
    if c = ',' then skipAllLines
    return some (.sign (String.ofList [c]))

/-- The next word behind another one. -/
def scan (before : Token) : (fuel : Nat) → Reader Token
  | 0 => return .nothing
  | fuel + 1 => do
    let _ ← takeWhile isInner
    modify fun s => { s with tokenLine := s.line }
    let s ← get
    match s.rest with
    | [] =>
      match s.others with
      | (file, rest) :: others =>
        modify fun s => { s with rest := rest ++ ['\n'], others, file, line := 1 }
        scan before fuel
      | [] =>
        if s.braces ≠ 0 then
          noteHere "missing \x7d near end of file".toList
          throw .fatal
        return .nothing
    | '#' :: _ =>
      let _ ← takeWhile (· ≠ '\n')
      scan before fuel
    | '\n' :: _ =>
      skipAllLines
      return .newline
    | '\\' :: rest =>
      let after := rest.dropWhile isInner
      if after.head? = some '\n' then
        modify fun s => { s with rest := after.tail, line := s.line + 1 }
        scan before fuel
      else
        skip 1
        return .strange '\\'
    | ';' :: rest =>
      modify fun s => { s with rest }
      skipAllLines
      return .semicolon false
    | '\x7b' :: rest =>
      modify fun s => { s with rest, braces := s.braces + 1 }
      skipAllLines
      return .sign "\x7b"
    | '\x7d' :: rest =>
      if s.braces = 0 then
        modify fun s => { s with rest }
        noteHere "extra '\x7d'".toList
        skipSemicolon
        scan before fuel
      else if before.isSeparator || before.isSign "\x7d" then
        modify fun s => { s with rest, braces := s.braces - 1 }
        if s.braces = 1 then skipSemicolon
        skipAllLines
        return .sign "\x7d"
      else return .semicolon true
    | ')' :: rest =>
      if s.parentheses = 0 then
        modify fun s => { s with rest }
        noteHere "extra ')'".toList
        scan before fuel
      else
        modify fun s => { s with rest, parentheses := s.parentheses - 1 }
        return .sign ")"
    | '"' :: rest =>
      modify fun s => { s with rest }
      let t ← quoted rest.length []
      return .text (unescaped t.length t)
    | c :: rest =>
      if c.isDigit ∨ c = '.' then number
      else if c.isAlpha ∨ c = '_' then identifier
      else
        match ← sign? before with
        | some t => return t
        | none =>
          modify fun s => { s with rest }
          return .strange c

/-- Passes over the next word. -/
def advance : Reader Unit := do
  let s ← get
  let token ← scan s.token (s.rest.length + s.others.length + 4 +
    (s.others.map fun o => o.2.length + 1).foldl (· + ·) 0)
  modify fun s => { s with token }

/-- Refuses the next word. -/
def unexpected {α : Type} : Reader α := do
  let s ← get
  let near := s.token.shown
  match s.token with
  | .strange c =>
    note (numeral s.tokenLine ++ ": unexpected character '".toList ++ c :: "'".toList)
  | token =>
    if token.isSeparator && s.parentheses ≠ 0 then
      modify fun s => { s with parentheses := 0 }
      noteHere ("missing ) near ".toList ++ near)
    else noteHere ("syntax error at or near ".toList ++ near)
  throw .unexpected

/-- The next word is a certain sign. -/
def sees (s : String) : Reader Bool := do
  return (← get).token.isSign s

/-- Passes over the next word if it is a certain sign, and tells if it was. -/
def takes (s : String) : Reader Bool := do
  if ← sees s then
    advance
    return true
  return false

/-- Passes over the next word if it is a certain word, and tells if it was. -/
def takesWord (s : String) : Reader Bool := do
  if (← get).token.isWord s then
    advance
    return true
  return false

/-- Passes over a certain sign, which must come next. -/
def expect (s : String) : Reader Unit := do
  if ¬ (← takes s) then unexpected

/-- Passes over an end of a line if it comes next. -/
def skipNewline : Reader Unit := do
  if (← get).token matches .newline then advance

end Reader

end LineShell.Sh.Tool.Records
