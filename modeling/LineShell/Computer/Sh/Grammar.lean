import LineShell.Computer.Sh.Checks

/-!
# The grammar of the command language

Tokens make scripts.  `Grammar.line?` reads the commands of one line, or of several lines where a
command goes on; a script is carried out line by line, so a fault further down does not keep the
first lines from being carried out.

In the extended language a fault tells the text of the token where it was found.
-/

namespace LineShell.Sh

namespace Grammar

/-- Where a reader of tokens stands. -/
structure State where
  reading : Reading
  /-- The token that comes next, if it has been looked at, and what is left after it. -/
  ahead : Option (Token × Reading)

/-- Something that takes tokens from the front of what is left and gives a result. -/
abbrev Parser := ReaderT ScriptReader (StateT State (Except LocatedFault))

/-- The words with a meaning of their own where a command may begin. -/
def keywords : List Text :=
  ["if", "then", "else", "elif", "fi", "while", "until", "do", "done", "for", "case", "esac",
    "in", "\x7b", "\x7d", "!"].map String.toList

/-- The words that have a meaning of their own only in the extended language. -/
def extendedKeywords : List Text :=
  ["[[", "function", "select", "time"].map String.toList

/-- The words with a meaning of their own in a language. -/
def keywordsOf (language : Language) : List Text :=
  if language = .extended then keywords ++ extendedKeywords else keywords

/-- The keywords that end a list of commands. -/
def closers : List Text :=
  ["then", "else", "elif", "fi", "do", "done", "esac", "\x7d"].map String.toList

/-- The text of a word that is one piece of text outside quotes. -/
def bare? : Token → Option Text
  | .word [.plain t] => some t
  | _ => none

/-- How a token is named in the text of a fault. -/
def named (token : Token) : Text :=
  match token with
  | .word _ =>
    match bare? token with
    | some t => if t ∈ keywords then '"' :: t ++ ['"'] else "word".toList
    | none => "word".toList
  | .mark t => '"' :: t ++ ['"']
  | .redirect .. => "redirection".toList
  | .document .. => "redirection".toList
  | .redirectBoth _ => "redirection".toList
  | .line _ => "redirection".toList
  | .newline => "newline".toList
  | .ended => "end of file".toList
  | .fault _ => []

/-- The token that comes next, and what is left after it. -/
def look : Parser (Token × Reading) := do
  let s ← get
  match s.ahead with
  | some ahead => return ahead
  | none =>
    let ahead := Token.next (← read) s.reading
    set { s with ahead := some ahead }
    return ahead

/-- The token that comes next. -/
def peek : Parser Token := do
  return (← look).1

/-- The line of the token that comes next. -/
def currentLine : Parser Nat := do
  return (← look).2.line

/-- Passes the token that comes next. -/
def advance : Parser Unit := do
  let (_, reading) ← look
  set (⟨{ reading with assigns := true }, none⟩ : State)

/-- The script is in the extended language. -/
def isExtended : Parser Bool := do
  return (← get).reading.isExtended

/-- More steps than reading the rest of the text can take. -/
def steps : Parser Nat := do
  return 8 * (← get).reading.text.length + 8

/-- Fails because of the token that comes next. -/
def unexpected {α : Type} (expected : Option Text) : Parser α := do
  let before := (← get).reading
  match ← look with
  | (.fault f, _) => throw f
  | (token, reading) =>
    if before.isExtended then
      match token with
      | .ended => throw ⟨reading.last, .ended⟩
      | .newline => throw ⟨before.line, .unexpected "newline".toList none⟩
      | _ =>
        let shown := (before.after (Token.skipBlanks before.text)).upTo reading
        throw ⟨reading.line, .unexpected shown none⟩
    else throw ⟨reading.line, .unexpected (named token) expected⟩

/-- The alias that the token that comes next is replaced for.  One whose text is being read does not
count, and behind the text of an alias that lets the next word be one only that word does. -/
def alias? (anywhere : Bool) : Parser (Option (Text × Text)) := do
  let before := (← get).reading
  let (token, after) ← look
  match bare? token with
  | none => return none
  | some t =>
    let isOpen := after.within.any fun entry =>
      entry.name = t && entry.left ≤ after.text.length
    let invited := after.within.any fun entry =>
      entry.opensNext && entry.left < before.text.length && after.text.length < entry.left
    if isOpen ∨ ¬ (anywhere ∨ invited) ∨ t ∈ keywordsOf after.manner.language then return none
    else return (after.aliases.lookup t).map (t, ·)

/-- Replaces the token that comes next as long as it is an alias. -/
def substituteAliases (anywhere : Bool) : Nat → Parser Unit
  | 0 => pure ()
  | fuel + 1 => do
    match ← alias? anywhere with
    | none => pure ()
    | some (name, value) =>
      let (_, after) ← look
      set (⟨after.substitute name value, none⟩ : State)
      substituteAliases (anywhere || value.isEmpty) fuel

/-- Replaces an alias where a command begins. -/
def beginCommand : Parser Unit := do
  substituteAliases true ((← get).reading.aliases.length + 1)

/-- The keyword that comes next. -/
def keyword? : Parser (Option String) := do
  let known := keywordsOf (← get).reading.manner.language
  return ((bare? (← peek)).filter (· ∈ known)).map String.ofList

/-- The mark that comes next. -/
def mark? : Parser (Option String) := do
  match ← peek with
  | .mark t => return some (String.ofList t)
  | _ => return none

/-- Passes a keyword. -/
def expectKeyword (keyword : String) : Parser Unit := do
  if (← keyword?) = some keyword then advance
  else unexpected (some ('"' :: keyword.toList ++ ['"']))

/-- Passes a mark. -/
def expectMark (mark : String) : Parser Unit := do
  if (← mark?) = some mark then advance
  else unexpected (some ('"' :: mark.toList ++ ['"']))

/-- Passes a closing bracket, where keywords are words like all others. -/
def expectBracket : Parser Unit := do
  match ← peek with
  | .word _ =>
    if ← isExtended then unexpected none
    else throw ⟨← currentLine, .unexpected "word".toList (some "\")\"".toList)⟩
  | _ => expectMark ")"

/-- Passes at most as many newlines as given. -/
def skipSome : Nat → Parser Unit
  | 0 => pure ()
  | fuel + 1 => do
    match ← peek with
    | .newline => do advance; skipSome fuel
    | _ => pure ()

/-- Passes newlines. -/
def skipNewlines : Parser Unit := do
  skipSome (← steps)

/-- The list of commands is over before the next token. -/
def listEnds : Parser Bool := do
  let token ← peek
  match token with
  | .mark t => return t = [')'] ∨ ([";;", ";&", ";;&"].map String.toList).contains t
  | .ended => return true
  | _ => return (bare? token).any (· ∈ closers)

/-- A text is a name. -/
def isName (t : Text) : Bool :=
  t ≠ [] ∧ t.all Token.isNameChar ∧ ¬ (t.headD ' ').isDigit

/-- The assignment that a word is. -/
def assignment? (language : Language) : Word → Option Assignment
  | .plain t :: w =>
    let name := t.takeWhile Token.isNameChar
    let assigned (adds : Bool) (value : Text) : Option Assignment :=
      some ⟨name, none, adds, if value = [] then w else .plain value :: w⟩
    if ¬ isName name then none
    else
      match t.drop name.length with
      | '=' :: value => assigned false value
      | '+' :: '=' :: value => if language = .extended then assigned true value else none
      | '[' :: rest =>
        if language = .extended then
          let found := Token.item (.plain ('[' :: rest) :: w)
          found.index.map fun index => ⟨name, some index, found.adds, found.value⟩
        else none
      | _ => none
  | _ => none

/-- The target of a redirection, which is the next word. -/
def target : Parser Word := do
  match ← peek with
  | .word target =>
    advance
    return target
  | _ => unexpected none

/-- The redirections that the next token asks for, if it is one. -/
def redirection? : Parser (Option (List Redirection)) := do
  match ← peek with
  | .redirect descriptor connection =>
    advance
    return some [⟨descriptor, connection, ← target⟩]
  | .redirectBoth connection =>
    advance
    return some [⟨1, connection, ← target⟩, ⟨2, .duplicate, [.plain ['1']]⟩]
  | .line descriptor =>
    advance
    return some [⟨descriptor, .here, (← target) ++ [.quoted ['\n']]⟩]
  | .document descriptor body =>
    advance
    return some [⟨descriptor, .here, body⟩]
  | _ => return none

/-- All redirections that come next. -/
def redirections : Nat → Parser (List Redirection)
  | 0 => return []
  | fuel + 1 => do
    match ← redirection? with
    | none => return []
    | some rs => return rs ++ (← redirections fuel)

/-- A command with the redirections that come next. -/
def withRedirections (line : Nat) (body : Script) : Parser Script := do
  match ← redirections (← steps) with
  | [] => return body
  | rs => return .redirected line body rs

/-- The names of commands whose arguments may be assignments. -/
def declaring : List Text :=
  ["declare", "typeset", "local", "export", "readonly", "alias"].map String.toList

/-- The next word may be an assignment, after words of which the first one may invite some. -/
def mayAssign (words : List Word) : Bool :=
  match words with
  | [] => true
  | [.plain name] :: _ => declaring.contains name
  | _ => false

/-- What begins like a simple command. -/
inductive Beginning where
  /-- It is one. -/
  | command (script : Script)
  /-- It is the definition of a function, whose name and opening bracket have been passed. -/
  | function (name : Word)

/-- How the token that comes next is written. -/
def written : Parser Text := do
  let before := (← get).reading
  let (_, after) ← look
  return (before.after (Token.skipBlanks before.text)).upTo after

/-- What comes after the beginning of a simple command, of which `shown` tells how it is written. -/
def simpleAfter (line : Nat) (assignments : List Assignment) (words : List Word)
    (rs : List Redirection) (shown : List Text) : Nat → Parser Beginning
  | 0 => return .command (.simple line assignments words rs shown)
  | fuel + 1 => do
    if ¬ mayAssign words then
      modify fun s => { s with reading := { s.reading with assigns := false } }
    let language := (← get).reading.manner.language
    substituteAliases words.isEmpty ((← get).reading.aliases.length + 1)
    match ← peek, assignments, words, rs with
    | .word w, _, _, _ =>
      let shown ← if language = .extended then do pure (shown ++ [← written]) else pure []
      advance
      match if words.isEmpty then assignment? language w else none with
      | some assignment => simpleAfter line (assignments ++ [assignment]) words rs shown fuel
      | none => simpleAfter line assignments (words ++ [w]) rs shown fuel
    | .mark ['('], [], [name], [] =>
      advance
      return .function name
    | _, _, _, _ =>
      match ← redirection? with
      | some more => simpleAfter line assignments words (rs ++ more) shown fuel
      | none =>
        if assignments.isEmpty && words.isEmpty && rs.isEmpty then unexpected none
        else return .command (.simple line assignments words rs shown)

/-- The names that no function may have. -/
def reservedNames : List Text :=
  [".", ":", "break", "continue", "eval", "exec", "exit", "export", "readonly", "return",
    "set", "local", "shift", "times", "trap", "unset"].map String.toList

/-- The name of a function that a word is, if it may be one. -/
def functionName? (language : Language) : Word → Option Text
  | [.plain t] =>
    if language = .extended ∨ (isName t ∧ t ∉ reservedNames) then some t else none
  | _ => none

/-- The words up to the end of a line or a semicolon, which is passed. -/
def wordsToEnd : Nat → Parser (List Word)
  | 0 => return []
  | fuel + 1 => do
    match ← peek with
    | .word w =>
      advance
      return w :: (← wordsToEnd fuel)
    | .newline => do advance; return []
    | .mark [';'] => do advance; return []
    | _ => unexpected none

/-- The patterns before an arm of a selection, and the bracket after them. -/
def patterns : Nat → Parser (List Word)
  | 0 => unexpected none
  | fuel + 1 => do
    match ← peek with
    | .word w =>
      advance
      if (← mark?) = some "|" then
        advance
        return w :: (← patterns fuel)
      else
        expectBracket
        return [w]
    | .ended => expectBracket; return []
    | .fault _ => unexpected none
    | _ =>
      advance
      expectBracket
      return []

/-- How an arm goes on that a mark ends. -/
def armEnding? : Option String → Option ArmEnding
  | some ";;" => some .leaves
  | some ";&" => some .falls
  | some ";;&" => some .tries
  | _ => none

/-- An arithmetic expression in double brackets, of which the first one has been passed; nothing if
the brackets belong to commands. -/
def calculation? : Parser (Option Script) := do
  let r := (← get).reading
  if ¬ r.isExtended then return none
  match r.text with
  | '(' :: rest =>
    match Token.wordParts (← read) (.brackets 0) (r.after rest) with
    | .ok (w, after) =>
      set (⟨after, none⟩ : State)
      return some (.calculate r.line w)
    | .error _ => return none
  | _ => return none

/-- The three expressions of a loop that counts, if they come next. -/
def counter? : Parser (Option (Nat × Word × Word × Word)) := do
  if (← mark?) ≠ some "(" ∨ ¬ (← isExtended) then return none
  let (_, r) ← look
  match r.text with
  | '(' :: rest =>
    let script ← read
    let (first, after) ← Token.wordParts script (.clause 0) (r.after rest)
    let (condition, after) ← Token.wordParts script (.clause 0) (after.after after.text.tail)
    let (next, after) ← Token.wordParts script (.clause 0) (after.after after.text.tail)
    set (⟨after.after (after.text.drop 2), none⟩ : State)
    return some (r.line, first, condition, next)
  | _ => return none

mutual

/-- The commands of a list, at least one unless `mayBeEmpty`.  Where the tokens end, what comes
after the list is missed and not the list. -/
def list (fuel : Nat) (mayBeEmpty : Bool) : Parser Script := do
  match fuel with
  | 0 => unexpected none
  | fuel + 1 =>
    skipNewlines
    beginCommand
    match ← peek with
    | .ended => return .skip
    | _ => pure ()
    if mayBeEmpty && (← listEnds) then return .skip
    let first ← andOr fuel
    match ← peek with
    | .mark [';'] => do advance; return .inOrder [first, ← list fuel true]
    | .mark ['&'] => do advance; return .inOrder [.background first, ← list fuel true]
    | .newline => do advance; return .inOrder [first, ← list fuel true]
    | _ => return first
termination_by structural fuel

/-- Pipelines joined by `&&` and `||`. -/
def andOr (fuel : Nat) : Parser Script := do
  match fuel with
  | 0 => unexpected none
  | fuel + 1 => andOrAfter fuel (← pipeline fuel)
termination_by structural fuel

/-- What is joined to a pipeline by `&&` and `||`. -/
def andOrAfter (fuel : Nat) (first : Script) : Parser Script := do
  match fuel with
  | 0 => return first
  | fuel + 1 =>
    match ← mark? with
    | some "&&" =>
      advance
      skipNewlines
      andOrAfter fuel (.andThen first (← pipeline fuel))
    | some "||" =>
      advance
      skipNewlines
      andOrAfter fuel (.orElse first (← pipeline fuel))
    | _ => return first
termination_by structural fuel

/-- A pipeline, possibly negated. -/
def pipeline (fuel : Nat) : Parser Script := do
  match fuel with
  | 0 => unexpected none
  | fuel + 1 =>
    beginCommand
    let negates := (← keyword?) = some "!"
    if negates then advance
    let isTimed := (← keyword?) = some "time"
    if isTimed then
      advance
      let isPlain := bare? (← peek) = some ['-', 'p']
      if isPlain then advance
      return .timed isPlain (← pipeline fuel)
    let script ← match ← stages fuel with
      | [stage] => pure stage
      | several => pure (.pipeline several)
    return if negates then .negated script else script
termination_by structural fuel

/-- The commands of a pipeline. -/
def stages (fuel : Nat) : Parser (List Script) := do
  match fuel with
  | 0 => unexpected none
  | fuel + 1 =>
    beginCommand
    let line ← currentLine
    let first ← command fuel
    match ← mark? with
    | some "|" =>
      advance
      skipNewlines
      return first :: (← stages fuel)
    | some "|&" =>
      advance
      skipNewlines
      return .redirected line first [⟨2, .duplicate, [.plain ['1']]⟩] :: (← stages fuel)
    | _ => return [first]
termination_by structural fuel

/-- One command with its redirections. -/
def command (fuel : Nat) : Parser Script := do
  match fuel with
  | 0 => unexpected none
  | fuel + 1 =>
    let line ← currentLine
    if (← keyword?).isSome || (← mark?) = some "(" then
      withRedirections line (← compound fuel)
    else
      match ← simpleAfter line [] [] [] [] (← steps) with
      | .command script => return script
      | .function name =>
        expectBracket
        match functionName? (← get).reading.manner.language name with
        | none => throw ⟨← currentLine, .badFunctionName⟩
        | some name =>
          skipNewlines
          beginCommand
          if ← isExtended then return .define name (← functionBody fuel)
          else return .define name (← command fuel)
termination_by structural fuel

/-- The body of a function in the extended language, with its redirections. -/
def functionBody (fuel : Nat) : Parser Script := do
  match fuel with
  | 0 => unexpected none
  | fuel + 1 =>
    let line ← currentLine
    skipNewlines
    if (← keyword?).isSome || (← mark?) = some "(" then
      withRedirections line (← compound fuel)
    else unexpected none
termination_by structural fuel

/-- A command that begins with a keyword or a bracket. -/
def compound (fuel : Nat) : Parser Script := do
  match fuel with
  | 0 => unexpected none
  | fuel + 1 =>
    match ← mark?, ← keyword? with
    | some "(", _ =>
      advance
      match ← calculation? with
      | some script => return script
      | none =>
        let body ← list fuel false
        expectMark ")"
        return .subshell body
    | _, some "[[" =>
      advance
      let r := (← get).reading
      let (condition, after) ← (Checks.whole.run (← read)).run r
      set (⟨after, none⟩ : State)
      return .check r.line condition
    | _, some "function" =>
      advance
      match ← peek with
      | .word [.plain name] =>
        advance
        if (← mark?) = some "(" then
          advance
          expectMark ")"
        return .define name (← functionBody fuel)
      | _ => unexpected none
    | _, some "select" => do advance; each fuel true
    | _, some "\x7b" =>
      advance
      let body ← list fuel false
      expectKeyword "\x7d"
      return body
    | _, some "if" => do advance; conditional fuel
    | _, some "while" =>
      advance
      let condition ← list fuel false
      return .loop false condition (← loopBody fuel)
    | _, some "until" =>
      advance
      let condition ← list fuel false
      return .loop true condition (← loopBody fuel)
    | _, some "for" =>
      advance
      match ← counter? with
      | some (line, first, condition, next) =>
        if (← mark?) = some ";" then advance
        return .count line first condition next (← loopBody fuel)
      | none => each fuel false
    | _, some "case" => do advance; selection fuel
    | _, _ => unexpected none
termination_by structural fuel

/-- The rest of a conditional after `if` or `elif`. -/
def conditional (fuel : Nat) : Parser Script := do
  match fuel with
  | 0 => unexpected none
  | fuel + 1 =>
    let condition ← list fuel false
    expectKeyword "then"
    let consequence ← list fuel false
    match ← keyword? with
    | some "elif" =>
      advance
      return .choose condition consequence (← conditional fuel)
    | some "else" =>
      advance
      let alternative ← list fuel false
      expectKeyword "fi"
      return .choose condition consequence alternative
    | _ =>
      expectKeyword "fi"
      return .choose condition consequence .skip
termination_by structural fuel

/-- The rest of a loop over words, or over choices from a menu. -/
def each (fuel : Nat) (isOffer : Bool) : Parser Script := do
  match fuel with
  | 0 => unexpected none
  | fuel + 1 =>
    let language := (← get).reading.manner.language
    match (bare? (← peek)).filter fun t => isName t || language = .extended with
    | none =>
      if (← peek) matches .fault _ then unexpected none
      else if language = .extended then unexpected none
      else throw ⟨← currentLine, .badLoopVariable⟩
    | some name =>
      advance
      if language = .extended ∧ (← mark?) = some ";" then advance
      skipNewlines
      let words ←
        if (← keyword?) = some "in" then do
          advance
          pure (some (← wordsToEnd (← steps)))
        else do
          if (← mark?) = some ";" then advance
          pure none
      let body ← loopBody fuel
      return if isOffer then .offer name words body else .each name words body
termination_by structural fuel

/-- The body of a loop. -/
def loopBody (fuel : Nat) : Parser Script := do
  match fuel with
  | 0 => unexpected none
  | fuel + 1 =>
    skipNewlines
    if (← isExtended) && (← keyword?) = some "\x7b" then
      advance
      let body ← list fuel false
      expectKeyword "\x7d"
      return body
    expectKeyword "do"
    let body ← list fuel false
    expectKeyword "done"
    return body
termination_by structural fuel

/-- The rest of a selection. -/
def selection (fuel : Nat) : Parser Script := do
  match fuel with
  | 0 => unexpected none
  | fuel + 1 =>
    match ← peek with
    | .word subject =>
      advance
      skipNewlines
      expectKeyword "in"
      return .select subject (← arms fuel)
    | _ => unexpected (some "word".toList)
termination_by structural fuel

/-- The arms of a selection and the keyword that ends it. -/
def arms (fuel : Nat) : Parser (List (List Word × Script × ArmEnding)) := do
  match fuel with
  | 0 => unexpected none
  | fuel + 1 =>
    skipNewlines
    if (← keyword?) = some "esac" then
      advance
      return []
    if (← mark?) = some "(" then advance
    let ws ← patterns (← steps)
    let body ← list fuel true
    match armEnding? (← mark?) with
    | some ending =>
      advance
      return (ws, body, ending) :: (← arms fuel)
    | none =>
      skipNewlines
      if (← peek) matches .ended then unexpected (some "\";;\"".toList)
      expectKeyword "esac"
      return [(ws, body, .leaves)]
termination_by structural fuel

end

/-- A script within a word.  A closing bracket, which belongs to it if `closed` says so, has to
follow its commands; without one the commands are all that counts, unless a fault follows them. -/
def enclosed (closed : Bool) : Parser Script := do
  let script ← list (← steps) true
  if closed then
    match ← look with
    | (.ended, r) =>
      if r.isExtended then throw ⟨r.last, .unclosed [')']⟩ else expectMark ")"
    | _ => expectMark ")"
  else if (← peek) matches .fault _ then unexpected none
  return script

/-- Reads scripts within words, which may be nested as deep as given. -/
def within : Nat → ScriptReader
  | 0, _, r => .error ⟨r.line, .unexpected "end of file".toList (some "\")\"".toList)⟩
  | depth + 1, closed, r => do
    let (script, s) ← ((enclosed closed).run (within depth)).run ⟨r, none⟩
    return (script, s.reading)

/-- The word that a text is in which nothing but expansions is special. -/
def expandable (manner : Manner) (t : Text) : Except LocatedFault Word := do
  return (← Token.wordParts (within t.length) .never (.ofText manner 1 t)).1

/-- The commands of a line, from its first command on. -/
def lineFrom : Nat → Parser (List Script)
  | 0 => return []
  | fuel + 1 => do
    beginCommand
    match ← peek with
    | .newline => do advance; return []
    | .ended => return []
    | _ =>
      let script ← andOr (← steps)
      match ← peek with
      | .mark [';'] => do advance; return script :: (← lineFrom fuel)
      | .mark ['&'] => do advance; return .background script :: (← lineFrom fuel)
      | .newline => do advance; return [script]
      | .ended => return [script]
      | _ => unexpected none

/-- The commands of the next line, or nothing if all tokens have been read. -/
def line? : Parser (Option Script) := do
  skipNewlines
  match ← peek with
  | .ended => return none
  | _ => return some (.inOrder (← lineFrom (← steps)))

/-- The commands of the next line of a text, and what is left after it; nothing if all of it has
been read. -/
def nextLine? (r : Reading) : Except LocatedFault (Option (Script × Reading)) := do
  let (script, s) ← (line?.run (within r.text.length)).run ⟨r, none⟩
  return script.map (·, s.reading)

end Grammar

end LineShell.Sh
