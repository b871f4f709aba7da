import LineShell.Computer.Sh.Token

/-!
# Conditions in double brackets

The extended language has conditions of its own.  They are read here, up to the bracket that ends
them; the words in them are neither split nor matched against file names, and the operators between
them are marks of the language.
-/

namespace LineShell.Sh.Checks

/-- What stands in a condition. -/
inductive Symbol where
  | word (w : Word) (shown : Text)
  | both
  | either
  | opening
  | closing
  | less
  | greater
  /-- The bracket that ends the condition. -/
  | last
  | newline
  | ended
  /-- Something that cannot stand there. -/
  | other (shown : Text)

/-- How a symbol is named. -/
def Symbol.shown : Symbol → Text
  | .word _ shown => shown
  | .both => "&&".toList
  | .either => "||".toList
  | .opening => ['(']
  | .closing => [')']
  | .less => ['<']
  | .greater => ['>']
  | .last => "]]".toList
  | .newline => "newline".toList
  | .ended => "newline".toList
  | .other shown => shown

/-- Something that takes symbols from the front of what is left. -/
abbrev Reader := ReaderT ScriptReader (StateT Reading (Except LocatedFault))

/-- The symbol that comes next, and what is left after it. -/
def look : Reader (Symbol × Reading) := do
  let r ← get
  let r := r.after (Token.skipBlanks r.text)
  let passed (symbol : Symbol) (n : Nat) : Symbol × Reading := (symbol, r.after (r.text.drop n))
  match r.text with
  | [] => return (.ended, r)
  | '\n' :: _ => return passed .newline 1
  | '&' :: '&' :: _ => return passed .both 2
  | '|' :: '|' :: _ => return passed .either 2
  | '(' :: _ => return passed .opening 1
  | ')' :: _ => return passed .closing 1
  | '<' :: _ => return passed .less 1
  | '>' :: _ => return passed .greater 1
  | c :: _ =>
    if Token.isSeparator c then return passed (.other [c]) 1
    let grouped := { r with manner := { r.manner with groups := true } }
    let (w, after) ← Token.wordParts (← read) .separator grouped
    let after := { after with manner := r.manner }
    match w with
    | [.plain [']', ']']] => return (.last, after)
    | w => return (.word w (r.upTo after), after)

/-- Passes the symbol that comes next. -/
def take : Reader Symbol := do
  let (symbol, after) ← look
  set after
  return symbol

/-- Passes newlines, at most as many as given. -/
def skipNewlines : Nat → Reader Unit
  | 0 => pure ()
  | fuel + 1 => do
    match ← look with
    | (.newline, after) =>
      set after
      skipNewlines fuel
    | _ => pure ()

/-- Fails, with something to tell about what has been found and the symbol near which it was. -/
def fail {α : Type} (messages : List Text) (near : Symbol) : Reader α := do
  throw ⟨(← get).line, .unexpectedWithin messages near.shown⟩

/-- The letters of questions. -/
def questions : Text := "abcdefghknoprstuvwxzGLNORS".toList

/-- A word asks a question about the word after it. -/
def question? : Word → Option Text
  | [.plain ['-', c]] => if questions.contains c then some ['-', c] else none
  | _ => none

/-- The words that compare others. -/
def comparisons : List Text :=
  ["=", "==", "!=", "-nt", "-ot", "-ef", "-eq", "-ne", "-lt", "-le", "-gt", "-ge", "=~"].map
    String.toList

/-- The comparison that a symbol is. -/
def comparison? : Symbol → Option Text
  | .less => some ['<']
  | .greater => some ['>']
  | .word [.plain t] _ => if comparisons.contains t then some t else none
  | _ => none

/-- The word on the right of a comparison. -/
def operand (op : Text) : Reader Word := do
  if op = "=~".toList then
    let r ← get
    let r := r.after (Token.skipBlanks r.text)
    if !(")\n".toList.contains (r.text.headD '\n')) then
      let (w, after) ← Token.wordParts (← read) (.expression 0) r
      if (r.upTo after) ≠ "]]".toList then
        set after
        return w
  match ← look with
  | (.word w _, after) =>
    set after
    return w
  | (symbol, _) =>
    fail ["unexpected argument \x60".toList ++ symbol.shown ++
      "' to conditional binary operator".toList] symbol

mutual

/-- Conditions of which one has to hold. -/
def either (fuel : Nat) : Reader Check := do
  match fuel with
  | 0 => fail [] .ended
  | fuel + 1 =>
    let first ← both fuel
    match ← look with
    | (.either, after) =>
      set after
      return .either first (← either fuel)
    | _ => return first
termination_by structural fuel

/-- Conditions that all have to hold. -/
def both (fuel : Nat) : Reader Check := do
  match fuel with
  | 0 => fail [] .ended
  | fuel + 1 =>
    let first ← single fuel
    skipNewlines (fuel + 1)
    match ← look with
    | (.both, after) =>
      set after
      return .both first (← both fuel)
    | _ => return first
termination_by structural fuel

/-- One condition. -/
def single (fuel : Nat) : Reader Check := do
  match fuel with
  | 0 => fail [] .ended
  | fuel + 1 =>
    skipNewlines (fuel + 1)
    match ← take with
    | .opening =>
      let inside ← either fuel
      match ← take with
      | .closing => return inside
      | .ended => fail ["unexpected EOF while looking for \x60)'".toList] .ended
      | symbol => fail ["unexpected token \x60".toList ++ symbol.shown ++
          "', expected \x60)'".toList] symbol
    | .word [.plain ['!']] _ => return .denied (← single fuel)
    | .word w shown =>
      let (next, after) ← look
      match question? w, comparison? next with
      | some op, _ =>
        match next with
        | .word operand _ =>
          set after
          return .question op operand
        | symbol =>
          fail ["unexpected argument \x60".toList ++ symbol.shown ++
            "' to conditional unary operator".toList] symbol
      | none, some op =>
        set after
        return .comparison op w (← operand op)
      | none, none =>
        match next with
        | .both => return .question "-n".toList w
        | .either => return .question "-n".toList w
        | .closing => return .question "-n".toList w
        | .last => return .question "-n".toList w
        | .word .. => fail ["conditional binary operator expected".toList] next
        | .newline =>
          fail ["unexpected token \x60newline', conditional binary operator expected".toList]
            (.word w shown)
        | .ended =>
          fail ["unexpected token \x60newline', conditional binary operator expected".toList]
            (.word w shown)
        | symbol =>
          fail ["unexpected token \x60".toList ++ symbol.shown ++
            "', conditional binary operator expected".toList] symbol
    | symbol => fail [] symbol
termination_by structural fuel

end

/-- A condition with the bracket that ends it. -/
def whole : Reader Check := do
  let size := (← get).text.length
  let found ← either (4 * size + 4)
  skipNewlines size
  match ← take with
  | .last => return found
  | .ended => fail ["syntax error in conditional expression".toList] .ended
  | symbol => fail ["syntax error in conditional expression".toList] symbol

end LineShell.Sh.Checks
