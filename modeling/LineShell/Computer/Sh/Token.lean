import LineShell.Computer.Sh.Quotation
import LineShell.Computer.Sh.Script

/-!
# Tokens of the command language

A script is read in tokens: words, marks such as `&&`, redirections, and newlines.  Tokens are taken
one at a time from a `Reading`, which is what is left of the text.  Quoting decides where a word
ends, so words are taken apart here; a script within a word is read by the grammar in turn, which is
a parameter here.  A fault is a token as well: what stands before it on earlier lines is still
carried out.

The extended language has more marks, more quotation marks and more that may stand after a dollar
sign.  Where it agrees with the common one the same functions read both.
-/

namespace LineShell.Sh

/-- An alias whose text is being read. -/
structure Substituted where
  name : Text
  /-- How much of the text is left after the text of the alias. -/
  left : Nat
  /-- The text of the alias ends with a blank, so that the word after it may be an alias too. -/
  opensNext : Bool
deriving Repr

/-- How a script is read. -/
structure Manner where
  language : Language
  /-- The words that stand for other texts. -/
  aliases : List (Text × Text)
  /-- Patterns may have groups. -/
  groups : Bool
deriving Repr

/-- The manner in which the common language is read where no words stand for others. -/
def Manner.plain : Manner := ⟨.common, [], false⟩

/-- What is left to read of a script. -/
structure Reading where
  text : Text
  /-- The line on which the text ends. -/
  last : Nat
  /-- The places where lines were taken out of the text: how much of it is left there, and how many
  lines they were. -/
  takenOut : List (Nat × Nat)
  manner : Manner
  /-- The aliases whose texts are being read. -/
  within : List Substituted
  /-- The next word may be the assignment of a list. -/
  assigns : Bool
  /-- What is told while the text is read, last line first, with the lines where it is found. -/
  warnings : List (Nat × Text)
deriving Repr

namespace Reading

/-- The reading of a whole text that begins on a line. -/
def ofText (manner : Manner) (line : Nat) (t : Text) : Reading :=
  ⟨t, line + t.count '\n', [], manner, [], true, []⟩

/-- The text is in the extended language. -/
def isExtended (r : Reading) : Bool :=
  r.manner.language = .extended

/-- The words that stand for other texts. -/
def aliases (r : Reading) : List (Text × Text) :=
  r.manner.aliases

/-- The line that has been reached. -/
def line (r : Reading) : Nat :=
  let ahead := r.takenOut.foldl (fun n (place, lines) =>
    if place < r.text.length then n + lines else n) 0
  r.last - r.text.count '\n' - ahead

/-- The reading with only this text left. -/
def after (r : Reading) (t : Text) : Reading :=
  { r with text := t }

/-- A fault that is found at the end of the text. -/
def failAtEnd {α : Type} (r : Reading) (f : SyntaxFault) : Except LocatedFault α :=
  .error ⟨r.last, f⟩

/-- A fault of something that is never closed.  In the common language it is found at the end of the
text; in the extended one it is told by what is missing, with the line of its beginning, which is
added where that is known. -/
def failOpen {α : Type} (r : Reading) (f : SyntaxFault) (closing : Char) :
    Except LocatedFault α :=
  if r.isExtended then .error ⟨0, .unclosed [closing]⟩ else r.failAtEnd f

/-- A result of reading what begins here, with the line of the beginning in a fault that misses one.
-/
def opening {α : Type} (r : Reading) : Except LocatedFault α → Except LocatedFault α
  | .error f => .error (if f.line = 0 then { f with line := r.line } else f)
  | result => result

/-- What of the text is no longer left in a later reading. -/
def upTo (r later : Reading) : Text :=
  r.text.take (r.text.length - later.text.length)

/-- The reading, which stands behind the name of an alias, with the text of the alias in front. -/
def substitute (r : Reading) (name value : Text) : Reading :=
  let opensNext := value.getLast?.any fun c => c = ' ' || c = '\t'
  { r with
    text := value ++ r.text
    last := r.last + value.count '\n'
    within := ⟨name, r.text.length, opensNext⟩ :: r.within }

/-- The reading with some of the text taken out behind the place where `left` is what is left of the
text. -/
def takeOut (r : Reading) (before removed left : Text) : Reading :=
  let cut (n : Nat) : Nat := n - removed.length
  { r with
    text := before ++ left
    takenOut := (left.length, removed.count '\n') ::
      r.takenOut.map fun (place, lines) => (cut place, lines)
    within := r.within.map fun entry => { entry with left := cut entry.left } }

end Reading

/-- What reads a script within a word, up to a closing bracket if it is `closed` by one, else to the
end of the text. -/
abbrev ScriptReader := (closed : Bool) → Reading → Except LocatedFault (Script × Reading)

/-- A token. -/
inductive Token where
  | word (word : Word)
  | mark (text : Text)
  /-- A redirection, whose target is the word that follows. -/
  | redirect (descriptor : Nat) (connection : Connection)
  /-- A redirection of the outputs and of the errors to the file that the next word names. -/
  | redirectBoth (connection : Connection)
  /-- A redirection to the text of the next word and a newline. -/
  | line (descriptor : Nat)
  /-- A redirection to a text that begins on the next line. -/
  | document (descriptor : Nat) (body : Word)
  | newline
  | ended
  | fault (f : LocatedFault)

namespace Token

/-- Characters that separate words when they stand outside quotes. -/
def isSeparator (c : Char) : Bool :=
  c ∈ [' ', '\t', '\n', ';', '&', '|', '<', '>', '(', ')']

/-- Characters of a name. -/
def isNameChar (c : Char) : Bool :=
  c.isAlphanum || c = '_'

/-- A word with one more part before it.  Neighbouring texts of one kind are one part. -/
def addPart : Part → Word → Word
  | .plain s, .plain t :: w => .plain (s ++ t) :: w
  | .quoted s, .quoted t :: w => .quoted (s ++ t) :: w
  | part, w => part :: w

/-- The text up to the next backquote and the text after it. -/
def backquoted (inQuotes : Bool) : Text → Option (Text × Text)
  | [] => none
  | '\x60' :: t => some ([], t)
  | '\\' :: c :: t =>
    let kept := if c ∈ ['\\', '\x60', '$'] ∨ (inQuotes ∧ c = '"') then [c] else ['\\', c]
    (backquoted inQuotes t).map fun r => (kept ++ r.1, r.2)
  | c :: t => (backquoted inQuotes t).map fun r => (c :: r.1, r.2)

/-- The name of a parameter at the beginning of a text, and the text after it. -/
def parameterName (braced : Bool) (t : Text) : Text × Text :=
  match t with
  | [] => ([], [])
  | c :: rest =>
    if c.isDigit then
      if braced then (t.takeWhile Char.isDigit, t.dropWhile Char.isDigit) else ([c], rest)
    else if isNameChar c then (t.takeWhile isNameChar, t.dropWhile isNameChar)
    else if c ∈ ['@', '*', '#', '?', '-', '$', '!'] then ([c], rest)
    else ([], t)

/-- The adjustment at the beginning of a text, and the text after it. -/
def adjustment? : Text → Option (Adjustment × Text)
  | ':' :: '-' :: t => some (.otherwise true, t)
  | ':' :: '=' :: t => some (.assigned true, t)
  | ':' :: '?' :: t => some (.demanded true, t)
  | ':' :: '+' :: t => some (.instead true, t)
  | '-' :: t => some (.otherwise false, t)
  | '=' :: t => some (.assigned false, t)
  | '?' :: t => some (.demanded false, t)
  | '+' :: t => some (.instead false, t)
  | '%' :: '%' :: t => some (.withoutBack true, t)
  | '%' :: t => some (.withoutBack false, t)
  | '#' :: '#' :: t => some (.withoutFront true, t)
  | '#' :: t => some (.withoutFront false, t)
  | _ => none

/-- What ends the parts that are read. -/
inductive Ending where
  /-- A separator, which is left. -/
  | separator
  /-- A quotation mark. -/
  | quote
  /-- A closing brace. -/
  | brace (inQuotes : Bool)
  /-- Two closing brackets, where some others are open. -/
  | brackets (depth : Nat)
  /-- The end of the text. -/
  | never
  /-- The closing bracket of a group in a pattern, where some others are open. -/
  | group (depth : Nat)
  /-- A closing square bracket, where some others are open. -/
  | square (depth : Nat)
  /-- A colon or a closing brace, which is left, where some brackets and questions are open. -/
  | term (depth questions : Nat)
  /-- A slash or a closing brace, which is left. -/
  | slash
  /-- A semicolon or the end of a bracket, which is left, where some brackets are open. -/
  | clause (depth : Nat)
  /-- A blank outside brackets, which is left. -/
  | expression (depth : Nat)
deriving DecidableEq

namespace Ending

/-- The parts stand in quotes. -/
def inQuotes : Ending → Bool
  | .brace q => q
  | .quote => true
  | .brackets _ => true
  | .clause _ => true
  | .never => true
  | _ => false

/-- A quotation mark has its meaning. -/
def quotes (language : Language) : Ending → Bool
  | .brackets _ => language = .extended
  | .never => false
  | _ => true

/-- A pattern may stand here, with groups in it. -/
def hasGroups : Ending → Bool
  | .separator => true
  | .brace q => !q
  | .group _ => true
  | .slash => true
  | _ => false

/-- What becomes of parts that the end of the text cuts off. -/
def atEnd (r : Reading) : Ending → Except LocatedFault (Word × Reading)
  | .separator => .ok ([], r)
  | .quote => r.failOpen .unterminatedQuote '"'
  | .brace inQuotes =>
    r.failOpen (if inQuotes then .unterminatedQuote else .missingBrace) '\x7d'
  | .brackets _ => r.failOpen .missingBrackets ')'
  | .never => .ok ([], r)
  | .group _ => r.failOpen .missingBrackets ')'
  | .square _ => r.failOpen .missingBrackets ']'
  | .term .. => r.failOpen .missingBrace '\x7d'
  | .slash => r.failOpen .missingBrace '\x7d'
  | .clause _ => .ok ([], r)
  | .expression _ => .ok ([], r)

/-- Whether a text begins with the end of the parts, and what is then left of it. -/
def endsAt? (ending : Ending) (t : Text) : Option Text :=
  match ending, t with
  | .separator, c :: _ => if isSeparator c then some t else none
  | .quote, '"' :: rest => some rest
  | .brace _, '\x7d' :: rest => some rest
  | .brackets 0, ')' :: ')' :: rest => some rest
  | .group 0, ')' :: rest => some rest
  | .square 0, ']' :: rest => some rest
  | .term 0 0, ':' :: _ => some t
  | .term .., '\x7d' :: _ => some t
  | .slash, c :: _ => if c = '/' ∨ c = '\x7d' then some t else none
  | .clause depth, c :: _ => if c = ';' ∨ (depth = 0 ∧ c = ')') then some t else none
  | .expression 0, c :: _ => if c = ' ' ∨ c = '\t' ∨ c = '\n' then some t else none
  | _, _ => none

/-- What ends the parts after one more character. -/
def past : Ending → Char → Ending
  | .brackets depth, '(' => .brackets (depth + 1)
  | .brackets depth, ')' => .brackets (depth - 1)
  | .group depth, '(' => .group (depth + 1)
  | .group depth, ')' => .group (depth - 1)
  | .square depth, '[' => .square (depth + 1)
  | .square depth, ']' => .square (depth - 1)
  | .term depth questions, c =>
    if c = '(' then .term (depth + 1) questions
    else if c = ')' then .term (depth - 1) questions
    else if c = '?' then .term depth (questions + 1)
    else if c = ':' ∧ depth = 0 then .term depth (questions - 1)
    else .term depth questions
  | .clause depth, '(' => .clause (depth + 1)
  | .clause depth, ')' => .clause (depth - 1)
  | .expression depth, '(' => .expression (depth + 1)
  | .expression depth, ')' => .expression (depth - 1)
  | ending, _ => ending

end Ending

/-- The sign at the beginning of a text asks for the length of a value: a name follows it, or a
single character before the closing brace.  Else it is a parameter itself. -/
def isCounted : Text → Bool
  | '#' :: c :: t => c = '_' || c.isAlphanum || (c ≠ '\x7d' && t.head? = some '\x7d')
  | _ => false

/-- The letters that say in which form a value is given. -/
def shapes : Text := "QEPAaUuLKk".toList

/-- A sign in front of a name says that its value is the name of what is meant. -/
def isIndirect : Text → Bool
  | '!' :: c :: t =>
    isNameChar c || ((c = '@' || c = '*' || c = '#' || c = '?') && t.head? = some '\x7d')
  | _ => false

/-- The sign at the beginning of a text asks for the length of a value, in the extended language. -/
def isCountedItem : Text → Bool
  | '#' :: c :: t => isNameChar c || (c ≠ '\x7d' && t.head? = some '\x7d')
  | _ => false

/-- How letters are to be altered, at the beginning of a text, and what follows it. -/
def casing? : Text → Option (Casing × Bool × Text)
  | '^' :: '^' :: t => some (.capital, true, t)
  | '^' :: t => some (.capital, false, t)
  | ',' :: ',' :: t => some (.small, true, t)
  | ',' :: t => some (.small, false, t)
  | '~' :: '~' :: t => some (.swapped, true, t)
  | '~' :: t => some (.swapped, false, t)
  | _ => none

/-- Where a pattern is to be replaced, at the beginning of a text, and what follows it. -/
def site : Text → Site × Text
  | '/' :: t => (.everywhere, t)
  | '#' :: t => (.front, t)
  | '%' :: t => (.back, t)
  | t => (.first, t)

/-- The part that a name in braces makes, with what is asked for. -/
def referred (name : Text) (subscript : Subscript) (indirect : Bool) (change : Alteration)
    (shown : Text) (inQuotes : Bool) : Part :=
  let isPlural := name = ['@'] || name = ['*']
  match subscript, indirect, change with
  | .none, false, .none => .value name inQuotes
  | .none, false, .count => .length name inQuotes
  | .none, false, .adjusted how w =>
    if isPlural then .reference name subscript indirect change shown inQuotes
    else .adjusted name how w inQuotes
  | .all joined, true, .none => .reference name (.all joined) false .places shown inQuotes
  | _, _, _ => .reference name subscript indirect change shown inQuotes

mutual

/-- The parts at the beginning of a text, and what is left after them. -/
def parts (script : ScriptReader) (fuel : Nat) (ending : Ending) (r : Reading) :
    Except LocatedFault (Word × Reading) :=
  match fuel, r.text with
  | 0, _ => .ok ([], r)
  | _, [] => ending.atEnd r
  | fuel + 1, c :: rest =>
    let inQuotes := ending.inQuotes
    let more (part : Part) (r : Reading) : Except LocatedFault (Word × Reading) := do
      let (w, r) ← parts script fuel (ending.past c) r
      return (addPart part w, r)
    let isPath := r.isExtended && (c = '<' || c = '>') && rest.head? = some '('
    match if isPath then none else ending.endsAt? (c :: rest) with
    | some left => .ok ([], r.after left)
    | none =>
      if c = '\\' then
        match rest with
        | [] => more (.plain ['\\']) (r.after [])
        | '\n' :: rest => parts script fuel ending (r.after rest)
        | c :: rest =>
          if ¬ inQuotes ∨ c ∈ ['$', '\x60', '\\'] ∨ (c = '"' ∧ ending ≠ .never) ∨
              (c = '\x7d' ∧ ending = .brace true) then
            more (.quoted [c]) (r.after rest)
          else more (.quoted ['\\']) (r.after (c :: rest))
      else if c = '\'' ∧ ¬ inQuotes then
        let inside := rest.takeWhile (· ≠ '\'')
        match rest.drop inside.length with
        | [] => r.opening (r.failOpen .unterminatedQuote '\'')
        | _ :: rest => more (.quoted inside) (r.after rest)
      else if c = '"' ∧ ending.quotes r.manner.language then do
        let (inside, r) ← r.opening (parts script fuel .quote (r.after rest))
        let (w, r) ← parts script fuel ending r
        return ((if inside.isEmpty then [.quoted []] else inside).foldr addPart w, r)
      else if c = '\x60' then
        match backquoted inQuotes rest with
        | none => r.opening (r.failOpen .openBackquote '\x60')
        | some (inside, rest) => do
          let (inner, _) ← script false (.ofText r.manner 1 inside)
          more (.captured inner inQuotes) (r.after rest)
      else if r.isExtended ∧ c = '$' ∧ (¬ inQuotes ∨ ending = .brace true) ∧
          rest.head? = some '\'' then
        match Quotation.ofEscaped rest.tail with
        | none => r.opening (r.failOpen .unterminatedQuote '\'')
        | some (inside, rest) => more (.quoted inside) (r.after rest)
      else if r.isExtended ∧ c = '$' ∧ ¬ inQuotes ∧ rest.head? = some '"' then
        parts script fuel ending (r.after rest)
      else if c = '$' then do
        let (part, r) ← expansion script fuel inQuotes (r.after rest)
        let (w, r) ← parts script fuel ending r
        return (addPart part w, r)
      else if isPath ∧ ending = .separator then do
        let (inner, r) ← script true (r.after rest.tail)
        more (.connection inner (c = '>')) r
      else if r.manner.groups ∧ ending.hasGroups ∧ ['?', '*', '+', '@', '!'].contains c ∧
          rest.head? = some '(' then do
        let (inside, r) ← r.opening (parts script fuel (.group 0) (r.after rest.tail))
        let (w, r) ← parts script fuel ending r
        return (addPart (.plain [c, '(']) (inside.foldr addPart (addPart (.plain [')']) w)), r)
      else if r.isExtended ∧ ending = .brackets 0 ∧ c = ')' then r.failOpen .missingBrackets ')'
      else more (if inQuotes then .quoted [c] else .plain [c]) (r.after rest)
termination_by structural fuel

/-- The part that a dollar sign begins, given what is left after the sign. -/
def expansion (script : ScriptReader) (fuel : Nat) (inQuotes : Bool) (r : Reading) :
    Except LocatedFault (Part × Reading) :=
  match fuel with
  | 0 => .ok (.plain ['$'], r)
  | fuel + 1 =>
    match r.text with
    | '(' :: '(' :: rest =>
      match parts script fuel (.brackets 0) (r.after rest) with
      | .ok (expression, r) => .ok (.arithmetic expression inQuotes, r)
      | .error f =>
        if r.isExtended then
          match script true (r.after ('(' :: rest)) with
          | .ok (inner, r) => .ok (.captured inner inQuotes, r)
          | .error _ => r.opening (.error f)
        else .error f
    | '(' :: rest => do
      let (inner, r) ← script true (r.after rest)
      return (.captured inner inQuotes, r)
    | '\x7b' :: rest =>
      if r.isExtended then r.opening (reference script fuel inQuotes (r.after rest))
      else braced script fuel inQuotes (r.after rest)
    | '[' :: rest =>
      if r.isExtended then do
        let (expression, r) ← r.opening (parts script fuel (.square 0) (r.after rest))
        return (.arithmetic expression inQuotes, r)
      else .ok (if inQuotes then .quoted ['$'] else .plain ['$'], r)
    | t =>
      match parameterName false t with
      | ([], _) => .ok (if inQuotes then .quoted ['$'] else .plain ['$'], r)
      | (name, rest) => .ok (.value name inQuotes, r.after rest)
termination_by structural fuel

/-- The part that a dollar sign and a brace begin, given what is left after the brace. -/
def braced (script : ScriptReader) (fuel : Nat) (inQuotes : Bool) (r : Reading) :
    Except LocatedFault (Part × Reading) :=
  match fuel with
  | 0 => r.failAtEnd .missingBrace
  | fuel + 1 =>
    let t := r.text
    let counted := isCounted t
    match parameterName true (if counted then t.tail else t) with
    | ([], rest) => senseless script fuel inQuotes true (r.after rest)
    | (name, '\x7d' :: rest) =>
      .ok (if counted then .length name inQuotes else .value name inQuotes, r.after rest)
    | (name, rest) =>
      match if counted then none else adjustment? rest with
      | none => senseless script fuel inQuotes (!counted) (r.after rest)
      | some (how, rest) => do
        let (w, r) ← parts script fuel (.brace (inQuotes && !how.cuts)) (r.after rest)
        return (.adjusted name how w inQuotes, r)
termination_by structural fuel

/-- A part that makes no sense, up to its closing brace.  In the place of an adjustment a newline is
passed without being counted as a line. -/
def senseless (script : ScriptReader) (fuel : Nat) (inQuotes inPlace : Bool) (r : Reading) :
    Except LocatedFault (Part × Reading) :=
  match fuel with
  | 0 => r.failAtEnd .missingBrace
  | fuel + 1 =>
    match parts script fuel (.brace inQuotes) r with
    | .ok (_, r) => .ok (.senseless [], r)
    | .error f =>
      let t := r.text
      let passed := inPlace ∧ (if t.head? = some ':' then t.tail else t).head? = some '\n'
      let isOpen := f.fault = .unterminatedQuote ∨ f.fault = .missingBrace
      .error (if passed ∧ isOpen then { f with line := f.line - 1 } else f)
termination_by structural fuel

/-- The part that a dollar sign and a brace begin in the extended language, given what is left after
the brace. -/
def reference (script : ScriptReader) (fuel : Nat) (inQuotes : Bool) (r : Reading) :
    Except LocatedFault (Part × Reading) :=
  match fuel with
  | 0 => r.failOpen .missingBrace '\x7d'
  | fuel + 1 => do
    let t := r.text
    let counted := isCountedItem t
    let indirect := !counted && isIndirect t
    let (name, rest) := parameterName true (if counted || indirect then t.tail else t)
    let (subscript, s) ← subscript script fuel name (r.after rest)
    let (change, s) ←
      if name = [] then pure (none, s)
      else if counted then
        match s.text with
        | '\x7d' :: rest => pure (some .count, s.after rest)
        | _ => pure (none, s)
      else alteration script fuel inQuotes indirect s
    match change with
    | some change => return (referred name subscript indirect change
        ("$\x7b".toList ++ r.upTo s) inQuotes, s)
    | none => do
      let (_, s) ← parts script fuel (.brace inQuotes) s
      return (.senseless ("$\x7b".toList ++ r.upTo s), s)
termination_by structural fuel

/-- What a name in braces says of the items of a list. -/
def subscript (script : ScriptReader) (fuel : Nat) (name : Text) (r : Reading) :
    Except LocatedFault (Subscript × Reading) :=
  match fuel with
  | 0 => .ok (.none, r)
  | fuel + 1 =>
    if (name.headD '0').isDigit ∨ ¬ name.all isNameChar then .ok (.none, r)
    else
      match r.text with
      | '[' :: '@' :: ']' :: rest => .ok (.all false, r.after rest)
      | '[' :: '*' :: ']' :: rest => .ok (.all true, r.after rest)
      | '[' :: rest => do
        let (index, r) ← parts script fuel (.square 0) (r.after rest)
        return (.item index, r)
      | _ => .ok (.none, r)
termination_by structural fuel

/-- How a value in braces is altered, up to the closing brace; nothing if that makes no sense. -/
def alteration (script : ScriptReader) (fuel : Nat) (inQuotes indirect : Bool) (r : Reading) :
    Except LocatedFault (Option Alteration × Reading) :=
  match fuel with
  | 0 => .ok (none, r)
  | fuel + 1 =>
    match adjustment? r.text, casing? r.text, r.text with
    | some (how, rest), _, _ => do
      let (w, r) ← parts script fuel (.brace (inQuotes && !how.cuts)) (r.after rest)
      return (some (.adjusted how w), r)
    | none, some (casing, everywhere, rest), _ => do
      let (w, r) ← parts script fuel (.brace false) (r.after rest)
      return (some (.recased casing everywhere w), r)
    | none, none, '\x7d' :: rest => .ok (some .none, r.after rest)
    | none, none, ':' :: rest => do
      let (start, r) ← parts script fuel (.term 0 0) (r.after rest)
      match r.text with
      | ':' :: rest =>
        let (size, r) ← parts script fuel (.brace false) (r.after rest)
        return (some (.slice start (some size)), r)
      | rest =>
        if start.isEmpty then return (none, r)
        else return (some (.slice start none), r.after rest.tail)
    | none, none, '/' :: rest => do
      let (site, rest) := site rest
      let (pattern, r) ← parts script fuel .slash (r.after rest)
      match r.text with
      | '/' :: rest =>
        let (w, r) ← parts script fuel (.brace false) (r.after rest)
        return (some (.replaced site pattern w), r)
      | rest => return (some (.replaced site pattern []), r.after rest.tail)
    | none, none, '@' :: '\x7d' :: rest =>
      .ok (if indirect then some (.names false) else none, r.after rest)
    | none, none, '*' :: '\x7d' :: rest =>
      .ok (if indirect then some (.names true) else none, r.after rest)
    | none, none, '@' :: c :: '\x7d' :: rest =>
      if shapes.contains c then .ok (some (.shaped c), r.after rest) else .ok (none, r)
    | none, none, _ => .ok (none, r)
termination_by structural fuel

end

/-- The parts at the beginning of what is left of a text. -/
def wordParts (script : ScriptReader) (ending : Ending) (r : Reading) :
    Except LocatedFault (Word × Reading) :=
  parts script (2 * r.text.length + 2) ending r

/-- The parts of a whole text, in which nothing but expansions is special.  No quotes are open in
it, so what is left open is a brace, and that is found at the end of the script, on the line
`last`. -/
def bodyParts (script : ScriptReader) (last : Nat) (r : Reading) : Except LocatedFault Word :=
  match wordParts script .never r with
  | .ok (w, _) => .ok w
  | .error f =>
    if f.fault = .unterminatedQuote ∨ f.fault = .missingBrace then
      .error ⟨last - (r.last - f.line), .missingBrace⟩
    else .error f

/-- The lines of a text up to the line that ends it, the text after that line, and whether there is
such a line. -/
def bodyLines (ending : Text) (stripped : Bool) : Nat → Text → Text × Text × Bool
  | 0, t => (t, [], false)
  | _, [] => ([], [], false)
  | fuel + 1, t =>
    let line := t.takeWhile (· ≠ '\n')
    let shown := if stripped then line.dropWhile (· = '\t') else line
    match t.drop line.length with
    | [] => if shown = ending then ([], [], true) else (shown, [], false)
    | _ :: rest =>
      if shown = ending then ([], rest, true)
      else
        let (body, rest, isEnded) := bodyLines ending stripped fuel rest
        (shown ++ '\n' :: body, rest, isEnded)

/-- The redirection at the beginning of a text: the descriptor it is about unless another one is
given, its connection, and the text after it. -/
def redirection? : Text → Option (Nat × Connection × Text)
  | '<' :: '<' :: t => some (0, .here, t)
  | '<' :: '&' :: t => some (0, .duplicate, t)
  | '<' :: '>' :: t => some (0, .both, t)
  | '<' :: t => some (0, .input, t)
  | '>' :: '&' :: t => some (1, .duplicate, t)
  | '>' :: '>' :: t => some (1, .append, t)
  | '>' :: '|' :: t => some (1, .outputAnyway, t)
  | '>' :: t => some (1, .output, t)
  | _ => none

/-- The redirection at the beginning of a text that only the extended language has, and the text
after it, given the descriptor that it is about. -/
def extendedRedirection? (descriptor : Option Nat) : Text → Option (Token × Text)
  | '<' :: '<' :: '<' :: t => some (.line (descriptor.getD 0), t)
  | '&' :: '>' :: '>' :: t =>
    if descriptor.isSome then none else some (.redirectBoth .append, t)
  | '&' :: '>' :: t => if descriptor.isSome then none else some (.redirectBoth .output, t)
  | '>' :: '&' :: t =>
    let c := t.headD ' '
    if descriptor.isSome ∨ c.isDigit ∨ ['-', ' ', '$', '\n', '"'].contains c then none
    else some (.redirectBoth .output, t)
  | _ => none

/-- The mark at the beginning of a text, and the text after it. -/
def mark? (language : Language) : Text → Option (Text × Text)
  | '&' :: '&' :: t => some ("&&".toList, t)
  | '|' :: '|' :: t => some ("||".toList, t)
  | ';' :: ';' :: '&' :: t =>
    if language = .extended then some (";;&".toList, t) else some (";;".toList, '&' :: t)
  | ';' :: ';' :: t => some (";;".toList, t)
  | ';' :: '&' :: t =>
    if language = .extended then some (";&".toList, t) else some ([';'], '&' :: t)
  | '|' :: '&' :: t =>
    if language = .extended then some ("|&".toList, t) else some (['|'], '&' :: t)
  | c :: t => if c ∈ [';', '&', '|', '(', ')'] then some ([c], t) else none
  | [] => none

/-- The text of a word that is only to be compared. -/
def bareText (w : Word) : Text :=
  w.flatMap fun
    | .plain t => t
    | .quoted t => t
    | .value name _ => '$' :: name
    | _ => []

/-- Some part of a word stands in quotes. -/
def isQuoted (w : Word) : Bool :=
  w.any fun
    | .quoted _ => true
    | _ => false

/-- Leaves out blanks, joined lines and a comment at the beginning of a text. -/
def skipBlanks : Text → Text
  | ' ' :: t => skipBlanks t
  | '\t' :: t => skipBlanks t
  | '\\' :: '\n' :: t => skipBlanks t
  | '#' :: t => t.dropWhile (· ≠ '\n')
  | t => t

/-- A name, a bracket and what stands in it, at the beginning of what is left of a text, if an
assignment follows. -/
def indexed? (script : ScriptReader) (r : Reading) : Option (Except LocatedFault (Word × Reading)) :=
  let name := r.text.takeWhile isNameChar
  match r.text.drop name.length with
  | '[' :: rest =>
    match wordParts script (.square 0) (r.after rest) with
    | .error f => if name.isEmpty then none else some (r.opening (.error f))
    | .ok (index, r) =>
      if r.text.head? = some '=' ∨ ['+', '='].isPrefixOf r.text then some do
        let (w, r) ← wordParts script .separator r
        return (addPart (.plain (name ++ ['['])) (index.foldr addPart (addPart (.plain [']']) w)), r)
      else none
  | _ => none

/-- A word in a list that is assigned, taken apart: a place in brackets, and its value. -/
def item (w : Word) : Item :=
  match w with
  | .plain ('[' :: t) :: rest =>
    match closed 0 (.plain t :: rest) with
    | some (index, .plain ('=' :: t) :: w) =>
      ⟨some index, false, if t.isEmpty then w else .plain t :: w⟩
    | some (index, .plain ('+' :: '=' :: t) :: w) =>
      ⟨some index, true, if t.isEmpty then w else .plain t :: w⟩
    | _ => ⟨none, false, w⟩
  | w => ⟨none, false, w⟩
where
  /-- The parts up to a closing square bracket, where some others are open, and those after it. -/
  closed (depth : Nat) : Word → Option (Word × Word)
    | [] => none
    | .plain t :: w =>
      match closedText depth [] t with
      | .ok (before, after) => some (addPart (.plain before) [], .plain after :: w)
      | .error depth => (closed depth w).map fun (before, after) => (.plain t :: before, after)
    | p :: w => (closed depth w).map fun (before, after) => (p :: before, after)
  /-- The text up to a closing square bracket and the text after it, or how many are open. -/
  closedText (depth : Nat) (reversed : Text) : Text → Except Nat (Text × Text)
    | [] => .error depth
    | c :: t =>
      if c = '[' then closedText (depth + 1) (c :: reversed) t
      else if c = ']' then
        if depth = 0 then .ok (reversed.reverse, t) else closedText (depth - 1) (c :: reversed) t
      else closedText depth (c :: reversed) t

/-- The items of a list that is assigned, up to the bracket that closes it. -/
def items (script : ScriptReader) : Nat → Reading → Except LocatedFault (List Item × Reading)
  | 0, r => .ok ([], r)
  | fuel + 1, r =>
    let t := skipBlanks r.text
    match t with
    | [] => r.failOpen .missingBrackets ')'
    | '\n' :: rest => items script fuel (r.after rest)
    | ')' :: rest => .ok ([], r.after rest)
    | c :: rest =>
      if isSeparator c ∧ ¬ (['<', '>'].contains c ∧ rest.head? = some '(') then
        let shown := ((mark? .extended t).map Prod.fst).getD [c]
        .error ⟨(r.after t).line, .unexpected shown none⟩
      else do
        let (w, r) ← match if c = '[' then indexed? script (r.after t) else none with
          | some result => result
          | none => wordParts script .separator (r.after t)
        let (more, r) ← items script fuel r
        return (item w :: more, r)

/-- The assignment of a list or of an item of one, at the beginning of what is left of a text. -/
def listAssignment? (script : ScriptReader) (r : Reading) :
    Option (Except LocatedFault (Word × Reading)) :=
  let name := r.text.takeWhile isNameChar
  if ¬ r.assigns ∨ name.isEmpty ∨ (name.headD '0').isDigit then none
  else
    let rest := r.text.drop name.length
    let adds := ['+', '=', '('].isPrefixOf rest
    if adds ∨ ['=', '('].isPrefixOf rest then some do
      let sign := if adds then ['+', '='] else ['=']
      let (values, r) ← r.opening (items script (rest.length + 1)
        (r.after (rest.drop (sign.length + 1))))
      return ([.plain (name ++ sign), .items values], r)
    else indexed? script r

/-- The token at the beginning of what is left of a text, and what is left after it.  For a text
that begins on the next line there is only the redirection, and the word that ends the text is
given as well. -/
def first (script : ScriptReader) (r : Reading) : Token × Option (Word × Bool) × Reading :=
  let t := skipBlanks r.text
  let number := t.takeWhile Char.isDigit
  let afterNumber := if number.length ≤ 1 ∨ r.isExtended then t.drop number.length else []
  let given := if number = [] then none else some (digitsValue number)
  match t with
  | [] => (.ended, none, r.after [])
  | '\n' :: rest => (.newline, none, r.after rest)
  | _ =>
    match if r.isExtended then extendedRedirection? given afterNumber else none with
    | some (token, rest) => (token, none, r.after rest)
    | none =>
      let isPath := r.isExtended && (['<', '('].isPrefixOf t || ['>', '('].isPrefixOf t)
      match if isPath then none else redirection? afterNumber with
      | some (descriptor, connection, rest) =>
        let descriptor := given.getD descriptor
        if connection = .here then
          let stripped := rest.head? = some '-'
          let target := skipBlanks (rest.drop (if stripped then 1 else 0))
          match wordParts script .separator (r.after target) with
          | .error f => (.fault f, none, r)
          | .ok ([], r) => (.redirect descriptor .here, none, r)
          | .ok (w, r) => (.redirect descriptor .here, some (w, stripped), r)
        else (.redirect descriptor connection, none, r.after rest)
      | none =>
        match mark? r.manner.language t with
        | some (m, rest) => (.mark m, none, r.after rest)
        | none =>
          let result :=
            match if r.isExtended then listAssignment? script (r.after t) else none with
            | some result => result
            | none => wordParts script .separator (r.after t)
          match result with
          | .error f => (.fault f, none, r)
          | .ok (w, r) => (.word w, none, r)

/-- What is left after the end of the line, if nothing is wrong on it. -/
def nextLine? (script : ScriptReader) : Nat → Reading → Option Reading
  | 0, _ => none
  | fuel + 1, r =>
    match first script r with
    | (.newline, _, r) => some r
    | (.ended, _, _) => none
    | (.fault _, _, _) => none
    | (_, _, r) => nextLine? script fuel r

/-- What is told in the extended language of a text that begins on a line and is never ended. -/
def endless (line : Nat) (ending : Text) : Text :=
  "warning: here-document at line ".toList ++ numeral line ++
    " delimited by end-of-file (wanted \x60".toList ++ ending ++ "')".toList

/-- The token at the beginning of what is left of a text, and what is left after it.  A text that
begins on the next line is taken out of the lines that are left. -/
def next (script : ScriptReader) (r : Reading) : Token × Reading :=
  match first script r with
  | (.redirect descriptor .here, some (ending, stripped), r) =>
    match nextLine? script (r.text.length + 1) r with
    | none => (.document descriptor [], r)
    | some below =>
      let ended := bareText ending
      let (body, left, isEnded) := bodyLines ended stripped (below.text.length + 1) below.text
      let removed := below.text.take (below.text.length - left.length)
      let word :=
        if isQuoted ending then .ok [.quoted body]
        else bodyParts script r.last (.ofText r.manner below.line body)
      let last := if r.text.getLast? = some '\n' then r.last - 1 else r.last
      let told := if isEnded then [] else [(last, endless r.line ended)]
      let r := r.takeOut (r.text.take (r.text.length - below.text.length)) removed left
      let r := { r with warnings := told ++ r.warnings }
      match word with
      | .ok w => (.document descriptor w, r)
      | .error f => (.fault f, r)
  | (token, _, r) => (token, r)

end Token

end LineShell.Sh
