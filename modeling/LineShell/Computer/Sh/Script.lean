import LineShell.Text.Utf8

/-!
# Scripts of the command language

The language that the system shell speaks, as data, and what a larger shell adds to it.  A word is a
list of parts, of which some are text and some are expanded when the word is used; a part remembers
whether it stood in quotes, because only what stood outside is split and matched against file names.
-/

namespace LineShell.Sh

/-- The languages in which scripts are written. -/
inductive Language where
  /-- The language of the system shell. -/
  | common
  /-- A larger language, with variables that hold lists and with more ways to expand words. -/
  | extended
deriving DecidableEq, Repr

/-- How the value of a parameter is adjusted by the word that follows its name.  With `emptyToo` an
empty value counts as none. -/
inductive Adjustment where
  /-- The word stands in for a missing value. -/
  | otherwise (emptyToo : Bool)
  /-- The word stands in for a missing value and becomes the value. -/
  | assigned (emptyToo : Bool)
  /-- A missing value is an error, with the word as its text. -/
  | demanded (emptyToo : Bool)
  /-- The word stands in for a value that is there. -/
  | instead (emptyToo : Bool)
  /-- The part at the beginning that the word matches is cut off. -/
  | withoutFront (longest : Bool)
  /-- The part at the end that the word matches is cut off. -/
  | withoutBack (longest : Bool)
deriving DecidableEq, Repr

/-- The adjustment cuts something off, so that its word is a pattern. -/
def Adjustment.cuts : Adjustment → Bool
  | .withoutFront _ => true
  | .withoutBack _ => true
  | _ => false

/-- Where in a value a pattern is replaced. -/
inductive Site where
  /-- Where it matches first. -/
  | first
  /-- Wherever it matches. -/
  | everywhere
  /-- At the beginning. -/
  | front
  /-- At the end. -/
  | back
deriving DecidableEq, Repr

/-- How letters are altered. -/
inductive Casing where
  | capital
  | small
  /-- Capital letters become small ones and the other way round. -/
  | swapped
deriving DecidableEq, Repr

/-- How a redirection connects a descriptor. -/
inductive Connection where
  /-- To a file that is read. -/
  | input
  /-- To a file that is written anew, unless a switch keeps the files that exist. -/
  | output
  /-- To a file that is written anew. -/
  | outputAnyway
  /-- To a file that is written at its end. -/
  | append
  /-- To a file that is written from its beginning, over what it holds. -/
  | both
  /-- To what another descriptor is connected to, or to nothing. -/
  | duplicate
  /-- To the text of the word itself. -/
  | here
deriving DecidableEq, Repr

/-- A redirection of a descriptor, with a target that is a word of type `ω`. -/
structure RedirectionTo (ω : Type) where
  descriptor : Nat
  connection : Connection
  target : ω

/-- An assignment, with words of type `ω`. -/
structure AssignmentTo (ω : Type) where
  name : Text
  /-- The place in a list, if only what is there is meant. -/
  index : Option ω
  /-- The value is put behind the one before. -/
  adds : Bool
  value : ω

/-- An item of a list that is assigned, with words of type `ω`. -/
structure ItemTo (ω : Type) where
  /-- The place in the list, if it is told. -/
  index : Option ω
  /-- The value is put behind the one before. -/
  adds : Bool
  value : ω

/-- How an arm of a selection goes on. -/
inductive ArmEnding where
  /-- The selection is over. -/
  | leaves
  /-- The next arm follows, whatever its patterns. -/
  | falls
  /-- The patterns of the next arms are tried. -/
  | tries
deriving DecidableEq, Repr

mutual

/-- One part of a word. -/
inductive Part where
  /-- Text that stood outside quotes. -/
  | plain (text : Text)
  /-- Text that stood in quotes, possibly empty. -/
  | quoted (text : Text)
  /-- The value of a parameter. -/
  | value (name : Text) (inQuotes : Bool)
  /-- The number of characters of the value of a parameter. -/
  | length (name : Text) (inQuotes : Bool)
  /-- The value of a parameter, adjusted by a word. -/
  | adjusted (name : Text) (how : Adjustment) (word : List Part) (inQuotes : Bool)
  /-- The value of an arithmetic expression. -/
  | arithmetic (expression : List Part) (inQuotes : Bool)
  /-- What a script prints. -/
  | captured (script : Script) (inQuotes : Bool)
  /-- An expansion that makes no sense, which is only an error when it is carried out, with its
  text. -/
  | senseless (shown : Text)
  /-- The value of a parameter or of items of a list, changed in a way of the extended language; if
  `indirect`, the value is the name of the parameter that is meant.  The text is told if it makes no
  sense. -/
  | reference (name : Text) (subscript : Subscript) (indirect : Bool) (change : Alteration)
    (shown : Text) (inQuotes : Bool)
  /-- The items of a list that is assigned. -/
  | items (values : List (ItemTo (List Part)))
  /-- The path of a file that a script beside this one writes, or reads if `taken`. -/
  | connection (script : Script) (taken : Bool)

/-- What of a variable is meant. -/
inductive Subscript where
  /-- The variable itself, or the first item of a list. -/
  | none
  /-- All items of a list, each of which is a field of its own unless they are `joined`. -/
  | all (joined : Bool)
  /-- The item at a place. -/
  | item (index : List Part)

/-- How a value is altered. -/
inductive Alteration where
  | none
  /-- The number of its characters, or the number of items. -/
  | count
  | adjusted (how : Adjustment) (word : List Part)
  /-- The characters or items from a place on, perhaps only some of them. -/
  | slice (start : List Part) (size : Option (List Part))
  /-- What a pattern matches is replaced. -/
  | replaced (site : Site) (pattern word : List Part)
  /-- The first letter or all letters are altered, if a pattern matches them. -/
  | recased (casing : Casing) (everywhere : Bool) (pattern : List Part)
  /-- The value in a form that a letter stands for. -/
  | shaped (letter : Char)
  /-- The places of the items of a list. -/
  | places
  /-- The names of the variables that begin with the name. -/
  | names (joined : Bool)

/-- A command of the language. -/
inductive Script where
  /-- Assignments, words and redirections, on a line of the text; and how the assignments and words
  are written, where that may be asked for. -/
  | simple (line : Nat) (assignments : List (AssignmentTo (List Part)))
    (words : List (List Part)) (redirections : List (RedirectionTo (List Part)))
    (written : List Text)
  /-- Commands each of which reads what the one before it writes. -/
  | pipeline (stages : List Script)
  /-- A command whose success counts as failure and the other way round. -/
  | negated (script : Script)
  /-- The second command runs if the first succeeds. -/
  | andThen (first second : Script)
  /-- The second command runs if the first fails. -/
  | orElse (first second : Script)
  /-- One command after the other. -/
  | inOrder (scripts : List Script)
  /-- A command that is not waited for. -/
  | background (script : Script)
  /-- A command with a process of its own. -/
  | subshell (body : Script)
  /-- A command with redirections. -/
  | redirected (line : Nat) (body : Script) (redirections : List (RedirectionTo (List Part)))
  /-- One of two commands, as a condition succeeds or fails. -/
  | choose (condition consequence alternative : Script)
  /-- A command that is run as long as a condition succeeds, or fails if `untilTrue`. -/
  | loop (untilTrue : Bool) (condition body : Script)
  /-- A command that is run for each of some words, or for each argument. -/
  | each (name : Text) (words : Option (List (List Part))) (body : Script)
  /-- The first command with a pattern that the subject matches. -/
  | select (subject : List Part) (arms : List (List (List Part) × Script × ArmEnding))
  /-- The definition of a function. -/
  | define (name : Text) (body : Script)
  /-- A condition in double brackets. -/
  | check (line : Nat) (condition : Check)
  /-- An arithmetic expression in double brackets, which succeeds unless it is zero. -/
  | calculate (line : Nat) (expression : List Part)
  /-- A command that is run as long as an expression is not zero; another one is computed before,
  and another one after each round. -/
  | count (line : Nat) (first condition next : List Part) (body : Script)
  /-- A command that is run for each of some words that is chosen from a menu. -/
  | offer (name : Text) (words : Option (List (List Part))) (body : Script)
  /-- A command whose time is told. -/
  | timed (plain : Bool) (body : Script)

/-- A condition in double brackets. -/
inductive Check where
  /-- A question about a word, by its letter. -/
  | question (op : Text) (word : List Part)
  /-- A comparison of two words. -/
  | comparison (op : Text) (left right : List Part)
  | denied (check : Check)
  | both (first second : Check)
  | either (first second : Check)

end

/-- A word before its expansion. -/
abbrev Word := List Part

/-- A redirection of a descriptor. -/
abbrev Redirection := RedirectionTo Word

/-- An assignment. -/
abbrev Assignment := AssignmentTo Word

/-- An item of a list that is assigned. -/
abbrev Item := ItemTo Word

namespace Script

/-- The command that does nothing. -/
def skip : Script := .inOrder []

end Script

/-- Why a text is no script. -/
inductive SyntaxFault where
  /-- A quotation is never closed. -/
  | unterminatedQuote
  /-- A brace is never closed. -/
  | missingBrace
  /-- The two brackets of an arithmetic expression are never closed. -/
  | missingBrackets
  | badLoopVariable
  | badFunctionName
  | openBackquote
  /-- A token stands where it cannot, possibly in the stead of one that was expected. -/
  | unexpected (token : Text) (expected : Option Text)
  /-- The text ends before something that is told. -/
  | unclosed (closing : Text)
  /-- A token stands where it cannot in a condition, about which something is told. -/
  | unexpectedWithin (messages : List Text) (token : Text)
  /-- A brace in the extended language is never closed, or the text ends too early. -/
  | ended
deriving DecidableEq, Repr

/-- The text of a fault. -/
def SyntaxFault.message : SyntaxFault → Text
  | .unterminatedQuote => "Unterminated quoted string".toList
  | .missingBrace => "Missing '\x7d'".toList
  | .missingBrackets => "Missing '))'".toList
  | .badLoopVariable => "Bad for loop variable".toList
  | .badFunctionName => "Bad function name".toList
  | .openBackquote => "EOF in backquote substitution".toList
  | .unexpected token none => token ++ " unexpected".toList
  | .unexpected token (some expected) =>
    token ++ " unexpected (expecting ".toList ++ expected ++ [')']
  | .unclosed closing => "Missing ".toList ++ closing
  | .unexpectedWithin _ token => token ++ " unexpected".toList
  | .ended => "end of file unexpected".toList

/-- The texts of a fault in the extended language, and whether the line is shown on which it is. -/
def SyntaxFault.extendedMessages : SyntaxFault → List Text × Bool
  | .unclosed closing =>
    (["unexpected EOF while looking for matching \x60".toList ++ closing ++ ['\'']], false)
  | .ended => (["syntax error: unexpected end of file".toList], false)
  | .unexpectedWithin messages token =>
    (messages ++ ["syntax error near \x60".toList ++ token ++ ['\'']], true)
  | .unexpected token _ =>
    (["syntax error near unexpected token \x60".toList ++ token ++ ['\'']], true)
  | f => ([f.message], true)

/-- A fault with the line on which it was found. -/
structure LocatedFault where
  line : Nat
  fault : SyntaxFault
deriving Repr

end LineShell.Sh
