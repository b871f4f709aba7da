import LineShell.Computer.Sh.Commands
import LineShell.Computer.Sh.Tool.Basic

/-!
# The tool that checks conditions

Conditions as the tool of that name reads them.  The number of words decides how few of them are
read; more than four are read as conditions that are joined.
-/

namespace LineShell.Sh.Tool

namespace Checking

/-- Where conditions are checked. -/
structure Place where
  setting : Condition.Setting
  /-- The last word. -/
  last : Text
  /-- The bracket that ends the words, if one does. -/
  bracket : Option Text

/-- What takes words from the front of those that are left. -/
abbrev Checker := ReaderT Place (StateT (List Text) (Except Text))

/-- The words that are left. -/
def left : Checker (List Text) := get

/-- The number at the front of the words that are left. -/
def word (n : Nat) : Checker Text := do
  return (← left).getD n []

/-- Fails because words are missing. -/
def missing {α : Type} : Checker α := do
  throw ("missing argument after ".toList ++ Quoting.word (← read).last)

/-- Passes a word, which others have to follow if so told. -/
def advance (needsMore : Bool) : Checker Unit := do
  modify List.tail
  if needsMore && (← left).isEmpty then missing

/-- The integer that a word denotes. -/
def integer (t : Text) : Checker Int := do
  let digitsFrom := t.dropWhile isSpace
  let (negative, digitsFrom) := splitSign digitsFrom
  let digits := digitsFrom.takeWhile Char.isDigit
  if digits.isEmpty || !(digitsFrom.drop digits.length).all isSpace then
    throw ("invalid integer ".toList ++ Quoting.word t)
  else
    let n : Int := digitsValue digits
    return if negative then -n else n

/-- Comparisons of numbers. -/
def numberComparisons : List (String × (Int → Int → Bool)) :=
  [("-eq", fun m n => m = n), ("-ne", fun m n => m ≠ n), ("-lt", fun m n => m < n),
    ("-le", fun m n => m ≤ n), ("-gt", fun m n => m > n), ("-ge", fun m n => m ≥ n)]

/-- Comparisons of texts. -/
def textComparisons : List (String × (Text → Text → Bool)) :=
  [("=", fun s t => s = t), ("==", fun s t => s = t), ("!=", fun s t => s ≠ t)]

/-- A file was altered after another one, which may not even exist. -/
def isNewer (s : Condition.Setting) (t u : Text) : Bool :=
  s.isNewer t u || ((s.node? true t).isSome && (s.node? true u).isNone)

/-- Comparisons of files. -/
def fileComparisons : List (String × (Condition.Setting → Text → Text → Bool)) :=
  [("-nt", isNewer), ("-ot", fun s t u => isNewer s u t), ("-ef", fun s t u => s.isSame t u)]

/-- A word is a comparison. -/
def isComparison (t : Text) : Bool :=
  let t := String.ofList t
  (numberComparisons.lookup t).isSome || (textComparisons.lookup t).isSome ||
    (fileComparisons.lookup t).isSome

/-- A comparison of two words.  The length of a word may stand in the place of a number. -/
def comparison (leftLength : Bool) : Checker Bool := do
  if leftLength then advance false
  let ws ← left
  let s := ws.getD 0 []
  let op := ws.getD 1 []
  let rightLength := 4 ≤ ws.length && ws.getD 2 [] = ['-', 'l']
  let t := ws.getD (if rightLength then 3 else 2) []
  modify (·.drop (if rightLength then 4 else 3))
  let numberOf (isLength : Bool) (t : Text) : Checker Int := do
    if isLength then return t.length else integer t
  let name := String.ofList op
  match numberComparisons.lookup name, fileComparisons.lookup name with
  | some p, _ =>
    let m ← numberOf leftLength s
    let n ← numberOf rightLength t
    return p m n
  | none, some p =>
    if leftLength || rightLength then throw (op ++ " does not accept -l".toList)
    return p (← read).setting s t
  | none, none => return ((textComparisons.lookup name).map fun p => p s t).getD false

/-- A word looks like a question: a letter after a minus sign. -/
def looksLikeQuestion : Text → Bool
  | ['-', _] => true
  | _ => false

/-- A question about the word after it. -/
def question : Checker Bool := do
  let op ← word 0
  let place ← read
  let answer ← match op with
    | ['-', 'n'] => pure fun (t : Text) => (pure (!t.isEmpty) : Checker Bool)
    | ['-', 'z'] => pure fun t => pure t.isEmpty
    | ['-', 't'] => pure fun t => do
      let _ ← integer t
      return false
    | ['-', letter] =>
      match Condition.fileQuestion? letter with
      | some (follow, p) => pure fun t => pure ((place.setting.node? follow t).any p)
      | none =>
        if letter = 'N' then pure fun _ => pure false
        else throw (Quoting.word op ++ ": unary operator expected".toList)
    | _ => throw (Quoting.word op ++ ": unary operator expected".toList)
  advance true
  let t ← word 0
  advance false
  answer t

/-- A word that stands alone. -/
def single : Checker Bool := do
  let t ← word 0
  advance false
  return !t.isEmpty

/-- A condition of two words. -/
def ofTwo : Checker Bool := do
  let t ← word 0
  if t = ['!'] then
    advance false
    return !(← single)
  else if looksLikeQuestion t then question
  else missing

mutual

/-- A condition of a number of words. -/
def ofCount (fuel count : Nat) : Checker Bool := do
  match fuel with
  | 0 => return false
  | fuel + 1 =>
    let first ← word 0
    match count with
    | 1 => single
    | 2 => ofTwo
    | 3 => ofThree fuel
    | 4 =>
      if first = ['!'] then
        advance true
        return !(← ofThree fuel)
      else if first = ['('] ∧ (← word 3) = [')'] then
        advance false
        let holds ← ofTwo
        advance false
        return holds
      else joined fuel
    | _ => joined fuel
termination_by structural fuel

/-- A condition of three words. -/
def ofThree (fuel : Nat) : Checker Bool := do
  match fuel with
  | 0 => return false
  | fuel + 1 =>
    let first ← word 0
    let second ← word 1
    if isComparison second then comparison false
    else if first = ['!'] then
      advance true
      return !(← ofTwo)
    else if first = ['('] ∧ (← word 2) = [')'] then
      advance false
      let holds ← single
      advance false
      return holds
    else if second = "-a".toList ∨ second = "-o".toList then joined fuel
    else throw (Quoting.word second ++ ": binary operator expected".toList)
termination_by structural fuel

/-- Conditions of which one has to hold. -/
def joined (fuel : Nat) : Checker Bool := do
  match fuel with
  | 0 => return false
  | fuel + 1 =>
    if (← left).isEmpty then missing
    let holds ← allOf fuel
    if (← left).head? = some "-o".toList then
      advance false
      let others ← joined fuel
      return holds || others
    else return holds
termination_by structural fuel

/-- Conditions that all have to hold. -/
def allOf (fuel : Nat) : Checker Bool := do
  match fuel with
  | 0 => return false
  | fuel + 1 =>
    let holds ← term fuel
    if (← left).head? = some "-a".toList then
      advance false
      let others ← allOf fuel
      return holds && others
    else return holds
termination_by structural fuel

/-- One condition among others. -/
def term (fuel : Nat) : Checker Bool := do
  match fuel with
  | 0 => return false
  | fuel + 1 =>
    match ← left with
    | [] => missing
    | ['!'] :: _ =>
      advance true
      return !(← term fuel)
    | ['('] :: _ =>
      advance true
      let ws ← left
      let inside := ws.tail.takeWhile (· ≠ [')'])
      let count := if 4 ≤ inside.length then ws.length else inside.length + 1
      let holds ← ofCount fuel count
      match ((← left).head?).or (← read).bracket with
      | none => throw (Quoting.word [')'] ++ " expected".toList)
      | some [')'] =>
        advance false
        return holds
      | some t =>
        throw (Quoting.word [')'] ++ " expected, found ".toList ++ Quoting.word t)
    | ws =>
      let first := ws.getD 0 []
      if 4 ≤ ws.length && first = "-l".toList && isComparison (ws.getD 2 []) then comparison true
      else if 3 ≤ ws.length && isComparison (ws.getD 1 []) then comparison false
      else if looksLikeQuestion first then question
      else single
termination_by structural fuel

end

/-- A whole condition, of which no word is left. -/
def whole (count : Nat) : Checker Bool := do
  if count = 0 then return false
  let holds ← ofCount (8 * count + 8) count
  match ← left with
  | [] => return holds
  | t :: _ => throw ("extra argument ".toList ++ Quoting.word t)

end Checking

/-- Checks a condition in words, which a bracket may end. -/
def checkWords (words : List Text) (bracket : Option Text) : Task Int := do
  let place : Checking.Place := ⟨← Commands.setting, words.getLastD [], bracket⟩
  match ((Checking.whole words.length).run place).run words with
  | .ok (holds, _) => return if holds then 0 else 1
  | .error message =>
    complain message
    return 2

/-- Checks a condition. -/
def test (words : List Text) : Task Int :=
  checkWords words none

/-- Checks a condition that a bracket ends. -/
def bracket (words : List Text) : Task Int := do
  if words.getLast? = some [']'] then checkWords words.dropLast (some [']'])
  else
    complain ("missing ".toList ++ Quoting.word [']'])
    return 2

end LineShell.Sh.Tool
