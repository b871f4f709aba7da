import LineShell.Computer.Search.Syntax
import LineShell.Computer.Sh.Tool.Finding.Description

/-!
# Criteria

A criterion is asked of files, and may do something with them.  It is written as a row of words:
primaries, words that join them, the one that denies what follows it, and parentheses.
-/

namespace LineShell.Sh.Tool.Finding

/-- How a number has to compare with another one. -/
inductive Sense where
  | less
  | equal
  | more
deriving DecidableEq, Repr

/-- A number, and how others have to compare with it. -/
structure Bound where
  sense : Sense
  n : Nat

namespace Bound

/-- A number compares as it has to. -/
def fits (b : Bound) (m : Nat) : Bool :=
  match b.sense with
  | .less => m < b.n
  | .equal => m = b.n
  | .more => b.n < m

/-- How numbers have to compare, by the sign in front of a text, and what follows it. -/
def senseOf : Text → Sense × Text
  | '+' :: t => (.more, t)
  | '-' :: t => (.less, t)
  | t => (.equal, t)

/-- The number that a text is, and how others have to compare with it. -/
def ofText? (t : Text) : Option Bound :=
  let (sense, t) := senseOf t
  let t := match t.dropWhile isSpace with
    | '+' :: t => t
    | t => t
  if t.isEmpty || !t.all Char.isDigit || 18446744073709551615 < digitsValue t then none
  else some ⟨sense, digitsValue t⟩

end Bound

/-- What a pattern is compared with. -/
inductive Compared where
  | name
  | path
  | target
deriving DecidableEq, Repr

/-- What a process may do with a file. -/
inductive Permission where
  | reading
  | writing
  | running
deriving DecidableEq, Repr

/-- How permissions have to compare with others. -/
inductive Likeness where
  | exactly
  | every
  | any
deriving DecidableEq, Repr

/-- What is asked of a file. -/
inductive Test where
  | always (answer : Bool)
  | pattern (compared : Compared) (p : Pattern)
  | expression (e : Search.Expression) (ignoresCase : Bool)
  /-- Its kind is one of some; that of what is not looked at otherwise if `other` says so. -/
  | kind (other : Bool) (letters : Text)
  | size (unit : Nat) (bound : Bound)
  | empty
  | names (bound : Bound)
  | number (bound : Bound)
  /-- The owner or the group, which is the same for all files. -/
  | owner (bound : Bound)
  | after (moment : Int)
  /-- Its time lies before, within or after an interval. -/
  | window (sense : Sense) (start length : Int)
  | mode (likeness : Likeness) (ofFiles ofDirectories : Nat)
  | allows (permission : Permission)
  | same (id : NodeId)

/-- How a file is told. -/
inductive Telling where
  | line (ending : Char)
  | listing
  | described (pieces : List Piece)

/-- What is done with a file. -/
inductive Action where
  /-- It is told at a descriptor. -/
  | tell (descriptor : Nat) (telling : Telling)
  /-- A program is run. -/
  | run (command : List Text) (within asks : Bool)
  /-- It is kept for a program that is run with many files. -/
  | gather (index : Nat)
  | delete
  /-- What is in it is passed over. -/
  | prune
  | quit

/-- What is asked of files and done with them. -/
inductive Criterion where
  | test (t : Test)
  | act (a : Action)
  | deny (c : Criterion)
  | both (first second : Criterion)
  | either (first second : Criterion)
  /-- The first one is asked, too, but the second one counts. -/
  | second (first second : Criterion)

/-- What joins two criteria. -/
inductive Joint where
  | second
  | either
  | both
deriving DecidableEq, Repr

namespace Joint

/-- How tightly it joins. -/
def strength : Joint → Nat
  | second => 1
  | either => 2
  | both => 3

/-- Joins two criteria. -/
def join : Joint → Criterion → Criterion → Criterion
  | second, c, d => .second c d
  | either, c, d => .either c d
  | both, c, d => .both c d

end Joint

/-- How tightly the word that denies a criterion holds to it. -/
def denialStrength : Nat := 4

/-- A word of a criterion. -/
inductive Token where
  /-- It opens a parenthesis; it may have been added to what was written. -/
  | opens (name : Text) (isAdded : Bool)
  | closes (isAdded : Bool)
  | denies (name : Text)
  | joins (joint : Joint) (name : Text)
  | primary (c : Criterion)

namespace Token

/-- The word as it was written. -/
def name : Token → Text
  | .opens name _ => name
  | .denies name => name
  | .joins _ name => name
  | _ => [')']

/-- What is wrong with a row of words. -/
def invalid (why : String) : Text :=
  ("invalid expression" ++ why).toList

mutual

/-- The criterion at the beginning of a row of words, which reaches to a joint that is not tighter
than `strength`, and the words after it. -/
def criterion (strength : Nat) (before : Option Token) :
    (fuel : Nat) → List Token → Except Text (Criterion × List Token)
  | 0, _ => .error (invalid "")
  | _, [] => .error (invalid "")
  | fuel + 1, token :: rest =>
    match token with
    | .joins _ name =>
      .error (invalid "; you have used a binary operator '" ++ name ++
        "' with nothing before it.".toList)
    | .closes isAdded =>
      let name := (before.map Token.name).getD []
      let isWaiting : Bool := match before with
        | some (.denies _) => true
        | some (.joins ..) => true
        | _ => false
      if isWaiting && !isAdded then
        .error ("expected an expression between '".toList ++ name ++ "' and ')'".toList)
      else if isAdded then .error ("expected an expression after '".toList ++ name ++ ['\''])
      else .error (invalid "; you have too many ')'")
    | .primary c => joined strength fuel c rest
    | .denies _ => do
      let (c, rest) ← criterion denialStrength (some token) fuel rest
      joined strength fuel (.deny c) rest
    | .opens name _ =>
      match rest with
      | [] => .error (invalid ("; expected to find a ')' but didn't see one. " ++
          "Perhaps you need an extra predicate after '") ++ name ++ ['\''])
      | .closes true :: _ =>
        .error (invalid ("; expected to find a ')' but didn't see one. " ++
          "Perhaps you need an extra predicate after '") ++ name ++ ['\''])
      | .closes false :: _ => .error (invalid "; empty parentheses are not allowed.")
      | _ => do
        let (c, rest) ← criterion 0 (some token) fuel rest
        match rest with
        | .closes _ :: rest => joined strength fuel c rest
        | _ =>
          .error (invalid "; I was expecting to find a ')' somewhere but did not see one.")

/-- A criterion with what is joined to it by joints that are tighter than `strength`. -/
def joined (strength : Nat) : (fuel : Nat) → Criterion → List Token →
    Except Text (Criterion × List Token)
  | 0, c, rest => .ok (c, rest)
  | fuel + 1, c, rest =>
    match rest with
    | .joins joint name :: after =>
      if strength < joint.strength then do
        let (d, rest) ← criterion joint.strength (some (.joins joint name)) fuel after
        joined strength fuel (joint.join c d) rest
      else .ok (c, rest)
    | _ => .ok (c, rest)

end

/-- The criterion that a whole row of words makes. -/
def whole (tokens : List Token) : Except Text Criterion := do
  let (c, rest) ← criterion 0 none (2 * tokens.length + 2) tokens
  match rest with
  | [] => return c
  | .closes _ :: _ => .error "you have too many ')'".toList
  | _ => .error "unexpected extra predicate".toList

/-- A row of words with one more, before which those are joined that only stand side by side. -/
def add (token : Token) (reversed : List Token) : List Token :=
  let begins : Bool := match token with
    | .primary _ => true
    | .denies _ => true
    | .opens .. => true
    | _ => false
  let ends : Bool := match reversed.head? with
    | some (.primary _) => true
    | some (.closes _) => true
    | _ => false
  if begins && ends then token :: .joins .both "-a".toList :: reversed else token :: reversed

end Token

end LineShell.Sh.Tool.Finding
