import LineShell.Computer.Sh.Tool.Records.Pattern

/-!
# Pieces of texts

How texts are cut into pieces, how something described in them is found and replaced, and how random
numbers follow each other.
-/

namespace LineShell.Sh.Tool.Records

open Search

/-- What separates pieces of a text. -/
inductive Separator where
  /-- Blanks, also around all pieces. -/
  | gaps
  /-- Nothing: each character is a piece. -/
  | nothing
  | character (c : Char)
  | pattern (e : Expression)

namespace Separator

/-- The separator that a text stands for, or what is wrong with it. -/
def ofText (t : Text) : Except PatternFault Separator :=
  match t with
  | [] => .ok .nothing
  | [' '] => .ok .gaps
  | [c] => .ok (.character c)
  | t => (Pattern.compile t).map pattern

end Separator

/-- The words between blanks.  `reversed` are the characters of the first word so far, last one first.
-/
def words : (reversed : Text) → Text → List Text
  | [], [] => []
  | reversed, [] => [reversed.reverse]
  | reversed, c :: t =>
    if isGap c then
      if reversed.isEmpty then words [] t else reversed.reverse :: words [] t
    else words (c :: reversed) t

/-- What stands between certain characters.  `reversed` are the characters of the first piece so far,
last one first. -/
def between (separator : Char) : (reversed : Text) → Text → List Text
  | reversed, [] => [reversed.reverse]
  | reversed, c :: t =>
    if c = separator then reversed.reverse :: between separator [] t
    else between separator (c :: reversed) t

/-- The first match that is not empty from a position on. -/
def solidMatch? (e : Expression) (s : Subject) : (fuel : Nat) → (i : Nat) → Option Found
  | 0, _ => none
  | fuel + 1, i =>
    match e.search s i with
    | none => none
    | some found =>
      if found.first < found.last then some found else solidMatch? e s fuel (found.first + 1)

/-- What stands between matches, from a position on. -/
def betweenMatches (e : Expression) (s : Subject) : (fuel : Nat) → (i : Nat) → List (Nat × Nat)
  | 0, i => [(i, s.text.size)]
  | fuel + 1, i =>
    match solidMatch? e s (s.text.size + 1) i with
    | none => [(i, s.text.size)]
    | some found => (i, found.first) :: betweenMatches e s fuel found.last

/-- A part of what is searched. -/
def partOf (s : Subject) (first last : Nat) : Text :=
  (s.text.extract first last).toList.map Char.ofNat

/-- The pieces of a text. -/
def pieces (separator : Separator) (t : Text) : List Text :=
  if t.isEmpty then []
  else
    match separator with
    | .gaps => words [] t
    | .nothing => t.map fun c => [c]
    | .character c => between c [] t
    | .pattern e =>
      let s := subjectOf t
      (betweenMatches e s (s.text.size + 1) 0).map fun (first, last) => partOf s first last

/-- A text that takes the place of something described: the ampersand stands for it, unless there is
an odd number of backslashes before it; two of these stand for one there. -/
def replacement (found : Text) : (backslashes : Nat) → Text → Text
  | n, [] => List.replicate n '\\'
  | n, '\\' :: t => replacement found (n + 1) t
  | n, '&' :: t =>
    List.replicate (n / 2) '\\' ++ (if n % 2 = 0 then found else ['&']) ++ replacement found 0 t
  | n, c :: t => List.replicate n '\\' ++ c :: replacement found 0 t

/-- The matches to be replaced from a position on: no empty one right behind another. -/
def matchesOf (e : Expression) (s : Subject) (isGlobal : Bool) :
    (fuel : Nat) → (i : Nat) → (isBehind : Bool) → List (Nat × Nat)
  | 0, _, _ => []
  | fuel + 1, i, isBehind =>
    match e.search s i with
    | none => []
    | some found =>
      if found.first = found.last ∧ found.first = i ∧ isBehind then
        if s.text.size ≤ i then [] else matchesOf e s isGlobal fuel (i + 1) false
      else
        let here := (found.first, found.last)
        if !isGlobal then [here]
        else if found.first = found.last then
          if s.text.size ≤ found.last then [here]
          else here :: matchesOf e s isGlobal fuel (found.last + 1) false
        else here :: matchesOf e s isGlobal fuel found.last true

/-- A text with something described replaced, and how often. -/
def substituted (e : Expression) (isGlobal : Bool) (replacing : Text) (t : Text) : Text × Nat :=
  let s := subjectOf t
  let found := matchesOf e s isGlobal (2 * s.text.size + 2) 0 false
  let (parts, last) := found.foldl (fun (parts, i) (first, last) =>
    (replacement (partOf s first last) 0 replacing :: partOf s i first :: parts, last))
    (([] : List Text), 0)
  ((partOf s last s.text.size :: parts).reverse.flatten, found.length)

/-- The place of a text in another one, counted from one, or zero.  The empty text is at the
beginning. -/
def placeOf (sought : Text) (t : Text) : Nat :=
  if sought.isEmpty then 1 else go 1 t
where
  /-- Looks on at a place. -/
  go : (n : Nat) → Text → Nat
    | _, [] => 0
    | n, c :: t => if sought.isPrefixOf (c :: t) then n else go (n + 1) t

/-- What follows a number in the sequence by which the state of the generator is filled. -/
def nextSeed (n : Nat) : Nat := 16807 * n % 2147483647

/-- The last numbers from which random numbers are computed, the latest one first. -/
abbrev Generator := List UInt32

/-- The sum of two of the last numbers is the next one. -/
def Generator.next (g : Generator) : UInt32 × Generator :=
  let n := g.getD 2 0 + g.getD 30 0
  (n, n :: g.take 30)

/-- The state of the generator after it has been told where to start. -/
def Generator.ofSeed (seed : Nat) : Generator :=
  let seed := if seed = 0 then 1 else seed % 4294967296
  let filled := (List.range 30).foldl (fun (ns : List Nat) _ =>
    nextSeed (ns.headD 0) :: ns) [seed]
  let start : Generator := (filled.drop 28 ++ filled.take 28).map UInt32.ofNat
  (List.range 310).foldl (fun g _ => g.next.2) start

end LineShell.Sh.Tool.Records
