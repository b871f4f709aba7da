import LineShell.Computer.Sh.Token
import LineShell.Computer.Text.Integer

/-!
# Words in braces

In the extended language a word with several texts between braces is several words, and so is one
with a range of numbers or letters.  This comes before all other expansions, so what will be expanded
later counts as something of which nothing is known yet.
-/

namespace LineShell.Sh.Braces

/-- What a word is made of: characters that stood outside quotes, and anything else. -/
inductive Atom where
  | char (c : Char)
  | part (p : Part)

/-- The character that an atom is. -/
def Atom.char? : Atom → Option Char
  | .char c => some c
  | .part _ => none

/-- The atoms of a word. -/
def atoms (w : Word) : List Atom :=
  w.flatMap fun
    | .plain t => t.map .char
    | p => [.part p]

/-- The word that atoms make. -/
def word (as : List Atom) : Word :=
  as.foldr (fun a w =>
    match a with
    | .char c => Token.addPart (.plain [c]) w
    | .part p => Token.addPart p w) []

/-- The place of a brace or a comma, from a place on, outside other braces.  A closing brace counts
only if there is a comma or a range before it, and an opening one only if something else than its
end follows it or something stands before it. -/
def seek (sought : Char) (before : Option Char) (place depth : Nat) (separated : Bool) :
    List Atom → Option Nat
  | [] => none
  | a :: rest =>
    let next := rest.head?.bind Atom.char?
    let isBare := sought = '\x7b' && before.isNone && place = 0 &&
      (rest.isEmpty || next = some '\x7d')
    match a.char? with
    | none => seek sought (some 'x') (place + 1) depth separated rest
    | some c =>
      let more (depth : Nat) (separated : Bool) : Option Nat :=
        seek sought (some c) (place + 1) depth separated rest
      if c = sought ∧ depth = 0 ∧ separated then
        if isBare then seek sought (some c) (place + 1) 0 separated rest else some place
      else if c = '\x7b' then more (depth + 1) separated
      else if c = '\x7d' ∧ depth ≠ 0 then more (depth - 1) separated
      else
        let isRange := c = '.' && next = some '.' && (rest[1]?).isSome &&
          ((rest[1]?).bind Atom.char?) ≠ some sought
        more depth (separated || (sought = '\x7d' && depth = 0 && (c = ',' || isRange)))

/-- The place of the first opening brace from a place on that is closed, and the place of the closing
one, in at most as many steps as given. -/
def pair? (as : List Atom) : (fuel place : Nat) → Option (Nat × Nat)
  | 0, _ => none
  | fuel + 1, place =>
    let before := if place = 0 then none else some 'x'
    match seek '\x7b' before place 0 true (as.drop place) with
    | none => none
    | some start =>
      match seek '\x7d' (some 'x') (start + 1) 0 false (as.drop (start + 1)) with
      | some stop => some (start, stop)
      | none => pair? as fuel (start + 1)

/-- The atoms between commas outside braces. -/
def choices (depth : Nat) (current : List Atom) : List Atom → List (List Atom)
  | [] => [current.reverse]
  | a :: rest =>
    match a.char? with
    | some ',' =>
      if depth = 0 then current.reverse :: choices 0 [] rest
      else choices depth (a :: current) rest
    | some '\x7b' => choices (depth + 1) (a :: current) rest
    | some '\x7d' => choices (depth - 1) (a :: current) rest
    | _ => choices depth (a :: current) rest

/-- A bound of a range. -/
inductive Bound where
  | number (n : Int)
  | letter (c : Char)
deriving DecidableEq, Repr

/-- The bound that a text is. -/
def bound? (t : Text) : Option Bound :=
  match wholeInteger? false t, t with
  | some n, _ => some (.number n)
  | none, [c] => if c.isAlpha then some (.letter c) else none
  | none, _ => none

/-- The numbers from one to another by steps. -/
def steps (start stop step : Int) : List Int :=
  let size := if step = 0 then 1 else step.natAbs
  let count := (stop - start).natAbs / size
  (List.range (count + 1)).map fun (i : Nat) =>
    if start ≤ stop then start + (i * size : Nat) else start - (i * size : Nat)

/-- A number with zeros in front, as wide as given. -/
def padded (width : Nat) (n : Int) : Text :=
  let digits := numeral n.natAbs
  let sign : Text := if n < 0 then ['-'] else []
  sign ++ List.replicate (width - digits.length - sign.length) '0' ++ digits

/-- How wide the numbers of a range are because of the zeros before one of its bounds. -/
def widthOf (a b : Text) : Nat :=
  let hasZeros (t : Text) : Bool :=
    (1 < t.length && t.head? = some '0') || (2 < t.length && ['-', '0'].isPrefixOf t)
  if hasZeros a ∨ hasZeros b then max a.length b.length else 0

/-- The texts of a range, if a text is one: two bounds, and perhaps a step, with two dots between
them. -/
def range? (t : Text) : Option (List (List Atom)) :=
  let (a, rest) := cut [] t
  match rest with
  | none => none
  | some rest =>
    let (b, last) := cut [] rest
    let step := match last with
      | none => some 1
      | some t => wholeInteger? false t
    match bound? a, bound? b, step with
    | some (.number m), some (.number n), some step =>
      let width := widthOf a b
      some ((steps m n step).map fun n => (padded width n).map .char)
    | some (.letter c), some (.letter d), some step =>
      some ((steps c.toNat d.toNat step).map fun n =>
        if n = 92 then [.part (.quoted [])] else [.char (Char.ofNat n.toNat)])
    | _, _, _ => none
where
  /-- The text before the first two dots and the text after them, if there are some. -/
  cut (reversed : Text) : Text → Text × Option Text
    | '.' :: '.' :: t => (reversed.reverse, some t)
    | c :: t => cut (c :: reversed) t
    | [] => (reversed.reverse, none)

/-- Each of some beginnings with each of some ends. -/
def joined (first second : List (List Atom)) : List (List Atom) :=
  first.flatMap fun a => second.map (a ++ ·)

/-- The words that atoms make, in at most `fuel` steps. -/
def expanded : (fuel : Nat) → List Atom → List (List Atom)
  | 0, as => [as]
  | fuel + 1, as =>
    match pair? as (as.length + 1) 0 with
    | none => [as]
    | some (start, stop) =>
      let inside := (as.drop (start + 1)).take (stop - start - 1)
      let rest := as.drop (stop + 1)
      let choices := choices 0 [] inside
      let found : Option (List (List Atom)) :=
        if !(inside.any fun a => a.char? = some ',') then
          if inside.all (·.char?.isSome) then range? (inside.filterMap Atom.char?) else none
        else some (choices.flatMap (expanded fuel))
      let ends := if rest.isEmpty then [[]] else expanded fuel rest
      match found with
      | some several => joined (several.map (as.take start ++ ·)) ends
      | none => if rest.isEmpty then [as] else ends.map (as.take (stop + 1) ++ ·)

/-- The words that a word with braces makes. -/
def words (w : Word) : List Word :=
  let as := atoms w
  if as.any fun a => a.char? = some '\x7b' then (expanded (as.length + 1) as).map word else [w]

end LineShell.Sh.Braces
