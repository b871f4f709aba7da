import LineShell.Text.Utf8

/-!
# Pieces and order of texts

A separator cuts a text into pieces, one more than there are separators; pieces may be empty.  Texts
are put in the order of their first different characters.

Names that hold numbers can be put in the order of these numbers instead: a name is compared part by
part, and a part that is a number counts by its value.  The letters of an ending count only if all
before them is the same.
-/

namespace LineShell

/-- The pieces of a text between separators, empty pieces included. -/
def pieces (separator : Char) : Text → List Text
  | [] => [[]]
  | c :: t =>
    if c = separator then [] :: pieces separator t
    else
      match pieces separator t with
      | piece :: rest => (c :: piece) :: rest
      | [] => [[c]]

/-- A text comes before another one, or is the same. -/
def comesFirst : Text → Text → Bool
  | [], _ => true
  | _ :: _, [] => false
  | c :: s, d :: t => c < d || (c = d && comesFirst s t)

/-- Texts in order. -/
def sorted (ts : List Text) : List Text :=
  ts.mergeSort comesFirst

/-! ## The order of versions -/

namespace Versions

/-- How early a character comes that is no digit; the end of a name comes before all but a tilde. -/
def rank : Option Char → Int
  | none => -1
  | some c =>
    if c.isDigit then 0
    else if c.isAlpha then c.toNat
    else if c = '~' then -2
    else c.toNat + 256

/-- The order of the parts before the next numbers, and what follows them. -/
def comparedWords : (fuel : Nat) → Text → Text → Ordering × Text × Text
  | 0, s, t => (.eq, s, t)
  | fuel + 1, s, t =>
    let isWord (u : Text) : Bool := u.head?.any (!·.isDigit)
    if isWord s || isWord t then
      let (m, n) := (rank s.head?, rank t.head?)
      if m = n then comparedWords fuel s.tail t.tail else (compare m n, s, t)
    else (.eq, s, t)

/-- The order of two names without regard for their endings. -/
def comparedParts : (fuel : Nat) → Text → Text → Ordering
  | 0, _, _ => .eq
  | fuel + 1, s, t =>
    if s.isEmpty && t.isEmpty then .eq
    else
      match comparedWords (s.length + t.length) s t with
      | (.eq, s, t) =>
        let (m, n) := (s.takeWhile Char.isDigit, t.takeWhile Char.isDigit)
        match compare (digitsOf m) (digitsOf n) with
        | .eq => comparedParts fuel (s.drop m.length) (t.drop n.length)
        | order => order
      | (order, _, _) => order
where
  /-- The value of digits. -/
  digitsOf (ds : Text) : Nat := ds.foldl (fun n d => n * 10 + (d.toNat - '0'.toNat)) 0

/-- The name, read backwards, begins with an ending: letters and digits after a point, of which a
letter comes first.  What is before it is given. -/
def beforeEnding? (reversed : Text) : Option Text :=
  let isPart (c : Char) : Bool := c.isAlphanum || c = '~'
  let ending := reversed.takeWhile isPart
  match reversed.drop ending.length with
  | '.' :: rest =>
    if ending.getLast?.any fun c => c.isAlpha || c = '~' then some rest else none
  | _ => none

/-- A name without its endings, of which there are at most as many as given. -/
def withoutEndings : (fuel : Nat) → Text → Text
  | 0, reversed => reversed.reverse
  | fuel + 1, reversed =>
    match beforeEnding? reversed with
    | some rest => if rest.isEmpty then reversed.reverse else withoutEndings fuel rest
    | none => reversed.reverse

/-- The order of two names. -/
def compared (s t : Text) : Ordering :=
  let isHidden (u : Text) : Bool := u.head? = some '.'
  let place (u : Text) : Nat :=
    if u.isEmpty then 0 else if u = ['.'] then 1 else if u = ['.', '.'] then 2
    else if isHidden u then 3 else 4
  match compare (place s) (place t) with
  | .eq =>
    let fuel := s.length + t.length + 1
    let (s', t') := (withoutEndings s.length s.reverse, withoutEndings t.length t.reverse)
    match comparedParts fuel s' t' with
    | .eq => comparedParts fuel s t
    | order => order
  | order => order

end Versions

end LineShell
