import LineShell.Text.Utf8

/-!
# What two sequences have in common

Two sequences are compared by a search from both ends at once, along the diagonals of the grid that
they span: each step goes one element further in one of them, and then as far as the elements are the
same.  Where the two searches meet, the sequences are divided, and both parts are compared in the same
way.  What is not found to be common is marked.
-/

namespace LineShell.Alignment

/-- A part of two sequences: from where to where in each of them. -/
structure Box where
  left : Nat
  right : Nat
  top : Nat
  bottom : Nat
deriving DecidableEq, Repr

/-- How far the searches have come on each diagonal. -/
structure Fronts where
  forward : Array Int
  backward : Array Int

/-- Two sequences. -/
structure Pair where
  first : Array Nat
  second : Array Nat

namespace Pair

/-- The elements at two places are the same. -/
def isSame (p : Pair) (x y : Nat) : Bool :=
  match p.first[x]?, p.second[y]? with
  | some a, some b => a == b
  | _, _ => false

/-- Where the elements stop being the same from two places on. -/
def slideUp (p : Pair) (b : Box) : (fuel : Nat) → (x y : Nat) → Nat × Nat
  | 0, x, y => (x, y)
  | fuel + 1, x, y =>
    if x < b.right && y < b.bottom && p.isSame x y then p.slideUp b fuel (x + 1) (y + 1) else (x, y)

/-- Where the elements stop being the same in front of two places. -/
def slideDown (p : Pair) (b : Box) : (fuel : Nat) → (x y : Nat) → Nat × Nat
  | 0, x, y => (x, y)
  | fuel + 1, x, y =>
    if b.left < x && b.top < y && p.isSame (x - 1) (y - 1) then p.slideDown b fuel (x - 1) (y - 1)
    else (x, y)

/-- The place of a diagonal among the fronts. -/
def place (p : Pair) (diagonal : Int) : Nat :=
  (diagonal + p.second.size + 2).toNat

/-- How far a search has come on a diagonal. -/
def reached (p : Pair) (front : Array Int) (diagonal : Int) : Int :=
  front.getD (p.place diagonal) 0

/-- Notes how far a search has come on a diagonal. -/
def reach (p : Pair) (front : Array Int) (diagonal x : Int) : Array Int :=
  front.setIfInBounds (p.place diagonal) x

/-- The diagonals on which a search is. -/
structure Range where
  least : Int
  greatest : Int

/-- One step of the search from the beginning on every second diagonal, from a diagonal downwards.
It gives the place where the other search has come as far, if there is one. -/
def forwardSweep (p : Pair) (b : Box) (meets : Bool) (other : Range) (least : Int) :
    (fuel : Nat) → (diagonal : Int) → Fronts → Fronts × Option (Nat × Nat)
  | 0, _, fronts => (fronts, none)
  | fuel + 1, diagonal, fronts =>
    if diagonal < least then (fronts, none)
    else
      let low := p.reached fronts.forward (diagonal - 1)
      let high := p.reached fronts.forward (diagonal + 1)
      let x := if low < high then high else low + 1
      let (x, y) := p.slideUp b (b.right + 1) x.toNat (x - diagonal).toNat
      let fronts := { fronts with forward := p.reach fronts.forward diagonal x }
      if meets && other.least ≤ diagonal && diagonal ≤ other.greatest &&
          p.reached fronts.backward diagonal ≤ x then
        (fronts, some (x, y))
      else forwardSweep p b meets other least fuel (diagonal - 2) fronts

/-- One step of the search from the end. -/
def backwardSweep (p : Pair) (b : Box) (meets : Bool) (other : Range) (least : Int) :
    (fuel : Nat) → (diagonal : Int) → Fronts → Fronts × Option (Nat × Nat)
  | 0, _, fronts => (fronts, none)
  | fuel + 1, diagonal, fronts =>
    if diagonal < least then (fronts, none)
    else
      let low := p.reached fronts.backward (diagonal - 1)
      let high := p.reached fronts.backward (diagonal + 1)
      let x := if low < high then low else high - 1
      let (x, y) := p.slideDown b (b.right + 1) x.toNat (x - diagonal).toNat
      let fronts := { fronts with backward := p.reach fronts.backward diagonal x }
      if meets && other.least ≤ diagonal && diagonal ≤ other.greatest &&
          x ≤ p.reached fronts.forward diagonal then
        (fronts, some (x, y))
      else backwardSweep p b meets other least fuel (diagonal - 2) fronts

/-- More than any place. -/
def beyond (p : Pair) : Int := p.first.size + p.second.size + 4

/-- Searches from both ends, one step after another, until the searches meet. -/
def meeting (p : Pair) (b : Box) :
    (fuel : Nat) → (forward backward : Range) → Fronts → Fronts × (Nat × Nat)
  | 0, _, _, fronts => (fronts, (b.left, b.top))
  | fuel + 1, forward, backward, fronts =>
    let least : Int := b.left - b.bottom
    let greatest : Int := b.right - b.top
    let center : Int := (b.left : Int) - b.top
    let corner : Int := (b.right : Int) - b.bottom
    let isOdd := (center - corner) % 2 ≠ 0
    let size := b.right - b.left + (b.bottom - b.top) + 3
    let (low, front) := if least < forward.least
      then (forward.least - 1, p.reach fronts.forward (forward.least - 2) (-1))
      else (forward.least + 1, fronts.forward)
    let (high, front) := if forward.greatest < greatest
      then (forward.greatest + 1, p.reach front (forward.greatest + 2) (-1))
      else (forward.greatest - 1, front)
    let forward : Range := ⟨low, high⟩
    match p.forwardSweep b isOdd backward low size high { fronts with forward := front } with
    | (fronts, some found) => (fronts, found)
    | (fronts, none) =>
      let (low, front) := if least < backward.least
        then (backward.least - 1, p.reach fronts.backward (backward.least - 2) p.beyond)
        else (backward.least + 1, fronts.backward)
      let (high, front) := if backward.greatest < greatest
        then (backward.greatest + 1, p.reach front (backward.greatest + 2) p.beyond)
        else (backward.greatest - 1, front)
      match p.backwardSweep b (!isOdd) forward low size high { fronts with backward := front } with
      | (fronts, some found) => (fronts, found)
      | (fronts, none) => meeting p b fuel forward ⟨low, high⟩ fronts

/-- Where a part of two sequences is divided. -/
def middle (p : Pair) (b : Box) (fronts : Fronts) : Fronts × (Nat × Nat) :=
  let center : Int := (b.left : Int) - b.top
  let corner : Int := (b.right : Int) - b.bottom
  p.meeting b (b.right - b.left + (b.bottom - b.top) + 1) ⟨center, center⟩ ⟨corner, corner⟩
    { forward := p.reach fronts.forward center b.left
      backward := p.reach fronts.backward corner b.right }

end Pair

/-- The elements of two sequences that are marked. -/
structure Marks where
  first : Array Bool
  second : Array Bool

/-- Marks elements from a place on up to another one. -/
def markAll (marks : Array Bool) (start stop : Nat) : Array Bool :=
  (List.range (stop - start)).foldl (fun marks i => marks.setIfInBounds (start + i) true) marks

namespace Pair

/-- Marks what a part of two sequences does not have in common. -/
def compare (p : Pair) : (fuel : Nat) → Box → Fronts → Marks → Fronts × Marks
  | 0, _, fronts, marks => (fronts, marks)
  | fuel + 1, b, fronts, marks =>
    let (left, top) := p.slideUp b (b.right + 1) b.left b.top
    let b := { b with left, top }
    let (right, bottom) := p.slideDown b (b.right + 1) b.right b.bottom
    let b := { b with right, bottom }
    if b.left = b.right then (fronts, { marks with second := markAll marks.second b.top b.bottom })
    else if b.top = b.bottom then
      (fronts, { marks with first := markAll marks.first b.left b.right })
    else
      let (fronts, x, y) := p.middle b fronts
      let (fronts, marks) := compare p fuel { b with right := x, bottom := y } fronts marks
      compare p fuel { b with left := x, top := y } fronts marks

/-- Marks what two sequences do not have in common. -/
def marks (p : Pair) : Marks :=
  let (m, n) := (p.first.size, p.second.size)
  let front : Array Int := Array.replicate (m + n + 6) 0
  (p.compare (m + n + 1) ⟨0, m, 0, n⟩ ⟨front, front⟩
    ⟨Array.replicate m false, Array.replicate n false⟩).2

end Pair

/-!
## Elements that are left out of the search

An element that the other sequence does not have at all is left out.  One that the other has very often
is left out too if it stands among others that are left out, since it would say little.
-/

/-- Whether an element takes part in the search. -/
inductive Part where
  | taken
  /-- The other sequence does not have it. -/
  | dropped
  /-- The other sequence has it too often. -/
  | doubtful
deriving DecidableEq, Repr

/-- A number that is doubled for each of so many quarterings. -/
def doubled : (fuel : Nat) → (quarters n : Nat) → Nat
  | 0, _, n => n
  | fuel + 1, quarters, n => if quarters / 4 = 0 then n else doubled fuel (quarters / 4) (2 * n)

/-- How often each element is in a sequence. -/
def counts (xs : Array Nat) : Array Nat :=
  let greatest := xs.foldl max 0
  xs.foldl (fun counts x => counts.modify x (· + 1)) (Array.replicate (greatest + 1) 0)

/-- The first look at each element. -/
def firstLook (xs : Array Nat) (others : Array Nat) : Array Part :=
  let many := doubled 64 (xs.size / 64) 5
  xs.map fun x =>
    let n := others.getD x 0
    if n = 0 then .dropped else if many < n then .doubtful else .taken

/-- Takes the doubtful ones among some. -/
def settled : List Part → List Part :=
  List.map fun part => if part = .doubtful then .taken else part

/-- The lengths of the longest beginning of a run without doubtful ones at its end. -/
def firmLength (run : List Part) : Nat :=
  (run.reverse.dropWhile (· = .doubtful)).length

/-- Takes doubtful ones that stand together, as many as given or more; `pending` are those that stand
together so far. -/
def settleRows (least : Nat) : (pending : Nat) → List Part → List Part
  | pending, [] => List.replicate pending (if least ≤ pending then .taken else .doubtful)
  | pending, .doubtful :: rest => settleRows least (pending + 1) rest
  | pending, part :: rest =>
    List.replicate pending (if least ≤ pending then Part.taken else .doubtful) ++
      part :: settleRows least 0 rest

/-- Takes the doubtful ones at the beginning of a run, until three others follow each other or the run
has gone on for a while; `seen` are the elements so far, and `row` of them follow each other. -/
def settleFront : (seen row : Nat) → List Part → List Part
  | _, _, [] => []
  | seen, row, part :: rest =>
    if 8 ≤ seen ∧ part = .dropped then part :: rest
    else match part with
      | .doubtful => .taken :: settleFront (seen + 1) 0 rest
      | .taken => .taken :: settleFront (seen + 1) 0 rest
      | .dropped => if row = 2 then part :: rest else .dropped :: settleFront (seen + 1) (row + 1) rest

/-- Decides about the doubtful ones of a run, of which the first and the last are not doubtful. -/
def settleRun (run : List Part) : List Part :=
  let doubts := run.countP (· = .doubtful)
  if run.length < 4 * doubts then settled run
  else
    let least := doubled 64 (run.length / 4) 1 + 1
    let run := settleFront 0 0 (settleRows least 0 run)
    (settleFront 0 0 run.reverse).reverse

/-- Decides about all doubtful ones, run by run. -/
def settleAll : (fuel : Nat) → List Part → List Part
  | 0, parts => parts
  | _, [] => []
  | fuel + 1, .dropped :: rest =>
    let run := (Part.dropped :: rest).takeWhile (· ≠ .taken)
    let firm := run.take (firmLength run)
    settleRun firm ++ settleAll fuel ((Part.dropped :: rest).drop firm.length)
  | fuel + 1, _ :: rest => .taken :: settleAll fuel rest

/-- Which elements of a sequence take part, where the other one has elements so often. -/
def parts (xs others : Array Nat) : Array Bool :=
  let first := (firstLook xs others).toList
  ((settleAll (first.length + 1) first).map fun part => part == Part.taken).toArray

/-- The elements that take part, and their places. -/
def chosen (xs : Array Nat) (parts : Array Bool) : Array Nat × Array Nat :=
  (xs.zipIdx.filter fun (_, i) => parts.getD i true).unzip

/-- Marks what two sequences do not have in common, where elements that say little are left out. -/
def marksOf (isExact : Bool) (xs ys : Array Nat) : Marks :=
  let all (zs : Array Nat) : Array Bool := Array.replicate zs.size true
  let (xParts, yParts) :=
    if isExact then (all xs, all ys) else (parts xs (counts ys), parts ys (counts xs))
  let (xChosen, xPlaces) := chosen xs xParts
  let (yChosen, yPlaces) := chosen ys yParts
  let found := Pair.marks ⟨xChosen, yChosen⟩
  let spread (parts : Array Bool) (places : Array Nat) (marks : Array Bool) : Array Bool :=
    (places.zip marks).foldl (fun all (place, isMarked) => all.setIfInBounds place isMarked)
      (parts.map (!·))
  ⟨spread xParts xPlaces found.first, spread yParts yPlaces found.second⟩

/-!
## Where changes stand

A run of marked elements can often be moved: if the element in front of it is the same as its last one,
it may as well begin and end one earlier.  Runs are brought together in this way where that is
possible, and otherwise moved as far to the end as possible, or to a run of the other sequence.
-/

/-- A place is marked. -/
def isMarked (marks : Array Bool) (i : Nat) : Bool := marks.getD i false

/-- The first place from one on that is not marked. -/
def pastMarks (marks : Array Bool) : (fuel : Nat) → Nat → Nat
  | 0, i => i
  | fuel + 1, i => if isMarked marks i then pastMarks marks fuel (i + 1) else i

/-- The last place up to one that is not marked, or the first place. -/
def beforeMarks (marks : Array Bool) : (fuel : Nat) → Nat → Nat
  | 0, i => i
  | fuel + 1, i => if i ≠ 0 ∧ isMarked marks i then beforeMarks marks fuel (i - 1) else i

/-- The first place of the marked ones that end in front of a place. -/
def firstOfMarks (marks : Array Bool) : (fuel : Nat) → Nat → Nat
  | 0, i => i
  | fuel + 1, i => if i ≠ 0 ∧ isMarked marks (i - 1) then firstOfMarks marks fuel (i - 1) else i

/-- A run of marked elements that is moved. -/
structure Run where
  marks : Array Bool
  start : Nat
  stop : Nat
  /-- The place in the other sequence. -/
  other : Nat
  /-- Where the run last ended at a run of the other sequence. -/
  meeting : Option Nat

namespace Run

/-- Two elements are the same. -/
def isSame (xs : Array Nat) (i j : Nat) : Bool := xs[i]? == xs[j]?

/-- Moves the run to the front by one. -/
def moveBack (others : Array Bool) (r : Run) : Run :=
  { r with
    marks := (r.marks.setIfInBounds (r.start - 1) true).setIfInBounds (r.stop - 1) false
    start := r.start - 1
    stop := r.stop - 1
    other := beforeMarks others (r.other + 1) (r.other - 1) }

/-- Moves the run to the front as far as possible. -/
def moveFront (xs : Array Nat) (others : Array Bool) : (fuel : Nat) → Run → Run
  | 0, r => r
  | fuel + 1, r =>
    if r.start ≠ 0 && isSame xs (r.start - 1) (r.stop - 1) then
      let moved := r.moveBack others
      let start := firstOfMarks moved.marks (moved.start + 1) moved.start
      moveFront xs others fuel { moved with start }
    else r

/-- Moves the run to the end as far as possible. -/
def moveEnd (xs : Array Nat) (others : Array Bool) : (fuel : Nat) → Run → Run
  | 0, r => r
  | fuel + 1, r =>
    if r.stop ≠ xs.size && isSame xs r.start r.stop then
      let marks := (r.marks.setIfInBounds r.start false).setIfInBounds r.stop true
      let stop := pastMarks marks (xs.size + 1) (r.stop + 1)
      let other := pastMarks others (others.size + 1) (r.other + 1)
      let meeting := if other = r.other + 1 then r.meeting else some stop
      moveEnd xs others fuel { marks, start := r.start + 1, stop, other, meeting }
    else r

/-- Moves the run until it does not grow any more. -/
def grow (xs : Array Nat) (others : Array Bool) : (fuel : Nat) → Run → Run
  | 0, r => r
  | fuel + 1, r =>
    let size := r.stop - r.start
    let front := r.moveFront xs others (xs.size + 1)
    let isMet := front.other ≠ 0 && isMarked others (front.other - 1)
    let moved := Run.moveEnd xs others (xs.size + 1)
      { front with meeting := if isMet then some front.stop else none }
    if moved.stop - moved.start = size then moved else grow xs others fuel moved

/-- Moves the run back to where it met a run of the other sequence. -/
def settle (others : Array Bool) : (fuel : Nat) → Run → Run
  | 0, r => r
  | fuel + 1, r =>
    if r.meeting.any (· < r.stop) then (r.moveBack others).settle others fuel else r

end Run

/-- Moves all runs of a sequence from a place on; the other place is the one that corresponds to it. -/
def shiftedFrom (xs : Array Nat) (others : Array Bool) :
    (fuel : Nat) → (marks : Array Bool) → (i j : Nat) → Array Bool
  | 0, marks, _, _ => marks
  | fuel + 1, marks, i, j =>
    if xs.size ≤ i then marks
    else if isMarked marks i then
      let stop := pastMarks marks (xs.size + 1) (i + 1)
      let other := pastMarks others (others.size + 1) j
      let r := (Run.mk marks i stop other none).grow xs others (xs.size + 1)
      let r := r.settle others (xs.size + 1)
      shiftedFrom xs others fuel r.marks r.stop r.other
    else shiftedFrom xs others fuel marks (i + 1) (pastMarks others (others.size + 1) j + 1)

/-- Moves the runs of both sequences. -/
def shifted (xs ys : Array Nat) (m : Marks) : Marks :=
  let first := shiftedFrom xs m.second (xs.size + 1) m.first 0 0
  let second := shiftedFrom ys first (ys.size + 1) m.second 0 0
  ⟨first, second⟩

/-- A change: what is taken out of the first sequence, and what is put there from the second one. -/
structure Change where
  start : Nat
  removed : Nat
  otherStart : Nat
  added : Nat
deriving DecidableEq, Repr

/-- The changes that marks stand for, from two places on. -/
def changesFrom (m : Marks) : (fuel : Nat) → (i j : Nat) → List Change
  | 0, _, _ => []
  | fuel + 1, i, j =>
    if m.first.size ≤ i ∧ m.second.size ≤ j then []
    else
      let stop := pastMarks m.first (m.first.size + 1) i
      let otherStop := pastMarks m.second (m.second.size + 1) j
      if stop = i ∧ otherStop = j then changesFrom m fuel (i + 1) (j + 1)
      else ⟨i, stop - i, j, otherStop - j⟩ :: changesFrom m fuel stop otherStop

/-- The changes that lead from one sequence to another one. -/
def changes (isExact : Bool) (xs ys : Array Nat) : List Change :=
  let m := shifted xs ys (marksOf isExact xs ys)
  changesFrom m (xs.size + ys.size + 1) 0 0

end LineShell.Alignment
