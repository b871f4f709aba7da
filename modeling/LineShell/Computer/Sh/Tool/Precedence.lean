import LineShell.Computer.Sh.Tool.Basic

/-!
# The tool that puts words in an order

Pairs of words say which word comes before which other one.  The words are written so that each comes
after all that come before it.  Where some of them form a loop, the loop is told, and one of its pairs
is left out.
-/

namespace LineShell.Sh.Tool

namespace Precedence

/-- A word, and what pairs say of it. -/
structure Item where
  name : Text
  /-- How many pairs say that another word comes before it. -/
  count : Nat
  /-- The words that come after it by some pair, the pair that was read last first. -/
  after : List Nat
  isPrinted : Bool
  /-- The next word in a chain that may become a loop. -/
  link : Option Nat
deriving Repr

/-- Words in the order of their bytes. -/
abbrev Items := Array Item

/-- The words of a text, which blanks, tabs and newlines divide. -/
def wordsOf (t : Text) : List Text :=
  go [] t
where
  /-- The words of what is left, of which the first one has begun; its characters are reversed. -/
  go : Text → Text → List Text
    | [], [] => []
    | word, [] => [word.reverse]
    | word, c :: cs =>
      if c = ' ' ∨ c = '\t' ∨ c = '\n' then
        if word.isEmpty then go [] cs else word.reverse :: go [] cs
      else go (c :: word) cs

/-- The words in pairs, if there is none left over. -/
def pairsOf? : List Text → Option (List (Text × Text))
  | [] => some []
  | [_] => none
  | a :: b :: rest => (pairsOf? rest).map ((a, b) :: ·)

/-- The words without those that are equal to the one before. -/
def withoutRepeats : List Text → List Text
  | a :: b :: rest => if a = b then withoutRepeats (b :: rest) else a :: withoutRepeats (b :: rest)
  | ts => ts

/-- The place of a word among those in order, between two places; it is there. -/
def placeOf (names : Array Text) (t : Text) : (fuel : Nat) → (low high : Nat) → Nat
  | 0, low, _ => low
  | fuel + 1, low, high =>
    if high ≤ low + 1 then low
    else
      let middle := (low + high) / 2
      if comesFirst (names.getD middle []) t then placeOf names t fuel middle high
      else placeOf names t fuel low middle

/-- The words of pairs, with what the pairs say. -/
def ofPairs (pairs : List (Text × Text)) : Items :=
  let names := (withoutRepeats (sorted (pairs.flatMap fun (a, b) => [a, b]))).toArray
  let place (t : Text) : Nat := placeOf names t 64 0 names.size
  let items : Items := names.map fun name => ⟨name, 0, [], false, none⟩
  pairs.foldl (fun items (a, b) =>
    if a = b then items
    else
      let i := place a
      let j := place b
      let items := items.modify j fun item => { item with count := item.count + 1 }
      items.modify i fun item => { item with after := j :: item.after }) items

/-- Lets a word no longer come before others; what no other word comes before any more is told. -/
def released : (after : List Nat) → Items → Items × List Nat
  | [], items => (items, [])
  | j :: after, items =>
    let items := items.modify j fun item => { item with count := item.count - 1 }
    let isFree := (items[j]?.map (·.count)) == some 0
    let (items, free) := released after items
    (items, if isFree then j :: free else free)

/-- Takes words from a queue until it is empty, and gives the words in order. -/
def drained : (fuel : Nat) → (queue : List Nat) → (names : List Text) → Items → List Text × Items
  | 0, _, names, items => (names, items)
  | _, [], names, items => (names, items)
  | fuel + 1, i :: queue, names, items =>
    match items[i]? with
    | none => (names, items)
    | some item =>
      let items := items.modify i fun item => { item with isPrinted := true }
      let (items, free) := released item.after items
      drained fuel (queue ++ free) (item.name :: names) items

/-- The words along a chain, as far as a word. -/
def chain (items : Items) (last : Nat) : (fuel : Nat) → (first : Nat) → List Nat
  | 0, _ => []
  | fuel + 1, i =>
    if i = last then [i]
    else
      match items[i]?.bind (·.link) with
      | some next => i :: chain items last fuel next
      | none => [i]

/-- Looks at words in order for one that comes before the first one of a chain, which is put in front
of it then.  If it is in the chain already, there is a loop. -/
def followed (head : Option Nat) (items : Items) : List Nat → Option Nat × Items × Option Nat
  | [] => (head, items, none)
  | i :: rest =>
    match items[i]?, head with
    | none, _ => followed head items rest
    | some item, none =>
      if item.count = 0 then followed none items rest else followed (some i) items rest
    | some item, some h =>
      if item.count = 0 ∨ ¬ item.after.contains h then followed head items rest
      else if item.link.isSome then (head, items, some i)
      else followed (some i) (items.modify i fun item => { item with link := some h }) rest

/-- The words of a loop, and the words without one of the pairs that form it. -/
def loop : (fuel : Nat) → (head : Option Nat) → Items → List Nat × Items
  | 0, _, items => ([], items)
  | fuel + 1, head, items =>
    match followed head items (List.range items.size) with
    | (some h, items, some i) =>
      let words := chain items i items.size h
      let items := items.modify h fun item => { item with count := item.count - 1 }
      let items := items.modify i fun item => { item with after := item.after.erase h }
      (words, items.map fun item => { item with link := none })
    | (head, items, _) => loop fuel head items

/-- Writes the words in order, and tells the loops among them. -/
def write (file : Text) : (fuel : Nat) → Items → Task Int
  | 0, _ => return 1
  | fuel + 1, items => do
    let free := (List.range items.size).filter fun i =>
      items[i]?.any fun item => item.count = 0 && !item.isPrinted
    let (names, items) := drained (items.size + 1) free [] items
    for name in names.reverse do
      printLine name
    if items.all (·.isPrinted) then return 0
    complain (file ++ ": input contains a loop:".toList)
    let (words, items) := loop (items.size + 2) none items
    for i in words do
      complain ((items[i]?.map (·.name)).getD [])
    let _ ← write file fuel items
    return 1

end Precedence

/-- Writes words in the order that pairs of them say. -/
def tsort (_ : Given) (operands : List Text) : Task Int := do
  if let some extra := operands[1]? then return ← refuseExtra extra
  let path := operands.headD ['-']
  let file := Quoting.beforeColon path
  match ← bytesOf path with
  | .error .isDirectory =>
    complain (file ++ ": read error: Is a directory".toList)
    return 1
  | .error fault =>
    complainAbout path fault
    return 1
  | .ok bytes =>
    let words := Precedence.wordsOf (Raw.ofBytes bytes)
    match Precedence.pairsOf? words with
    | none =>
      complain (file ++ ": input contains an odd number of tokens".toList)
      return 1
    | some pairs =>
      let items := Precedence.ofPairs pairs
      Precedence.write file (words.length + 1) items

end LineShell.Sh.Tool
