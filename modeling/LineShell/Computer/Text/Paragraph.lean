import LineShell.Computer.Text.Integer

/-!
# Paragraphs

The words of a paragraph are put on lines so that the lines are about as long as wanted and about as
long as each other, and so that breaks are where sentences end rather than within them.  Each break has
a cost, and the breaks are chosen whose costs are the least.
-/

namespace LineShell.Paragraph

/-- A word of a paragraph. -/
structure Word where
  text : Text
  /-- How many blanks follow. -/
  space : Nat
  /-- It begins with something that opens. -/
  opens : Bool
  /-- It ends with a point or the like, perhaps within something that closes. -/
  isPeriod : Bool
  /-- It ends with a mark. -/
  isMarked : Bool
  /-- It ends a sentence. -/
  isFinal : Bool
deriving Repr

/-- The word is a mark that is no letter, no digit and no blank. -/
def isMark (c : Char) : Bool :=
  '!' ≤ c && c ≤ '~' && !c.isAlphanum

/-- A word of some characters, before it is known what follows it. -/
def Word.ofText (text : Text) : Word :=
  let closed := text.reverse.dropWhile fun c => ")]'\"".toList.contains c
  let last := closed.head?.orElse fun _ => text.head?
  { text
    space := 0
    opens := text.head?.any fun c => "(['\x60\"".toList.contains c
    isPeriod := last.any fun c => ".?!".toList.contains c
    isMarked := text.getLast?.any isMark
    isFinal := false }

/-- How lines are filled. -/
structure Measure where
  /-- How long a line may be. -/
  width : Nat
  /-- How long a line should be. -/
  goal : Nat
  /-- Where the first line begins. -/
  first : Nat
  /-- Where other lines begin. -/
  other : Nat
  /-- How long the line in front of the paragraph is, or zero. -/
  before : Nat

/-- The square of a number. -/
def square (n : Int) : Int := n * n

/-- The cost of a line that is longer or shorter than it should be. -/
def shortCost (n : Int) : Int := square (n * 10)

/-- The cost of the difference of two lines. -/
def raggedCost (n : Int) : Int := shortCost n / 2

/-- What is known of the best way to break the lines from a word on. -/
structure Plan where
  cost : Int
  /-- The word with which the next line begins. -/
  next : Nat
  /-- Where the line ends. -/
  column : Nat
deriving Repr

/-- The cost that a break in front of a word has wherever the line begins. -/
def baseCost (words : Array Word) (i : Nat) : Int :=
  let word? (k : Nat) : Option Word := if k ≤ i then words[i - k]? else none
  let ofPrevious : Int := match word? 1 with
    | none => 0
    | some w =>
      if w.isPeriod then (if w.isFinal then -square 50 else square 600)
      else if w.isMarked then -square 40
      else if (word? 2).any (·.isFinal) then square 200 / (w.text.length + 2)
      else 0
  let ofWord : Int := match words[i]? with
    | none => 0
    | some w =>
      if w.opens then -square 40
      else if w.isFinal then square 150 / (w.text.length + 2)
      else 0
  square 70 + ofPrevious + ofWord

/-- The cost of a line that ends at a column before a word with which the next line begins. -/
def lineCost (m : Measure) (count : Nat) (next : Option Plan) (column : Nat) : Int :=
  match next with
  | none => 0
  | some p =>
    shortCost (m.goal - column) + (if p.next ≠ count then raggedCost ((column : Int) - p.column) else 0)

/-- The best one of the ways to end the line that begins with a word.  `column` is where the line ends
if it is broken before the word `j`, and `plans` are those of the words from there on; at most `fuel`
words are looked at. -/
def bestBreak (m : Measure) (words : Array Word) (isFirst : Bool) :
    (fuel : Nat) → (j column : Nat) → (plans : List Plan) → Option Plan → Option Plan
  | 0, _, _, _, best => best
  | fuel + 1, j, column, plans, best =>
    let next := plans.head?
    let ragged : Int := if isFirst ∧ m.before ≠ 0 then raggedCost ((column : Int) - m.before) else 0
    let cost := lineCost m words.size next column + ((next.map (·.cost)).getD 0) + ragged
    let best := if best.all fun p => cost < p.cost then some ⟨cost, j, column⟩ else best
    match words[j]?, words[j - 1]? with
    | some w, some previous =>
      let column := column + previous.space + w.text.length
      if column < m.width then bestBreak m words isFirst fuel (j + 1) column (plans.drop 1) best else best
    | _, _ => best

/-- The best ways to break the lines from each word on; `i` words are still without one. -/
def plansFrom (m : Measure) (words : Array Word) : (i : Nat) → List Plan → List Plan
  | 0, plans => plans
  | i + 1, plans =>
    let length := (words[i]?.map fun w => w.text.length).getD 0
    let column := (if i = 0 then m.first else m.other) + length
    let best := bestBreak m words (i = 0) (words.size + 1) (i + 1) column plans none
    let plan := best.getD ⟨0, i + 1, column⟩
    plansFrom m words i ({ plan with cost := plan.cost + baseCost words i } :: plans)

/-- The best ways to break the lines of a paragraph from each word on. -/
def plans (m : Measure) (words : Array Word) : Array Plan :=
  (plansFrom m words words.size []).toArray

/-- The words with which lines begin, up to a word, and that word. -/
def starts (plans : Array Plan) (last : Nat) : (fuel : Nat) → (i : Nat) → List Nat
  | 0, _ => []
  | fuel + 1, i =>
    if last ≤ i then [i]
    else i :: starts plans last fuel ((plans[i]?.map (·.next)).getD last)

/-- What a break is allowed to cost more for each line that is before it. -/
def lineCredit : Int := square 3

/-- Where a long paragraph is best cut in two, as far as it is known: the word with which the second part
begins. -/
def cut (plans : Array Plan) : (fuel : Nat) → (i : Nat) → (best : Option (Nat × Int)) → Nat
  | 0, _, best => (best.map Prod.fst).getD plans.size
  | fuel + 1, i, best =>
    match plans[i]? with
    | none => (best.map Prod.fst).getD plans.size
    | some p =>
      let cost := p.cost - ((plans[p.next]?.map (·.cost)).getD 0)
      let best := if best.all fun b => cost < b.2 then some (i, cost) else best
      cut plans fuel p.next (best.map fun b => (b.1, b.2 + lineCredit))

end LineShell.Paragraph
