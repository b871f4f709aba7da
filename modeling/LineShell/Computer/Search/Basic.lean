import LineShell.Text.Alphanumeric
import LineShell.Computer.Text.Integer
import LineShell.Computer.Text.Raw

/-!
# Expressions to search for

An expression describes texts.  Searched for in a text, it is found at the first place where some
text that it describes begins, and there as far as it reaches.  Parts of an expression may be groups,
which remember what they have matched; of several ways to match the same text, the one counts in
which the parts on the left reach as far as they can.

Texts are searched symbol by symbol: a symbol is a character, or a byte that is part of none.
-/

namespace LineShell.Search

/-- The number of a character, or a number beyond those of characters for a byte. -/
abbrev Symbol := Nat

/-- The number that stands for a byte which is part of no character, less the byte itself. -/
def strayBase : Nat := 0x110000

/-- The symbols of a raw text. -/
def symbols (t : Text) : Array Symbol :=
  ((Raw.units t).map fun (bytes, char) =>
    match char with
    | some c => c.toNat
    | none => strayBase + (bytes.headD ' ').toNat).toArray

/-- The symbols of a raw text each of whose bytes is one. -/
def byteSymbols (t : Text) : Array Symbol :=
  (t.map Char.toNat).toArray

/-- The raw text of a symbol. -/
def textOf (s : Symbol) : Text :=
  if s < 0x80 then [Char.ofNat s]
  else if strayBase ≤ s then [Char.ofNat (s - strayBase)]
  else Raw.ofText [Char.ofNat s]

/-- The raw text of a symbol that is a byte. -/
def byteTextOf (s : Symbol) : Text := [Char.ofNat s]

/-- A class of symbols. -/
inductive SymbolClass where
  | alnum | alpha | blank | cntrl | digit | graph | lower | print | punct | space | upper | xdigit
  /-- Letters, digits and the underscore. -/
  | word
deriving DecidableEq, Repr

namespace SymbolClass

/-- The classes, by their names. -/
def table : List (String × SymbolClass) :=
  [("alnum", alnum), ("alpha", alpha), ("blank", blank), ("cntrl", cntrl), ("digit", digit),
    ("graph", graph), ("lower", lower), ("print", print), ("punct", punct), ("space", space),
    ("upper", upper), ("xdigit", xdigit)]

/-- The ranges of letters other than those of English that are small. -/
def isSmall (s : Symbol) : Bool :=
  (0xDF ≤ s && s ≤ 0xFF && s ≠ 0xF7) || (0x3AC ≤ s && s ≤ 0x3CE) || (0x430 ≤ s && s ≤ 0x45F)

/-- The ranges of letters other than those of English that are capital. -/
def isCapital (s : Symbol) : Bool :=
  (0xC0 ≤ s && s ≤ 0xDE && s ≠ 0xD7) || (0x386 ≤ s && s ≤ 0x3AB && s ≠ 0x390) ||
    (0x400 ≤ s && s ≤ 0x42F)

/-- The symbol belongs to the class. -/
def holds (k : SymbolClass) (s : Symbol) : Bool :=
  if strayBase ≤ s then false
  else
    let c := Char.ofNat s
    match k with
    | alnum => if s < 0x80 then c.isAlphanum else isAlphanumeric c
    | alpha => if s < 0x80 then c.isAlpha else isAlphabetic c
    | word => c = '_' || (if s < 0x80 then c.isAlphanum else isAlphanumeric c)
    | blank => c = ' ' || c = '\t' || (0x80 ≤ s && isBlank c && s ≠ 0xA0 && s ≠ 0x85)
    | cntrl => s < 0x20 || s = 0x7F || (0x80 ≤ s && s < 0xA0)
    | digit => c.isDigit
    | graph => if s < 0x80 then 0x21 ≤ s && s ≤ 0x7E else 0xA0 < s && !isBlank c
    | lower => c.isLower || isSmall s
    | print => if s < 0x80 then 0x20 ≤ s && s ≤ 0x7E else 0xA0 ≤ s
    | punct => if s < 0x80 then 0x21 ≤ s && s ≤ 0x7E && !c.isAlphanum
      else 0xA0 < s && !isAlphanumeric c && !isBlank c
    | space => isSpace c || (0x80 ≤ s && isBlank c && s ≠ 0xA0)
    | upper => c.isUpper || isCapital s
    | xdigit => (digitIn? 16 c).isSome

end SymbolClass

/-- The small letter of a capital one; other symbols stay what they are. -/
def small (s : Symbol) : Symbol :=
  if 0x41 ≤ s ∧ s ≤ 0x5A then s + 0x20
  else if s < 0xC0 then s
  else if s ≤ 0xDE ∧ s ≠ 0xD7 then s + 0x20
  else if 0x391 ≤ s ∧ s ≤ 0x3A9 then s + 0x20
  else if 0x410 ≤ s ∧ s ≤ 0x42F then s + 0x20
  else if 0x400 ≤ s ∧ s ≤ 0x40F then s + 0x50
  else s

/-- The capital letter of a small one; other symbols stay what they are. -/
def capital (s : Symbol) : Symbol :=
  if 0x61 ≤ s ∧ s ≤ 0x7A then s - 0x20
  else if s < 0xE0 then s
  else if s ≤ 0xFE ∧ s ≠ 0xF7 then s - 0x20
  else if 0x3B1 ≤ s ∧ s ≤ 0x3C9 ∧ s ≠ 0x3C2 then s - 0x20
  else if 0x430 ≤ s ∧ s ≤ 0x44F then s - 0x20
  else if 0x450 ≤ s ∧ s ≤ 0x45F then s - 0x50
  else s

/-- What a set between brackets names. -/
inductive SetItem where
  | single (s : Symbol)
  | range (first last : Symbol)
  | named (k : SymbolClass)
deriving DecidableEq, Repr

/-- The item names a symbol. -/
def SetItem.holds (s : Symbol) : SetItem → Bool
  | .single t => s = t
  | .range first last => first ≤ s && s ≤ last
  | .named k => k.holds s

/-- A place between symbols of a special kind. -/
inductive Mark where
  | lineStart | lineEnd | textStart | textEnd | wordStart | wordEnd | wordEdge | noWordEdge
deriving DecidableEq, Repr

/-- An expression. -/
inductive Expression where
  /-- It describes the empty text. -/
  | empty
  /-- Any one character. -/
  | any
  | literal (s : Symbol)
  /-- One symbol that some items name, or one that they do not. -/
  | set (negated : Bool) (items : List SetItem)
  | inOrder (first second : Expression)
  | either (first second : Expression)
  /-- The same several times in a row, rather as often as possible or rather as seldom. -/
  | repeated (e : Expression) (least : Nat) (most : Option Nat) (isLazy : Bool)
  /-- What is matched is remembered under a number. -/
  | group (n : Nat) (e : Expression)
  /-- What a group has matched. -/
  | again (n : Nat)
  | mark (m : Mark)
  /-- What is `ahead` of a place, or else what is before it, is or is not as described. -/
  | look (ahead negated : Bool) (e : Expression)
  /-- What has been matched before does not belong to the match. -/
  | cut
deriving DecidableEq, Repr

/-- What is searched, and how. -/
structure Subject where
  text : Array Symbol
  ignoresCase : Bool
  /-- Lines within the text have starts and ends of their own. -/
  isMultiline : Bool
  /-- Of several alternatives the first one counts, not the one that reaches farthest. -/
  takesFirst : Bool

/-- Where matching has come to. -/
structure Place where
  position : Nat
  /-- The groups that have been matched, with their beginnings and ends. -/
  groups : List (Nat × Nat × Nat)
deriving DecidableEq, Repr

/-- The number under which the place is remembered where a match begins after all. -/
def cutNumber : Nat := 1000000

/-- A match: its beginning, its end, and the groups within it. -/
structure Found where
  first : Nat
  last : Nat
  groups : List (Nat × Nat × Nat)
deriving DecidableEq, Repr

namespace Subject

/-- The symbol at a position is one of a word. -/
def isWordAt (s : Subject) (i : Nat) : Bool :=
  (s.text[i]?).any SymbolClass.word.holds

/-- A mark holds at a position. -/
def marked (s : Subject) (m : Mark) (i : Nat) : Bool :=
  let before := i ≠ 0 && s.isWordAt (i - 1)
  let after := s.isWordAt i
  let isNewline (j : Nat) : Bool := s.text[j]? = some 10
  match m with
  | .textStart => i = 0
  | .textEnd => i = s.text.size
  | .lineStart => i = 0 || (s.isMultiline && isNewline (i - 1))
  | .lineEnd => i = s.text.size || (s.isMultiline && isNewline i)
  | .wordStart => !before && after
  | .wordEnd => before && !after
  | .wordEdge => before != after
  | .noWordEdge => before == after

/-- Two symbols are the same, or differ only in their case if that does not matter. -/
def areSame (s : Subject) (a b : Symbol) : Bool :=
  a = b || (s.ignoresCase && small a = small b)

/-- One symbol is described by an expression for single symbols; nothing for other expressions. -/
def one? (s : Subject) (a : Symbol) : Expression → Option Bool
  | .any => some (a < strayBase)
  | .literal b => some (s.areSame a b)
  | .set negated items =>
    let holds (a : Symbol) : Bool := items.any (SetItem.holds a)
    let isNamed := holds a || (s.ignoresCase && (holds (small a) || holds (capital a)))
    some (if negated then !isNamed && decide (a < strayBase) else isNamed)
  | _ => none

/-- An expression describes single symbols. -/
def isSingle : Expression → Bool
  | .any => true
  | .literal _ => true
  | .set .. => true
  | _ => false

/-- How many symbols from a position on are described by an expression for single symbols, at most
as many as given. -/
def runLength (s : Subject) (e : Expression) : (most : Nat) → (i : Nat) → Nat
  | 0, _ => 0
  | most + 1, i =>
    match s.text[i]? with
    | none => 0
    | some a => if (s.one? a e).getD false then s.runLength e most (i + 1) + 1 else 0

/-- Places without those that come again, which count as the same if their positions are, unless
groups matter too. -/
def distinct (groupsMatter : Bool) : (seen : List Place) → List Place → List Place
  | _, [] => []
  | seen, p :: ps =>
    let isSeen := seen.any fun q =>
      q.position = p.position && (!groupsMatter || q.groups = p.groups)
    if isSeen then distinct groupsMatter seen ps else p :: distinct groupsMatter (p :: seen) ps

/-- Places, those first that are farther. -/
def farthestFirst (ps : List Place) : List Place :=
  ps.mergeSort fun p q => q.position ≤ p.position

/-- All places that are reached by one step or several from some places, where those that are
`known` have been reached with fewer. -/
def reached (groupsMatter : Bool) (step : Place → List Place) (most : Option Nat) :
    (fuel : Nat) → (known frontier : List Place) → (count : Nat) → List Place
  | 0, known, _, _ => known
  | fuel + 1, known, frontier, count =>
    if frontier.isEmpty || most = some count then known
    else
      let isNew (p : Place) : Bool := !known.any fun q =>
        q.position = p.position && (!groupsMatter || q.groups = p.groups)
      let next := distinct groupsMatter [] ((frontier.flatMap step).filter isNew)
      reached groupsMatter step most fuel (next ++ known) next (count + 1)

/-- The places that are reached by exactly `n` steps. -/
def afterSteps (groupsMatter : Bool) (step : Place → List Place) :
    (n : Nat) → List Place → List Place
  | 0, ps => ps
  | n + 1, ps => afterSteps groupsMatter step n (distinct groupsMatter [] (ps.flatMap step))

/-- Where the texts that an expression describes end if they begin at a place, the end that counts
before the others first. -/
def ends (s : Subject) (groupsMatter : Bool) : Expression → Place → List Place
  | .empty, p => [p]
  | .mark m, p => if s.marked m p.position then [p] else []
  | .inOrder a b, p =>
    match s.ends groupsMatter a p with
    | [] => []
    | [q] => s.ends groupsMatter b q
    | qs => distinct groupsMatter [] (qs.flatMap (s.ends groupsMatter b))
  | .either a b, p =>
    let both := distinct groupsMatter [] (s.ends groupsMatter a p ++ s.ends groupsMatter b p)
    if s.takesFirst then both else farthestFirst both
  | .group n e, p =>
    (s.ends groupsMatter e p).map fun q =>
      { q with groups := (n, p.position, q.position) :: q.groups.filter (·.1 ≠ n) }
  | .again n, p =>
    match p.groups.lookup n with
    | none => []
    | some (first, last) =>
      let size := last - first
      let isAgain := p.position + size ≤ s.text.size && (List.range size).all fun i =>
        s.areSame (s.text.getD (first + i) 0) (s.text.getD (p.position + i) 0)
      if isAgain then [{ p with position := p.position + size }] else []
  | .repeated e least most isLazy, p =>
    let found :=
      if isSingle e then
        let n := s.runLength e (most.getD s.text.size) p.position
        if n < least then []
        else (List.range (n + 1 - least)).map fun i => { p with position := p.position + n - i }
      else
        let step := s.ends groupsMatter e
        let start := afterSteps groupsMatter step least [p]
        farthestFirst (reached groupsMatter step (most.map (· - least)) (s.text.size + 1)
          start start 0)
    if isLazy then found.reverse else found
  | .look ahead negated e, p =>
    let isThere := if ahead then !(s.ends groupsMatter e p).isEmpty
      else (List.range (p.position + 1)).any fun i =>
        (s.ends groupsMatter e { p with position := i }).any (·.position = p.position)
    if isThere != negated then [p] else []
  | .cut, p => [{ p with groups :=
      (cutNumber, p.position, p.position) :: p.groups.filter (·.1 ≠ cutNumber) }]
  | .any, p => single s .any p
  | .literal a, p => single s (.literal a) p
  | .set negated items, p => single s (.set negated items) p
where
  /-- The end of a single symbol. -/
  single (s : Subject) (e : Expression) (p : Place) : List Place :=
    match s.text[p.position]? with
    | none => []
    | some a =>
      if (s.one? a e).getD false then [{ p with position := p.position + 1 }] else []

end Subject

namespace Expression

/-- The expression speaks of what a group has matched. -/
def looksBack : Expression → Bool
  | again _ => true
  | look _ _ e => e.looksBack
  | inOrder a b => a.looksBack || b.looksBack
  | either a b => a.looksBack || b.looksBack
  | repeated e .. => e.looksBack
  | group _ e => e.looksBack
  | _ => false

/-- The expression describes the empty text, or perhaps does. -/
def mayBeEmpty : Expression → Bool
  | empty => true
  | mark _ => true
  | again _ => true
  | look .. => true
  | cut => true
  | inOrder a b => a.mayBeEmpty && b.mayBeEmpty
  | either a b => a.mayBeEmpty || b.mayBeEmpty
  | repeated e least .. => least = 0 || e.mayBeEmpty
  | group _ e => e.mayBeEmpty
  | _ => false

/-- A text that the expression describes may begin with a symbol, unless it is empty. -/
def mayBegin (s : Subject) (a : Symbol) : Expression → Bool
  | inOrder e f => e.mayBegin s a || (e.mayBeEmpty && f.mayBegin s a)
  | either e f => e.mayBegin s a || f.mayBegin s a
  | repeated e .. => e.mayBegin s a
  | group _ e => e.mayBegin s a
  | again _ => true
  | empty => false
  | mark _ => false
  | look .. => false
  | cut => false
  | any => (s.one? a .any).getD true
  | literal b => (s.one? a (.literal b)).getD true
  | set negated items => (s.one? a (.set negated items)).getD true

/-- The match that begins at a position, if there is one. -/
def matchAt (e : Expression) (s : Subject) (i : Nat) : Option Found :=
  let found := s.ends e.looksBack e ⟨i, []⟩
  let best := if s.takesFirst then found.head? else
    found.foldl (fun best p =>
      match best with
      | none => some p
      | some q => if q.position < p.position then some p else some q) none
  best.map fun p => ⟨((p.groups.lookup cutNumber).map Prod.fst).getD i, p.position, p.groups⟩

/-- The first match from a position on, among at most `fuel` positions. -/
def searchWithin (e : Expression) (s : Subject) (mayBeEmpty : Bool) :
    (fuel : Nat) → (i : Nat) → Option Found
  | 0, _ => none
  | fuel + 1, i =>
    let isPossible := mayBeEmpty || (s.text[i]?).any fun a => e.mayBegin s a
    match if isPossible then e.matchAt s i else none with
    | some found => some found
    | none => e.searchWithin s mayBeEmpty fuel (i + 1)

/-- The first match from a position on. -/
def search (e : Expression) (s : Subject) (i : Nat) : Option Found :=
  e.searchWithin s e.mayBeEmpty (s.text.size + 1 - i) i

end Expression

namespace Found

/-- What a match or one of its groups has matched; the match itself is number zero. -/
def group? (found : Found) (n : Nat) : Option (Nat × Nat) :=
  if n = 0 then some (found.first, found.last) else found.groups.lookup n

end Found

end LineShell.Search
