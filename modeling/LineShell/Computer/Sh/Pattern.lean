import LineShell.Computer.Search.Basic
import LineShell.Computer.Sh.Script

/-!
# Patterns

Patterns match whole texts: a star any text, a question mark any character, brackets one character
of a set, and everything else itself.  Characters that stood in quotes or follow a backslash only
ever match themselves.
-/

namespace LineShell.Sh

/-- A character of an expanded word. -/
structure Glyph where
  char : Char
  /-- It stood in quotes. -/
  quoted : Bool
deriving DecidableEq, Repr

namespace Glyph

/-- The characters of a text that stood outside quotes. -/
def plain (t : Text) : List Glyph :=
  t.map (⟨·, false⟩)

/-- The characters of a text that stood in quotes. -/
def quotes (t : Text) : List Glyph :=
  t.map (⟨·, true⟩)

/-- The characters as text. -/
def text (gs : List Glyph) : Text :=
  gs.map Glyph.char

/-- The character stands for itself. -/
def isLiteral (g : Glyph) : Bool :=
  g.quoted || !(g.char ∈ ['*', '?', '['])

/-- Raw characters, with those that spell one character as one. -/
def characters (gs : List Glyph) : List Glyph :=
  let units := Raw.units (text gs)
  (units.foldl (fun (found, left) (bytes, c) =>
      let stray := Char.ofNat (Raw.strayBase + (bytes.headD ' ').toNat)
      (⟨c.getD stray, (left.head?.map Glyph.quoted).getD false⟩ :: found, left.drop bytes.length))
    (([], gs) : List Glyph × List Glyph)).1.reverse

end Glyph

/-- One member of a set of characters. -/
inductive Member where
  /-- The characters from one to another. -/
  | range (a b : Char)
  /-- The characters of a class that has a name, among bytes or among all characters. -/
  | named (name : Text) (spelled : Bool)
deriving DecidableEq, Repr

/-- How often one of the choices of a group is there. -/
inductive Frequency where
  | once
  | perhaps
  | often
  | anyTimes
  /-- None of them is what is there. -/
  | never
deriving DecidableEq, Repr

/-- One element of a pattern. -/
inductive Element where
  /-- Any text. -/
  | many
  /-- Any character. -/
  | one
  /-- One character of a set, or one that is not in it. -/
  | among (negated : Bool) (members : List Member)
  /-- This character. -/
  | exactly (c : Char)
  /-- Texts of which patterns describe each. -/
  | group (frequency : Frequency) (choices : List (List Element))
deriving Repr

/-- How patterns are read. -/
structure PatternRules where
  /-- The signs that negate a set of characters. -/
  negations : Text
  /-- There are groups. -/
  groups : Bool
  /-- Texts are raw, and bytes that spell a character are one. -/
  spelled : Bool
  /-- Small and capital letters are the same. -/
  folds : Bool
deriving DecidableEq, Repr

namespace PatternRules

/-- The rules of the common language. -/
def common : PatternRules := ⟨['!'], false, false, false⟩

/-- The rules for the names of files that tools are given. -/
def fileNames : PatternRules := ⟨['!', '^'], false, true, false⟩

end PatternRules

/-- A pattern. -/
structure Pattern where
  rules : PatternRules
  elements : List Element
deriving Repr

/-- The named classes of characters. -/
def characterClasses : List (String × (Char → Bool)) :=
  let isPrinted (c : Char) : Bool := '!' ≤ c && c ≤ '~'
  [("alnum", Char.isAlphanum), ("alpha", Char.isAlpha), ("blank", fun c => c = ' ' || c = '\t'),
    ("cntrl", fun c => c < ' ' || c = '\x7f'), ("digit", Char.isDigit), ("graph", isPrinted),
    ("lower", Char.isLower), ("print", fun c => c = ' ' || isPrinted c),
    ("punct", fun c => isPrinted c && !c.isAlphanum),
    ("space", fun c => c = ' ' || ('\t' ≤ c && c ≤ '\x0d')), ("upper", Char.isUpper),
    ("xdigit", fun c => c.isDigit || ('a' ≤ c && c ≤ 'f') || ('A' ≤ c && c ≤ 'F'))]

/-- The name of a class between colons at the beginning of a text, after the bracket before it, and
what follows the bracket behind it. -/
def className? : List Glyph → Option (Text × List Glyph)
  | ⟨':', false⟩ :: gs =>
    let name := gs.takeWhile fun g => !g.quoted && g.char.isLower
    match gs.drop name.length with
    | ⟨':', false⟩ :: ⟨']', false⟩ :: gs =>
      if (characterClasses.lookup (String.ofList (Glyph.text name))).isSome then
        some (Glyph.text name, gs)
      else none
    | _ => none
  | _ => none

namespace Pattern

/-- The first character of a set, which may follow a backslash, and what follows it. -/
def memberChar? : List Glyph → Option (Char × List Glyph)
  | [] => none
  | ⟨'\\', false⟩ :: g :: gs => some (g.char, gs)
  | g :: gs => some (g.char, gs)

/-- The members of a set up to the bracket that closes it, read in at most `fuel` steps, and what
follows the bracket.  A bracket at the beginning of a set is one of its characters. -/
def members? (spelled : Bool) : (fuel : Nat) → (atStart : Bool) → List Glyph → Option (List Member × List Glyph)
  | 0, _, _ => none
  | _, _, [] => none
  | fuel + 1, atStart, g :: gs =>
    if g = ⟨']', false⟩ ∧ ¬ atStart then some ([], gs)
    else
      match if g = ⟨'[', false⟩ then className? gs else none with
      | some (name, gs) => (members? spelled fuel false gs).map fun r => (.named name spelled :: r.1, r.2)
      | none =>
        match memberChar? (g :: gs) with
        | none => none
        | some (a, ⟨'-', false⟩ :: h :: rest) =>
          if h = ⟨']', false⟩ then
            (members? spelled fuel false (⟨'-', false⟩ :: h :: rest)).map fun r => (.range a a :: r.1, r.2)
          else
            match memberChar? (h :: rest) with
            | none => none
            | some (b, gs) => (members? spelled fuel false gs).map fun r => (.range a b :: r.1, r.2)
        | some (a, gs) => (members? spelled fuel false gs).map fun r => (.range a a :: r.1, r.2)

/-- The set after an opening bracket, and what follows it.  A sign in front negates it. -/
def set? (rules : PatternRules) (gs : List Glyph) : Option (Element × List Glyph) :=
  match gs with
  | ⟨c, false⟩ :: rest =>
    if rules.negations.contains c then
      (members? rules.spelled gs.length true rest).map fun r => (.among true r.1, r.2)
    else (members? rules.spelled (gs.length + 1) true gs).map fun r => (.among false r.1, r.2)
  | gs => (members? rules.spelled (gs.length + 1) true gs).map fun r => (.among false r.1, r.2)

/-- How often the choices of a group are there, by the sign in front of it. -/
def frequency? : Char → Option Frequency
  | '@' => some .once
  | '?' => some .perhaps
  | '+' => some .often
  | '*' => some .anyTimes
  | '!' => some .never
  | _ => none

/-- The choices of a group up to the bracket that closes it, where some others are open, and what
follows the bracket.  `current` is the choice that is read, last character first. -/
def choices? (depth : Nat) (current : List Glyph) :
    List Glyph → Option (List (List Glyph) × List Glyph)
  | [] => none
  | ⟨'\\', false⟩ :: g :: gs => choices? depth (g :: ⟨'\\', false⟩ :: current) gs
  | ⟨'(', false⟩ :: gs => choices? (depth + 1) (⟨'(', false⟩ :: current) gs
  | ⟨')', false⟩ :: gs =>
    match depth with
    | 0 => some ([current.reverse], gs)
    | depth + 1 => choices? depth (⟨')', false⟩ :: current) gs
  | ⟨'|', false⟩ :: gs =>
    if depth = 0 then (choices? 0 [] gs).map fun (more, rest) => (current.reverse :: more, rest)
    else choices? depth (⟨'|', false⟩ :: current) gs
  | g :: gs => choices? depth (g :: current) gs

/-- The elements that an expanded word makes, read in at most `fuel` steps. -/
def read (rules : PatternRules) : (fuel : Nat) → List Glyph → List Element
  | 0, _ => []
  | _, [] => []
  | fuel + 1, g :: gs =>
    let group : Option (Frequency × List (List Glyph) × List Glyph) :=
      match gs with
      | ⟨'(', false⟩ :: inside =>
        if rules.groups ∧ ¬ g.quoted then
          (frequency? g.char).bind fun frequency =>
            (choices? 0 [] inside).map fun found => (frequency, found)
        else none
      | _ => none
    match group with
    | some (frequency, choices, rest) =>
      .group frequency (choices.map (read rules fuel)) :: read rules fuel rest
    | none =>
      match g, gs with
      | ⟨'\\', false⟩, h :: gs => .exactly h.char :: read rules fuel gs
      | ⟨'*', false⟩, gs => .many :: read rules fuel gs
      | ⟨'?', false⟩, gs => .one :: read rules fuel gs
      | ⟨'[', false⟩, gs =>
        match set? rules gs with
        | some (element, gs) => element :: read rules fuel gs
        | none => .exactly '[' :: read rules fuel gs
      | g, gs => .exactly g.char :: read rules fuel gs

/-- The small letter of a capital one. -/
def small (rules : PatternRules) (c : Char) : Char :=
  if rules.spelled then Char.ofNat (Search.small c.toNat) else c.toLower

/-- The pattern that an expanded word makes. -/
def ofGlyphs (rules : PatternRules) (gs : List Glyph) : Pattern :=
  let gs := if rules.spelled then Glyph.characters gs else gs
  let gs := if rules.folds then gs.map fun g => { g with char := small rules g.char } else gs
  ⟨rules, read rules gs.length gs⟩

/-- A character belongs to a member of a set. -/
def Member.holds : Member → Char → Bool
  | .range a b, c => a ≤ c && c ≤ b
  | .named name false, c => ((characterClasses.lookup (String.ofList name)).map (· c)).getD false
  | .named name true, c =>
    c.toNat < Raw.strayBase &&
      ((Search.SymbolClass.table.lookup (String.ofList name)).map (·.holds c.toNat)).getD false

/-- A character fits an element that stands for one character. -/
def fits : Element → Char → Bool
  | .many, _ => false
  | .one, _ => true
  | .among negated members, c => negated != members.any (Member.holds · c)
  | .exactly d, c => c = d
  | .group .., _ => false

/-- Elements without groups match a text. -/
def simplyMatches (p : List Element) (t : Text) : Bool :=
  match p, t with
  | [], [] => true
  | [], _ :: _ => false
  | .many :: p, [] => simplyMatches p []
  | .many :: p, c :: t => simplyMatches p (c :: t) || simplyMatches (.many :: p) t
  | _ :: _, [] => false
  | element :: p, c :: t => fits element c && simplyMatches p t
termination_by p.length + t.length

/-- The ends of a text, longest one first. -/
def suffixes : Text → List Text
  | [] => [[]]
  | c :: t => (c :: t) :: suffixes t

/-- Ends of one text without those that are there twice. -/
def distinct (ends : List Text) : List Text :=
  ends.foldr (fun t found => if found.any fun u => u.length = t.length then found else t :: found) []

/-- What is reached by steps from somewhere on, in at most as many rounds as given. -/
def reachable (step : Text → List Text) : Nat → List Text → List Text
  | 0, found => found
  | fuel + 1, found =>
    let more := distinct (found ++ found.flatMap step)
    if more.length = found.length then found else reachable step fuel more

mutual

/-- What may be left of a text after an element. -/
def afterOne (t : Text) : Element → List Text
  | .many => suffixes t
  | .group frequency choices =>
    let once (t : Text) : List Text := distinct (afterEither t choices)
    match frequency with
    | .once => once t
    | .perhaps => distinct (t :: once t)
    | .often => reachable once t.length (once t)
    | .anyTimes => reachable once t.length [t]
    | .never =>
      let taken := once t
      (suffixes t).filter fun u => !(taken.any fun v => v.length = u.length)
  | element =>
    match t with
    | c :: t => if fits element c then [t] else []
    | [] => []

/-- What may be left of a text after elements. -/
def afterAll (t : Text) : List Element → List Text
  | [] => [t]
  | e :: p => distinct ((afterOne t e).flatMap fun u => afterAll u p)

/-- What may be left of a text after one of some choices. -/
def afterEither (t : Text) : List (List Element) → List Text
  | [] => []
  | p :: more => afterAll t p ++ afterEither t more

end

/-- There are groups in a pattern. -/
def hasGroups (p : Pattern) : Bool :=
  p.elements.any fun
    | .group .. => true
    | _ => false

/-- The characters of a text as a pattern sees them. -/
def seen (p : Pattern) (t : Text) : Text :=
  let t := if p.rules.spelled then Raw.characters t else t
  if p.rules.folds then t.map (small p.rules) else t

/-- A pattern matches characters. -/
def isExactly (p : Pattern) (t : Text) : Bool :=
  if p.hasGroups then (afterAll t p.elements).any List.isEmpty else simplyMatches p.elements t

/-- A pattern matches a text. -/
def isMatch (p : Pattern) (t : Text) : Bool :=
  p.isExactly (p.seen t)

/-- A text after some of its characters, as a pattern sees them. -/
def without (p : Pattern) (n : Nat) (t : Text) : Text :=
  if p.rules.spelled then Raw.ofCharacters ((Raw.characters t).drop n) else t.drop n

/-- The first characters of a text, as a pattern sees them. -/
def only (p : Pattern) (n : Nat) (t : Text) : Text :=
  if p.rules.spelled then Raw.ofCharacters ((Raw.characters t).take n) else t.take n

/-- The shortest or longest part at the beginning of a text that a pattern matches is cut off. -/
def withoutFront (p : Pattern) (longest : Bool) (t : Text) : Text :=
  let u := p.seen t
  let lengths := List.range (u.length + 1)
  match (if longest then lengths.reverse else lengths).find? fun n => p.isExactly (u.take n) with
  | some n => p.without n t
  | none => t

/-- The shortest or longest part at the end of a text that a pattern matches is cut off. -/
def withoutBack (p : Pattern) (longest : Bool) (t : Text) : Text :=
  let u := p.seen t
  let lengths := List.range (u.length + 1)
  match (if longest then lengths else lengths.reverse).find? fun n => p.isExactly (u.drop n) with
  | some n => p.only n t
  | none => t

/-- How many characters at the beginning of some others a pattern matches at most. -/
def longest? (p : Pattern) (t : Text) : Option Nat :=
  (List.range (t.length + 1)).reverse.find? fun n => p.isExactly (t.take n)

/-- A text in which what a pattern matches is replaced. -/
def replaced (p : Pattern) (site : Site) (stead : Text → Text) (t : Text) : Text :=
  let whole := if p.rules.spelled then Raw.characters t else t
  let seen := p.seen t
  let back (t : Text) : Text := if p.rules.spelled then Raw.ofCharacters t else t
  let stead (t : Text) : Text := if p.rules.spelled then Raw.characters (stead (back t)) else stead t
  back <| match site with
  | .front =>
    match p.longest? seen with
    | some n => stead (whole.take n) ++ whole.drop n
    | none => whole
  | .back =>
    match (List.range (seen.length + 1)).find? fun n => p.isExactly (seen.drop n) with
    | some n => whole.take n ++ stead (whole.drop n)
    | none => whole
  | .first => go stead false (seen.length + 1) whole seen
  | .everywhere => go stead true (seen.length + 1) whole seen
where
  /-- Replaces from a place on where something is matched, once or as often as possible. -/
  go (stead : Text → Text) (again : Bool) : (fuel : Nat) → (whole seen : Text) → Text
    | 0, whole, _ => whole
    | _, [], _ => []
    | fuel + 1, c :: whole, seen =>
      match p.longest? seen with
      | some (n + 1) =>
        let rest := (c :: whole).drop (n + 1)
        stead ((c :: whole).take (n + 1)) ++
          if again then go stead again fuel rest (seen.drop (n + 1)) else rest
      | _ => c :: go stead again fuel whole seen.tail

end Pattern

end LineShell.Sh
