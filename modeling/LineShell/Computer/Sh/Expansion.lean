import LineShell.Computer.Sh.Braces
import LineShell.Computer.Sh.Grammar
import LineShell.Computer.Sh.Person
import LineShell.Computer.Sh.Pattern
import LineShell.Computer.Sh.Values

/-!
# The expansion of words

A word becomes fields: its parts are replaced by what they stand for, what came from outside quotes
is split at the separators, and fields with patterns become the names of the files that match.  What
runs the scripts within words is a parameter here, since running scripts needs expansion in turn.

In the extended language a value may be a list, of which each item is treated as a value is.
-/

namespace LineShell.Sh.Expansion

/-- What carries out the scripts within words. -/
structure Capture where
  /-- What a script prints. -/
  output : Script → Task Text
  /-- The path of a file that a script writes, or reads if told so. -/
  path : Script → (taken : Bool) → Task Text

/-- What a word is expanded for. -/
inductive Purpose where
  /-- For fields, into which it is split. -/
  | fields
  /-- For one text. -/
  | value
  /-- For the value of a variable, in which home directories also stand after colons. -/
  | assignment
deriving DecidableEq, Repr

/-- A piece of an expanded word, before it is split into fields. -/
inductive Piece where
  /-- A character, which separators among it split if `splits`. -/
  | glyph (g : Glyph) (splits : Bool)
  /-- The field exists even if nothing else is in it. -/
  | presence
  /-- One field ends and another one begins. -/
  | boundary
  /-- One field ends, if there is one, as at a blank. -/
  | gap
deriving Repr

/-- The pieces of a text that a parameter or a script gave. -/
def given (inQuotes : Bool) (t : Text) : List Piece :=
  (if inQuotes then [.presence] else []) ++ t.map fun c => .glyph ⟨c, inQuotes⟩ (!inQuotes)

/-- The characters of pieces. -/
def glyphs (pieces : List Piece) : List Glyph :=
  pieces.filterMap fun
    | .glyph g _ => some g
    | _ => none

/-- The separators between fields. -/
def separators : Task Text := do
  return (← Task.value? "IFS".toList).getD [' ', '\t', '\n']

/-- Texts as one text, with the first separator between them. -/
def joinedTexts (texts : List Text) : Task Text := do
  return ((← separators).take 1).intercalate texts

/-- The pieces of texts each of which is a field of its own, if there is something in it or it stands
in quotes. -/
def fieldsApart (inQuotes : Bool) (texts : List Text) : Task (List Piece) := do
  let isBlank (c : Char) : Bool := [' ', '\t', '\n'].contains c
  let isExtended := (← Task.process).language = .extended
  let isMarked := isExtended && (← separators).head?.any (!isBlank ·)
  let between : Piece := if inQuotes ∨ isMarked then .boundary else .gap
  return [between].intercalate (texts.map (given inQuotes))

/-- The pieces of all arguments, each of which is a field of its own. -/
def allArguments (inQuotes : Bool) : Task (List Piece) := do
  fieldsApart inQuotes (← Task.process).arguments

/-- A parameter stands for all arguments. -/
def isPlural (name : Text) : Bool :=
  name = ['@'] || name = ['*']

/-- The arguments stay fields of their own. -/
def keepsFields (purpose : Purpose) (name : Text) (inQuotes : Bool) : Bool :=
  purpose = .fields && (name = ['@'] || (name = ['*'] && !inQuotes))

/-- The language of the process. -/
def language : Task Language := do
  return (← Task.process).language

/-- The letters of the switches that are on, as they are told. -/
def shownSwitches (p : Process) : Text :=
  match p.language with
  | .common => p.switches.reverse
  | .extended =>
    "abefhkmnptuvxBCEHPT".toList.filter p.isOn ++
      (if p.isOn 's' then ['s'] else []) ++ if p.extras.isTold then ['c'] else []

/-- The value of a parameter, if it has one. -/
def parameter? (name : Text) : Task (Option Text) := do
  let p ← Task.process
  match name with
  | ['#'] => return some (numeral p.arguments.length)
  | ['?'] => return some (signedNumeral p.status)
  | ['-'] => return some (shownSwitches p)
  | ['$'] => return some (numeral p.shell)
  | ['!'] => return p.background.map numeral
  | _ =>
    if isPlural name then return some (← joinedTexts p.arguments)
    else if name.all Char.isDigit then
      match digitsValue name with
      | 0 => return some p.name
      | n + 1 => return p.arguments[n]?
    else if p.language = .extended then Values.text? name
    else Task.value? name

/-- A parameter as a complaint in the extended language names it. -/
def shownName (name : Text) : Text :=
  if Grammar.isName name then name else '$' :: name

/-- The value of a parameter that is used as it is. -/
def parameter (name : Text) : Task Text := do
  match ← parameter? name with
  | some t => return t
  | none =>
    let p ← Task.process
    if ¬ p.isOn 'u' then return []
    match p.language with
    | .common => Task.fail (name ++ ": parameter not set".toList)
    | .extended => Values.quit (shownName name ++ ": unbound variable".toList)

/-- Gives a parameter a value, for which it has to be a variable. -/
def setParameter (name value : Text) : Task Unit := do
  match ← language with
  | .common =>
    if Grammar.isName name then Task.setVariable name value
    else Task.fail (name ++ ": bad variable name".toList)
  | .extended =>
    if Grammar.isName name then Values.assign name none false value
    else Values.drop (shownName name ++ ": cannot assign in this way".toList)

/-- Fails because a parameter has no value.  In the common language the text is told if there is
one. -/
def demand {α : Type} (name : Text) (emptyToo : Bool) (told : Option Text) : Task α := do
  match ← language with
  | .common =>
    let usual := if emptyToo then "parameter not set or null" else "parameter not set"
    Task.fail (name ++ ": ".toList ++ told.getD usual.toList)
  | .extended =>
    let usual := if emptyToo then "parameter null or not set" else "parameter not set"
    Values.quit (name ++ ": ".toList ++ told.getD usual.toList)

/-- How patterns are read. -/
def rules : Task PatternRules := do
  let p ← Task.process
  return match p.language with
    | .common => .common
    | .extended =>
      let isOn (name : String) : Bool := p.extras.settings.contains name.toList
      ⟨['!', '^'], isOn "extglob", true, isOn "nocasematch"⟩

/-- The value of an arithmetic expression, whose assignments take effect. -/
def arithmetic (t : Text) : Task Int := do
  if (← language) = .extended then return ← Values.calculated [] t
  let bindings := (← Task.process).bindings
  let (result, assignments) := Arithmetic.value
    { text := fun name => ((bindings.lookup name).bind Variable.value).getD []
      isReadOnly := fun name => (bindings.lookup name).any Variable.fixed } t
  for (name, n) in assignments do
    Task.setVariable name (signedNumeral n)
  match result with
  | .ok n => return n
  | .error .overflow => throw (.killed Signal.badArithmetic)
  | .error (.illegalNumber t) => Task.fail (Arithmetic.Fault.illegalNumber t).message
  | .error (.readOnly name) => Task.fail (Arithmetic.Fault.readOnly name).message
  | .error f =>
    Task.fail ("arithmetic expression: ".toList ++ f.message ++ ": \"".toList ++ t ++ ['"'])

/-- The pieces of a text that stood outside quotes.  Home directories stand at the beginning of a
word and, in the value of a variable, after each colon. -/
def plainPieces (home : Text → Option Text) (purpose : Purpose) (isLast : Bool) :
    (atStart : Bool) → (fuel : Nat) → Text → List Piece
  | _, 0, _ => []
  | _, _, [] => []
  | atStart, fuel + 1, c :: t =>
    let found :=
      if atStart then Home.leading? home (purpose = .assignment) isLast (c :: t) else none
    match found with
    | some (directory, rest) =>
      directory.map (fun c => .glyph ⟨c, true⟩ false) ++
        plainPieces home purpose isLast false fuel rest
    | none =>
      .glyph ⟨c, false⟩ false ::
        plainPieces home purpose isLast (purpose = .assignment && c = ':') fuel t

/-- Arguments of which the first one is cut.  Where its end is cut off, the others go with it. -/
def trimmedArguments (atBack : Bool) (cut : Text → Text) : List Text → List Text
  | [] => []
  | t :: ts =>
    let first := cut t
    if atBack && first.length < t.length then [first] else first :: ts

/-- What a name in braces stands for. -/
structure Meant where
  name : Text
  /-- The text in the brackets behind it. -/
  index : Option Text
  /-- Its value, if it has one. -/
  value : Option Text
  /-- All items that are meant, with their keys. -/
  items : Option (List (Text × Text))
  /-- The items are one text. -/
  joined : Bool

namespace Meant

/-- The name as a complaint tells it. -/
def shown (m : Meant) : Text :=
  match m.index with
  | some t => m.name ++ '[' :: t ++ [']']
  | none => shownName m.name

/-- The texts of the items. -/
def texts (m : Meant) : List Text :=
  (m.items.getD []).map Prod.snd

/-- The same with other items, without their keys. -/
def withTexts (m : Meant) (texts : List Text) : Meant :=
  { m with items := some (texts.map ([], ·)) }

/-- No value is there, or an empty one if that counts. -/
def isMissing (m : Meant) (emptyToo : Bool) : Bool :=
  match m.items with
  | some [] => true
  | some [(_, t)] => emptyToo && t.isEmpty
  | some _ => false
  | none =>
    match m.value with
    | none => true
    | some t => emptyToo && t.isEmpty

/-- The pieces of a value or of items, each of which is altered. -/
def pieces (m : Meant) (purpose : Purpose) (inQuotes : Bool) (alter : Text → Text) :
    Task (List Piece) := do
  match m.items with
  | some items =>
    let texts := items.map fun item => alter item.2
    if purpose = .fields ∧ !(m.joined && inQuotes) then fieldsApart inQuotes texts
    else if m.joined then return given inQuotes (← joinedTexts texts)
    else return given inQuotes ([' '].intercalate texts)
  | none =>
    match m.value with
    | some t => return given inQuotes (alter t)
    | none =>
      if (← Task.process).isOn 'u' then Values.quit (m.shown ++ ": unbound variable".toList)
      else return given inQuotes []

end Meant

/-- What a name stands for, with all items of a list or with one of them if they are asked for. -/
def meant (name : Text) (all : Option Bool) (index : Option Text) : Task Meant := do
  let p ← Task.process
  if isPlural name then
    let items := (p.name :: p.arguments)
    let keyed := ((List.range items.length).zip items).map fun (n, t) => (numeral n, t)
    return ⟨name, none, ← parameter? name, some (keyed.drop 1), name = ['*']⟩
  match all, index with
  | some joined, _ =>
    let items := (((← Values.find? name).bind Variable.holding).map Holding.items).getD []
    let sign := if joined then ['*'] else ['@']
    return ⟨name, some sign, none, some items, joined⟩
  | none, some t =>
    let key ← Values.keyOf name t
    let holding := (← Values.find? name).bind Variable.holding
    return ⟨name, some t, holding.bind fun h => h.item? key, none, false⟩
  | none, none => return ⟨name, none, ← parameter? name, none, false⟩

/-- What a text names, as the value of another parameter. -/
def named (t : Text) : Task Meant := do
  let name := t.takeWhile Token.isNameChar
  let isParameter := (t.all Char.isDigit || (["@", "*", "#", "?", "$", "!", "-"].map
    String.toList).contains t) && !t.isEmpty
  if isParameter then meant t none none
  else if !Grammar.isName name then Values.drop (t ++ ": invalid variable name".toList)
  else
    match t.drop name.length with
    | [] => meant name none none
    | ['[', '@', ']'] => meant name (some false) none
    | ['[', '*', ']'] => meant name (some true) none
    | '[' :: rest =>
      if rest.getLast? = some ']' then meant name none (some rest.dropLast)
      else Values.drop (t ++ ": invalid variable name".toList)
    | _ => Values.drop (t ++ ": invalid variable name".toList)

/-- The parameter that the value of a parameter names. -/
def followed (m : Meant) : Task Meant := do
  match m.value with
  | some t => named t
  | none => Values.drop (m.name ++ ": invalid indirect expansion".toList)

/-- Gives what is meant a value. -/
def assignTo (m : Meant) (t : Text) : Task Unit := do
  match m.items, m.index with
  | some _, _ => Values.drop (m.shown ++ ": cannot assign in this way".toList)
  | none, some index => Values.assign m.name (some index) false t
  | none, none => setParameter m.name t

/-- Some of a row of things, from a place on.  Both numbers count from the end if they are negative,
which the second one may only be if told so. -/
def sliced {α : Type} (start : Int) (size : Option Int) (all : List α) : Task (List α) := do
  let length : Int := all.length
  let first := if start < 0 then start + length else start
  if first < 0 ∨ length < first then return []
  match size with
  | none => return all.drop first.toNat
  | some n =>
    let stop := if n < 0 then length + n else first + n
    if stop < first then Values.drop (signedNumeral n ++ ": substring expression < 0".toList)
    return (all.drop first.toNat).take (stop - first).toNat

/-- The items from a place on: of a list those whose places are not before it. -/
def slicedItems (m : Meant) (start : Int) (size : Option Int) : Task (List (Text × Text)) := do
  if let some n := size then
    if n < 0 then Values.drop (signedNumeral n ++ ": substring expression < 0".toList)
  let limit (items : List (Text × Text)) : List (Text × Text) :=
    match size with
    | some n => items.take n.toNat
    | none => items
  let items := m.items.getD []
  let placeOf (item : Text × Text) : Int := (wholeInteger? false item.1).getD 0
  if isPlural m.name then
    let whole := ("0".toList, (← Task.process).name) :: items
    let first := if start < 0 then start + whole.length else start
    return if first < 0 then [] else limit (whole.drop first.toNat)
  let isTable := ((← Values.find? m.name).map Variable.isTable).getD false
  if isTable then return limit (items.drop start.toNat)
  let places : Int := (items.getLast?.map fun item => placeOf item + 1).getD 0
  let first := if start < 0 then start + places else start
  return if first < 0 then [] else limit (items.filter fun item => first ≤ placeOf item)

/-- The letters that tell what a variable is. -/
def attributes (v : Variable) : Text :=
  let kind : Text := match v.content with
    | some (.list _) => ['a']
    | some (.table _) => ['A']
    | _ => []
  let mark (holds : Bool) (c : Char) : Text := if holds then [c] else []
  kind ++ mark v.traits.isInteger 'i' ++ mark v.traits.isReference 'n' ++ mark v.fixed 'r' ++
    mark v.exported 'x' ++
    match v.traits.casing with
    | some .small => ['l']
    | some .capital => ['u']
    | some .swapped => ['c']
    | none => []

/-- The items of a variable in brackets, as they are declared. -/
def listedItems (h : Holding) : Text :=
  let entries := h.items.map fun (key, t) =>
    let key := if h.isTable then (if key.all Token.isNameChar ∧ ¬ key.isEmpty then key else
      Quotation.inDouble key) else key
    '[' :: key ++ "]=".toList ++ Quotation.declared t
  let isTable := h.isTable
  '(' :: [' '].intercalate entries ++ (if isTable ∧ ¬ entries.isEmpty then [' ', ')'] else [')'])

/-- A value, or several, in the form that a letter stands for. -/
def shaped (m : Meant) (letter : Char) (purpose : Purpose) (inQuotes : Bool) : Task (List Piece) := do
  let held ← Values.find? m.name
  let several (texts : List Text) : Task (List Piece) :=
    (m.withTexts texts).pieces purpose inQuotes id
  let declaration (value : Text) : Text :=
    match held.map attributes with
    | some [] => m.name ++ '=' :: value
    | some letters => "declare -".toList ++ letters ++ ' ' :: m.name ++ '=' :: value
    | none => []
  let everywhere (_ : Char) : Bool := true
  match letter with
  | 'Q' =>
    if m.items.isNone ∧ m.value.isNone then return given inQuotes []
    else m.pieces purpose inQuotes Quotation.quoted
  | 'E' => m.pieces purpose inQuotes fun t => ((Quotation.ofEscaped (t ++ ['\''])).map Prod.fst).getD t
  | 'U' => m.pieces purpose inQuotes (Values.recased .capital true everywhere)
  | 'u' => m.pieces purpose inQuotes (Values.recased .capital false everywhere)
  | 'L' => m.pieces purpose inQuotes (Values.recased .small true everywhere)
  | 'a' =>
    let letters := (held.map attributes).getD []
    if m.items.isSome then several (m.texts.map fun _ => letters)
    else return given inQuotes letters
  | 'A' =>
    match m.items, held.bind Variable.holding with
    | some _, some h => return given inQuotes (declaration (listedItems h))
    | some _, none => return given inQuotes []
    | none, _ => return given inQuotes ((m.value.map fun t => declaration (Quotation.quoted t)).getD [])
  | 'P' => m.pieces purpose inQuotes id
  | 'k' =>
    match m.items with
    | some items => several (items.flatMap fun (key, t) => [key, t])
    | none => m.pieces purpose inQuotes Quotation.quoted
  | _ =>
    match m.items with
    | some items =>
      let t := [' '].intercalate (items.map fun (key, t) => key ++ ' ' :: Quotation.declared t)
      return given inQuotes t
    | none => m.pieces purpose inQuotes Quotation.quoted

/-- What stands in the stead of what a pattern has matched: an ampersand outside quotes is that
itself. -/
def stead (gs : List Glyph) (found : Text) : Text :=
  gs.flatMap fun g => if g.char = '&' ∧ ¬ g.quoted then found else [g.char]

/-- The pieces of a word that stands in for a value. -/
def standIn (inQuotes : Bool) (pieces : List Piece) : List Piece :=
  (if inQuotes then [.presence] else []) ++ pieces.map fun
    | .glyph g splits =>
      .glyph ⟨g.char, g.quoted || inQuotes⟩ (splits || (!g.quoted && !inQuotes))
    | piece => piece

mutual

/-- The pieces of one part, which may be the first or the last one of its word. -/
def part (capture : Capture) (purpose : Purpose) (isFirst isLast : Bool) :
    Part → Task (List Piece)
  | .plain t => do
    let p ← Task.process
    let own ← Task.value? "HOME".toList
    let own := if p.language = .extended then some (own.getD "/root".toList) else own
    let here ← if p.language = .extended then Task.value? "PWD".toList else pure none
    let before ← if p.language = .extended then Task.value? "OLDPWD".toList else pure none
    let directory? (name : Text) : Option Text :=
      if name = ['+'] then here else if name = ['-'] then before else Home.directory? own name
    let name := t.takeWhile Token.isNameChar
    let rest := t.drop (name.length + 1)
    let isAssigned := p.language = .extended && isFirst && purpose = .fields &&
      Grammar.isName name && t[name.length]? = some '='
    if isAssigned then
      return (name ++ ['=']).map (fun c => .glyph ⟨c, false⟩ false) ++
        plainPieces directory? .assignment isLast true rest.length rest
    return plainPieces directory? purpose isLast isFirst t.length t
  | .quoted t => return .presence :: t.map fun c => .glyph ⟨c, true⟩ false
  | .value name inQuotes => do
    if keepsFields purpose name inQuotes then allArguments inQuotes
    else return given inQuotes (← parameter name)
  | .length name inQuotes => do
    let p ← Task.process
    if p.language = .extended then
      if isPlural name then return given inQuotes (numeral p.arguments.length)
      else return given inQuotes (numeral (Raw.characters (← parameter name)).length)
    else return given inQuotes (numeral (← parameter name).length)
  | .arithmetic expression inQuotes => do
    let t := Glyph.text (glyphs (← parts capture .value true expression))
    return given inQuotes (signedNumeral (← arithmetic t))
  | .captured script inQuotes => do
    return given inQuotes (← capture.output script)
  | .senseless shown => do
    match ← language with
    | .common => Task.fail "Bad substitution".toList
    | .extended => Values.drop (shown ++ ": bad substitution".toList)
  | .items _ => return []
  | .connection script taken => do
    return given true (← capture.path script taken)
  | .adjusted name how w inQuotes => do
    let value ← parameter? name
    let missing (emptyToo : Bool) : Bool :=
      match value with
      | none => true
      | some t => emptyToo && t.isEmpty
    let whole : Task (List Piece) :=
      if keepsFields purpose name inQuotes then allArguments inQuotes
      else pure (given inQuotes (value.getD []))
    let substitute : Task (List Piece) := do
      return standIn inQuotes (← parts capture purpose true w)
    let trimmed (atBack : Bool) (cut : Pattern → Text → Text) : Task (List Piece) := do
      let t ← match value with
        | some t => pure t
        | none => parameter name
      let cut := cut (Pattern.ofGlyphs (← rules) (glyphs (← parts capture .value true w)))
      if inQuotes && keepsFields purpose name inQuotes then
        let kept := trimmedArguments atBack cut (← Task.process).arguments
        return [Piece.boundary].intercalate (kept.map (given true))
      else return given inQuotes (cut t)
    match how with
    | .otherwise emptyToo => if missing emptyToo then substitute else whole
    | .instead emptyToo =>
      if missing emptyToo then return (if inQuotes then [.presence] else []) else substitute
    | .assigned emptyToo =>
      if missing emptyToo then
        let t := Glyph.text (glyphs (← parts capture .value true w))
        setParameter name t
        return given inQuotes t
      else whole
    | .demanded emptyToo =>
      if missing emptyToo then
        let t := Glyph.text (glyphs (← parts capture .value true w))
        demand name emptyToo (if w.isEmpty then none else some t)
      else whole
    | .withoutFront longest => trimmed false (Pattern.withoutFront · longest)
    | .withoutBack longest => trimmed true (Pattern.withoutBack · longest)
  | .reference name subscript indirect change _ inQuotes => do
    let (all, index) : Option Bool × Option Text ← match subscript with
      | .none => pure (none, none)
      | .all joined => pure (some joined, none)
      | .item w => do
        pure (none, some (Glyph.text (glyphs (← parts capture .value true w))))
    let m ← match change with
      | .names _ => pure ⟨name, none, none, none, false⟩
      | _ => do
        let m ← meant name all index
        if indirect then followed m else pure m
    let number (w : Text) : Task Int := Values.calculated [] w
    match change with
    | .none => m.pieces purpose inQuotes id
    | .count =>
      let n := match m.items with
        | some items => items.length
        | none => (Raw.characters (m.value.getD [])).length
      if m.items.isNone ∧ m.value.isNone then m.pieces purpose inQuotes id *> pure ()
      return given inQuotes (numeral n)
    | .adjusted how w =>
      match how with
      | .otherwise emptyToo =>
        if m.isMissing emptyToo then return standIn inQuotes (← parts capture purpose true w)
        else m.pieces purpose inQuotes id
      | .instead emptyToo =>
        if m.isMissing emptyToo then return (if inQuotes then [.presence] else [])
        else return standIn inQuotes (← parts capture purpose true w)
      | .assigned emptyToo =>
        if m.isMissing emptyToo then
          let t := Glyph.text (glyphs (← parts capture .value true w))
          assignTo m t
          return given inQuotes t
        else m.pieces purpose inQuotes id
      | .demanded emptyToo =>
        if m.isMissing emptyToo then
          let t := Glyph.text (glyphs (← parts capture .value true w))
          demand m.shown emptyToo (if w.isEmpty then none else some t)
        else m.pieces purpose inQuotes id
      | .withoutFront longest =>
        let p := Pattern.ofGlyphs (← rules) (glyphs (← parts capture .value true w))
        m.pieces purpose inQuotes (p.withoutFront longest)
      | .withoutBack longest =>
        let p := Pattern.ofGlyphs (← rules) (glyphs (← parts capture .value true w))
        m.pieces purpose inQuotes (p.withoutBack longest)
    | .slice start size =>
      if m.items.isNone ∧ m.value.isNone then return ← m.pieces purpose inQuotes id
      let start ← number (Glyph.text (glyphs (← parts capture .value true start)))
      let size ← match size with
        | none => pure none
        | some w => do pure (some (← number (Glyph.text (glyphs (← parts capture .value true w)))))
      match m.items with
      | some _ =>
        let kept ← slicedItems m start size
        (m.withTexts (kept.map Prod.snd)).pieces purpose inQuotes id
      | none =>
        match m.value with
        | none => m.pieces purpose inQuotes id
        | some t =>
          return given inQuotes (Raw.ofCharacters (← sliced start size (Raw.characters t)))
    | .replaced site pattern w =>
      let p := Pattern.ofGlyphs (← rules) (glyphs (← parts capture .value true pattern))
      let gs := glyphs (← parts capture .value true w)
      if pattern.isEmpty ∧ (site = .first ∨ site = .everywhere) then m.pieces purpose inQuotes id
      else m.pieces purpose inQuotes (p.replaced site (stead gs))
    | .recased casing everywhere pattern =>
      let p := Pattern.ofGlyphs (← rules) (glyphs (← parts capture .value true pattern))
      let fits (c : Char) : Bool := pattern.isEmpty || p.isExactly [c]
      m.pieces purpose inQuotes (Values.recased casing everywhere fits)
    | .shaped letter => shaped m letter purpose inQuotes
    | .places =>
      (m.withTexts ((m.items.getD []).map Prod.fst)).pieces purpose inQuotes id
    | .names joined =>
      let names := (← Task.process).bindings.filterMap fun (other, v) =>
        if name.isPrefixOf other && v.holding.isSome then some other else none
      (({ m with joined }).withTexts (sorted names)).pieces purpose inQuotes id

/-- The pieces of the parts of a word, of which the first one may be the first of the word. -/
def parts (capture : Capture) (purpose : Purpose) (isFirst : Bool) : Word → Task (List Piece)
  | [] => return []
  | p :: w => do
    let first ← part capture purpose isFirst w.isEmpty p
    return first ++ (← parts capture purpose false w)

end

/-- The fields that have been split off, and how the last one stands. -/
structure Splitting where
  /-- The fields that are complete, last one first. -/
  complete : List (List Glyph)
  /-- The field that is open. -/
  current : Option (List Glyph)
  /-- The last field was ended by a blank separator. -/
  afterBlank : Bool

namespace Splitting

/-- Ends the open field if there is one. -/
def close (s : Splitting) : Splitting :=
  match s.current with
  | some gs => { s with complete := gs :: s.complete, current := none }
  | none => s

/-- Takes one more piece. -/
def take (separators : Text) (s : Splitting) : Piece → Splitting
  | .presence => { s with current := some (s.current.getD []), afterBlank := false }
  | .gap => if s.current.isSome then { s.close with afterBlank := true } else s
  | .boundary =>
    { s with complete := s.current.getD [] :: s.complete, current := none, afterBlank := false }
  | .glyph g splits =>
    if splits ∧ g.char ∈ separators then
      if g.char ∈ [' ', '\t', '\n'] then
        if s.current.isSome then { s.close with afterBlank := true } else s
      else if s.afterBlank then { s with afterBlank := false }
      else { s with complete := s.current.getD [] :: s.complete, current := none }
    else { s with current := some (s.current.getD [] ++ [g]), afterBlank := false }

end Splitting

/-- Splits pieces into fields. -/
def split (separators : Text) (pieces : List Piece) : List (List Glyph) :=
  (pieces.foldl (Splitting.take separators) ⟨[], none, false⟩).close.complete.reverse

/-- The components of a path pattern. -/
def components : List Glyph → List (List Glyph)
  | [] => [[]]
  | g :: gs =>
    if g.char = '/' then [] :: components gs
    else
      match components gs with
      | c :: cs => (g :: c) :: cs
      | [] => [[g]]

/-- How fields are matched against the names of files. -/
structure Matching where
  rules : PatternRules
  /-- Patterns match names that begin with a dot. -/
  showsHidden : Bool
  /-- Patterns do not match the directory itself and the one around it. -/
  skipsDots : Bool
  /-- Two stars by themselves match any number of directories. -/
  isDeep : Bool

/-- How fields are matched in the common language. -/
def Matching.common : Matching := ⟨.common, false, false, false⟩

/-- A field may match names of files. -/
def Matching.isPattern (matching : Matching) (field : List Glyph) : Bool :=
  field.any (!·.isLiteral) ||
    (matching.rules.groups && (field.zip field.tail).any fun (g, h) =>
      !g.quoted && ['+', '@', '!'].contains g.char && h = ⟨'(', false⟩)

/-- The names that a pattern for one name may match in a directory.  Those that begin with a dot are
meant only by a pattern that does so as well, and then the directory itself and the one around it
are among them. -/
def namesFor (matching : Matching) (tree : FileTree) (directory : NodeId)
    (component : List Glyph) : List Text :=
  let names := ((tree.listed directory).toOption.getD []).map Prod.fst
  if (component.head?.map Glyph.char) = some '.' then
    if matching.skipsDots then names else ['.'] :: ['.', '.'] :: names
  else if matching.showsHidden then names
  else names.filter (·.head? ≠ some '.')

/-- The paths that continue a path by a name that a component matches. -/
def continuations (matching : Matching) (tree : FileTree) (directory : NodeId)
    (component : List Glyph) (path : Text) : List Text :=
  if !matching.isPattern component then [path ++ Glyph.text component]
  else
    match tree.find true directory (if path = [] then ['.'] else path) with
    | .ok id =>
      let pattern := Pattern.ofGlyphs matching.rules component
      ((namesFor matching tree id component).filter pattern.isMatch).map (path ++ ·)
    | .error _ => []

/-- Two stars stand by themselves. -/
def isDeepPattern (component : List Glyph) : Bool :=
  component = [⟨'*', false⟩, ⟨'*', false⟩]

/-- The paths of the directories below a path, in at most as many steps as given. -/
def below (matching : Matching) (tree : FileTree) (directory : NodeId) :
    (fuel : Nat) → (path : Text) → List Text
  | 0, _ => []
  | fuel + 1, path =>
    match tree.find true directory (if path = [] then ['.'] else path) with
    | .error _ => []
    | .ok id =>
      (sorted (namesFor matching tree id [⟨'*', false⟩])).flatMap fun name =>
        let whole := path ++ name
        match tree.find false directory whole with
        | .ok child =>
          if tree.isDirectory child then
            (whole ++ ['/']) :: below matching tree directory fuel (whole ++ ['/'])
          else []
        | .error _ => []

/-- How deep directories are looked for. -/
def depthLimit : Nat := 40

/-- The paths that a pattern of several components matches. -/
def paths (matching : Matching) (tree : FileTree) (directory : NodeId) :
    List (List Glyph) → Text → List Text
  | [], path => [path]
  | [last], path =>
    let starts := if matching.isDeep ∧ isDeepPattern last then
        path :: below matching tree directory depthLimit path else [path]
    (starts.flatMap (continuations matching tree directory last)).filter fun t =>
      (tree.find false directory t).toOption.isSome
  | component :: rest, path =>
    if matching.isDeep ∧ isDeepPattern component then
      (path :: below matching tree directory depthLimit path).flatMap
        (paths matching tree directory rest)
    else
      (continuations matching tree directory component path).flatMap fun t =>
        paths matching tree directory rest (t ++ ['/'])

/-- The names of the files that a field matches, in order; nothing if it is no pattern. -/
def files? (matching : Matching) (tree : FileTree) (directory : NodeId) (field : List Glyph) :
    Option (List Text) :=
  if !matching.isPattern field then none
  else some (sorted (paths matching tree directory (components field) []))

/-- The texts that a field becomes: the names of the files that match it, in order, or its own
text. -/
def files (field : List Glyph) : Task (List Text) := do
  let m ← get
  let isOn (name : String) : Bool := m.process.extras.settings.contains name.toList
  let matching : Matching := match m.process.language with
    | .common => .common
    | .extended => {
      rules := ⟨['!', '^'], isOn "extglob", true, isOn "nocaseglob"⟩
      showsHidden := isOn "dotglob"
      skipsDots := true
      isDeep := isOn "globstar" }
  match files? matching m.files m.process.directory field with
  | none => return [Glyph.text field]
  | some [] =>
    if isOn "failglob" then Values.drop ("no match: ".toList ++ Glyph.text field)
    return if isOn "nullglob" then [] else [Glyph.text field]
  | some found => return found

/-- The texts that a word becomes after its braces have been dealt with. -/
def fieldsOfOne (capture : Capture) (w : Word) : Task (List Text) := do
  let split := split (← separators) (← parts capture .fields true w)
  let mut texts : List Text := []
  for field in split do
    if (← Task.process).isOn 'f' then texts := texts ++ [Glyph.text field]
    else texts := texts ++ (← files field)
  return texts

/-- The texts that a word becomes. -/
def fieldsOf (capture : Capture) (w : Word) : Task (List Text) := do
  let p ← Task.process
  if p.language = .common ∨ ¬ p.isOn 'B' then fieldsOfOne capture w
  else
    let mut texts : List Text := []
    for w in Braces.words w do
      texts := texts ++ (← fieldsOfOne capture w)
    return texts

/-- The texts that words become. -/
def fields (capture : Capture) : List Word → Task (List Text)
  | [] => return []
  | w :: ws => do
    let texts ← fieldsOf capture w
    return texts ++ (← fields capture ws)

/-- The text that a word becomes where nothing is split. -/
def text (capture : Capture) (w : Word) : Task Text := do
  return Glyph.text (glyphs (← parts capture .value true w))

/-- The text that a word becomes as the value of a variable. -/
def assigned (capture : Capture) (w : Word) : Task Text := do
  return Glyph.text (glyphs (← parts capture .assignment true w))

/-- The pattern that a word becomes. -/
def pattern (capture : Capture) (w : Word) : Task Pattern := do
  return Pattern.ofGlyphs (← rules) (glyphs (← parts capture .value true w))

end LineShell.Sh.Expansion
