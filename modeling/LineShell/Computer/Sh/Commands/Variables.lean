import LineShell.Computer.Sh.Commands.Basic
import LineShell.Computer.Sh.Grammar
import LineShell.Computer.Sh.Pattern

/-!
# Commands about variables

Variables are listed, told to other processes, fixed, made a function's own and taken away; options
of arguments and lines of input are read into them.
-/

namespace LineShell.Sh.Commands

/-- Lists variables in the order of their names, with a word in front that would declare them
again. -/
def listVariables (word : Text) (p : Variable → Bool) : Task Int := do
  let named := (← Task.process).bindings.filter fun entry => p entry.2
  for name in sorted (named.map Prod.fst) do
    let value :=
      match (named.lookup name).bind Variable.value with
      | some t => '=' :: inQuotes t
      | none => []
    Task.print 1 (word ++ name ++ value ++ ['\n'])
  return 0

/-- Checks that a variable may have a name. -/
def checkName (name : Text) : Task Unit := do
  if ¬ Grammar.isName name then Task.fail (name ++ ": bad variable name".toList)

/-- The name in an argument and the value after the equality sign, if there is one. -/
def assignmentIn (argument : Text) : Text × Option Text :=
  let name := argument.takeWhile (· ≠ '=')
  match argument.drop name.length with
  | _ :: value => (name, some value)
  | [] => (name, none)

/-- Makes variables known to other processes or fixes them, possibly with new values.  Without any,
or if the first option says so, those that are listed that are so already. -/
def declare (word : String) (p : Variable → Bool) (alter : Variable → Variable)
    (arguments : List Text) : Task Int := do
  let (given, names) ← optionsOf "p" "" arguments
  if names.isEmpty || !given.isEmpty then listVariables (word.toList ++ [' ']) p
  else
    for argument in names do
      let (name, value) := assignmentIn argument
      checkName name
      Task.alterVariable name value alter
    return 0

/-- Makes variables known to other processes. -/
def exportVariables : List Text → Task Int :=
  declare "export" Variable.exported fun v => { v with exported := true }

/-- Fixes variables. -/
def fixVariables : List Text → Task Int :=
  declare "readonly" Variable.fixed fun v => { v with fixed := true }

/-- Gives a function variables of its own, which begin with the values that they have outside. -/
def declareLocal (arguments : List Text) : Task Int := do
  let p ← Task.process
  match p.locals with
  | none => Task.fail "not in a function".toList
  | some _ =>
    for argument in arguments do
      let (name, value) := assignmentIn argument
      if name = ['-'] then
        Task.modifyProcess fun q =>
          { q with ownSwitches := some (q.ownSwitches.getD q.switches) }
      else
        checkName name
        Task.modifyProcess fun q =>
          let saved := q.locals.getD []
          let known := (saved.lookup name).isSome
          { q with
            locals := some (if known then saved else saved ++ [(name, q.bindings.lookup name)]) }
        match value with
        | some t => Task.setVariable name t
        | none => pure ()
    return 0

/-- Takes away variables or functions. -/
def unset (arguments : List Text) : Task Int := do
  let (given, names) ← optionsOf "fv" "" arguments
  let isFunction := (given.getLast?.map Prod.fst) = some 'f'
  for name in names do
    if isFunction then
      Task.modifyProcess fun p => { p with functions := p.functions.filter (·.1 ≠ name) }
    else
      checkName name
      Task.unsetVariable name
  return 0

/-- What is wrong with an option among arguments. -/
inductive OptionFault where
  /-- No such letter is known. -/
  | unknown (letter : Char)
  /-- The letter takes a value, and there is none. -/
  | valueless (letter : Char)

/-- The text of a fault. -/
def OptionFault.message : OptionFault → Text
  | .unknown c => "Illegal option -".toList ++ [c, '\n']
  | .valueless c => "No arg for -".toList ++ c :: " option\n".toList

/-- What the search for one more option has found. -/
structure FoundOption where
  /-- The value of the variable for the letter. -/
  letter : Char
  /-- The value of the option, if the variable for it is set at all. -/
  value : Option Text
  /-- What is wrong, unless the values alone tell it. -/
  fault : Option OptionFault
  /-- There are no more options. -/
  isOver : Bool
  next : OptionPlace

/-- The letters of options, without a colon in front, and whether a letter takes a value. -/
def takesValue? (known : Text) (c : Char) : Option Bool :=
  match known with
  | [] => none
  | d :: rest =>
    if d = c then some (rest.head? = some ':')
    else
      match rest with
      | ':' :: rest => takesValue? rest c
      | rest => takesValue? rest c

/-- Looks for one more option among arguments.  If the letters begin with a colon, faults are told
by the values alone. -/
def nextOption (known : Text) (arguments : List Text) (place : OptionPlace) : FoundOption :=
  let silent := known.head? = some ':'
  let left := match place.offset with
    | some n => ((arguments[place.index - 2]?).getD []).drop n
    | none => []
  let isInside := 1 < place.index ∧ left ≠ []
  let word := (arguments[place.index - 1]?).getD []
  let finished (index : Nat) : FoundOption := ⟨'?', none, none, true, ⟨index, none⟩⟩
  let ((text, offset, index) : Text × Nat × Nat) :=
    if isInside then (left, place.offset.getD 0, place.index)
    else (word.tail, 1, place.index + 1)
  if ¬ isInside ∧ (word.head? ≠ some '-' ∨ word.length ≤ 1) then finished place.index
  else if ¬ isInside ∧ word = ['-', '-'] then finished (place.index + 1)
  else
    match text with
    | [] => finished place.index
    | c :: rest =>
      let onward : OptionPlace := ⟨index, some (offset + 1)⟩
      match takesValue? known c with
      | none =>
        if silent then ⟨'?', some [c], none, false, onward⟩
        else ⟨'?', none, some (.unknown c), false, onward⟩
      | some false => ⟨c, some [], none, false, onward⟩
      | some true =>
        if !rest.isEmpty then ⟨c, some rest, none, false, ⟨index, none⟩⟩
        else
          match arguments[index - 1]? with
          | some value => ⟨c, some value, none, false, ⟨index + 1, none⟩⟩
          | none =>
            if silent then ⟨':', some [c], none, false, onward⟩
            else ⟨'?', none, some (.valueless c), false, onward⟩

/-- Reads one more option into variables.  The exit code tells whether there was one. -/
def getOption (arguments : List Text) : Task Int := do
  match (← optionsOf "" "" arguments).2 with
  | known :: name :: given =>
    let p ← Task.process
    let among := if given.isEmpty then p.arguments else given
    let place := if among.length + 1 < p.options.index then .first else p.options
    let found := nextOption known among place
    match found.fault with
    | some fault => Task.print 2 fault.message
    | none => pure ()
    match found.value with
    | some t => Task.setVariable "OPTARG".toList t
    | none => if ¬ found.isOver then Task.unsetVariable "OPTARG".toList
    Task.setVariable "OPTIND".toList (numeral found.next.index)
    checkName name
    Task.setVariable name [found.letter]
    Task.modifyProcess fun p => { p with options := found.next }
    return if found.isOver then 1 else 0
  | _ => Task.fail "Usage: getopts optstring var [arg...]".toList

/-- Takes the bytes of a line, one after the other, from the standard input.  Unless `plain`, a
backslash takes the byte after it along.  `taken` are those so far, last one first. -/
def takeLine (plain : Bool) : (fuel : Nat) → (isEscaped : Bool) → (taken : List UInt8) →
    Task (List UInt8)
  | 0, _, taken => return taken.reverse
  | fuel + 1, isEscaped, taken => do
    match ← Task.take 0 1 with
    | .ok (b :: _) =>
      if b = 0x0A ∧ ¬ isEscaped then return (b :: taken).reverse
      else takeLine plain fuel (b = 0x5C && !isEscaped && !plain) (b :: taken)
    | _ => return taken.reverse

/-- The characters of a line up to its newline, in which a backslash keeps the one after it from
being special unless the line is `plain`, and whether the newline is there. -/
def readGlyphs (plain : Bool) : Text → List Glyph × Bool
  | [] => ([], false)
  | ['\n'] => ([], true)
  | [c] => (if c = '\\' ∧ ¬ plain then [] else [⟨c, false⟩], false)
  | c :: d :: t =>
    if c = '\\' ∧ ¬ plain then
      let (gs, whole) := readGlyphs plain t
      (if d = '\n' then gs else ⟨d, true⟩ :: gs, whole)
    else
      let (gs, whole) := readGlyphs plain (d :: t)
      (⟨c, false⟩ :: gs, whole)

/-- Splits a line among variables: each gets one field, and the last one all that is left, without
the separator behind it if it is one field. -/
def distribute (set : Text → Text → Task Unit) (separators : Text) :
    List Text → List Glyph → Task Unit
  | [], _ => pure ()
  | name :: names, gs => do
    let isSeparator (g : Glyph) : Bool := !g.quoted && separators.contains g.char
    let isBlank (g : Glyph) : Bool := isSeparator g && ([' ', '\t', '\n'].contains g.char)
    let gs := gs.dropWhile isBlank
    let field := gs.takeWhile (!isSeparator ·)
    let behind := (gs.drop field.length).dropWhile isBlank
    let rest := if (behind.head?.map isSeparator).getD false then behind.tail else behind
    if names.isEmpty then
      let isOne := (rest.dropWhile isBlank).isEmpty
      set name (Glyph.text (if isOne then field else (gs.reverse.dropWhile isBlank).reverse))
    else
      set name (Glyph.text field)
      distribute set separators names rest

/-- Reads a line into variables. -/
def read (separators : Text) (arguments : List Text) : Task Int := do
  let (given, names) ← optionsOf "r" "p" arguments
  let plain := (given.lookup 'r').isSome
  if names.isEmpty then Task.fail "arg count".toList
  let bytes ← takeLine plain Task.blockLimit false []
  let (gs, whole) := readGlyphs plain ((Raw.ofBytes bytes).filter (· ≠ '\x00'))
  for name in names do
    checkName name
  distribute Task.setVariable separators names gs
  return if whole then 0 else 1

end LineShell.Sh.Commands
