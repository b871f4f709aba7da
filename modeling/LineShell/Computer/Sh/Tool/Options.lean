import LineShell.Computer.Sh.Tool.Quoting
import LineShell.Text.Utf8

/-!
# Options of tools

Tools take options in front of their operands and mostly also between them: letters after a minus
sign, several of which may share a word, and names after two minus signs, which may be cut short as
long as it is clear which name is meant.  An option may take a value.
-/

namespace LineShell.Sh

/-- Whether an option takes a value. -/
inductive Valued where
  | never
  | always
  /-- A value stands in the word of the option or not at all. -/
  | perhaps
deriving DecidableEq, Repr

/-- An option. -/
structure OptionForm where
  letter : Option Char
  name : Option String
  valued : Valued

/-- Options that were given, by their letters or else by their names, with their values. -/
abbrev Given := List (String × Text)

namespace OptionForm

/-- What an option is known by when it is given. -/
def key (o : OptionForm) : String :=
  match o.letter with
  | some c => String.singleton c
  | none => o.name.getD ""

/-- Options without values that have letters only. -/
def letters (cs : String) : List OptionForm :=
  cs.toList.map fun c => ⟨some c, none, .never⟩

/-- Options with values that have letters only. -/
def valuedLetters (cs : String) : List OptionForm :=
  cs.toList.map fun c => ⟨some c, none, .always⟩

/-- Options without values that have a letter and a name. -/
def flags (forms : List (Char × String)) : List OptionForm :=
  forms.map fun (c, name) => ⟨some c, some name, .never⟩

/-- Options with values that have a letter and a name. -/
def valuedFlags (forms : List (Char × String)) : List OptionForm :=
  forms.map fun (c, name) => ⟨some c, some name, .always⟩

/-- Options without values that have names only. -/
def names (ns : List String) : List OptionForm :=
  ns.map fun name => ⟨none, some name, .never⟩

/-- Options with values that have names only. -/
def valuedNames (ns : List String) : List OptionForm :=
  ns.map fun name => ⟨none, some name, .always⟩

/-- The options that a name may mean: the one that has it, or those whose names begin with it. -/
def meant (forms : List OptionForm) (name : Text) : List OptionForm :=
  let exact := forms.filter fun o => o.name.any (·.toList = name)
  if exact.isEmpty then forms.filter fun o => o.name.any fun n => name.isPrefixOf n.toList
  else exact.take 1

/-- Reads an option by its name, where the rest of its word may hold a value.  The option awaits its
value if it is the next word. -/
def ofName (forms : List OptionForm) (t : Text) : Except Text (Given × Option OptionForm) :=
  let name := t.takeWhile (· ≠ '=')
  let value : Option Text :=
    match t.drop name.length with
    | _ :: value => some value
    | [] => none
  let full (o : OptionForm) : Text := "'--".toList ++ (o.name.getD "").toList ++ ['\'']
  match meant forms name with
  | [] => .error ("unrecognized option '--".toList ++ t ++ ['\''])
  | [o] =>
    match o.valued, value with
    | .never, some _ => .error ("option ".toList ++ full o ++ " doesn't allow an argument".toList)
    | .always, none => .ok ([], some o)
    | _, value => .ok ([(o.key, value.getD [])], none)
  | several =>
    .error ("option '--".toList ++ t ++ "' is ambiguous; possibilities:".toList ++
      several.flatMap fun o => ' ' :: full o)

/-- Reads the options whose letters share a word.  The last one awaits its value if it is the next
word. -/
def ofLetters (forms : List OptionForm) : Text → Except Text (Given × Option OptionForm)
  | [] => .ok ([], none)
  | c :: cs =>
    match forms.find? (·.letter = some c) with
    | none => .error ("invalid option -- '".toList ++ [c, '\''])
    | some o =>
      match o.valued, cs with
      | .always, [] => .ok ([], some o)
      | .always, _ => .ok ([(o.key, cs)], none)
      | .perhaps, _ => .ok ([(o.key, cs)], none)
      | .never, _ => do
        let (more, awaiting) ← ofLetters forms cs
        return ((o.key, []) :: more, awaiting)

/-- What is wrong if an option has no value at the end. -/
def unfilled (o : OptionForm) (byName : Bool) : Text :=
  match byName, o.letter with
  | false, some c => "option requires an argument -- '".toList ++ [c, '\'']
  | _, _ => "option '--".toList ++ (o.name.getD "").toList ++ "' requires an argument".toList

end OptionForm

/-- How options and operands may be mixed. -/
inductive Mixing where
  /-- Options may stand between operands. -/
  | free
  /-- The first operand ends the options. -/
  | strict
deriving DecidableEq, Repr

/-- The options and the operands among some words, of which the first one is a value if an option
awaits one; it is told with whether the option was given by its name. -/
def Given.read (forms : List OptionForm) (mixing : Mixing) (awaiting : Option (OptionForm × Bool)) :
    List Text → Except Text (Given × List Text)
  | [] =>
    match awaiting with
    | none => .ok ([], [])
    | some (o, byName) => .error (o.unfilled byName)
  | t :: ts =>
    match awaiting, t with
    | some (o, _), _ => do
      let (given, operands) ← read forms mixing none ts
      return ((o.key, t) :: given, operands)
    | none, ['-', '-'] => .ok ([], ts)
    | none, '-' :: '-' :: name => do
      let (first, awaiting) ← OptionForm.ofName forms name
      let (more, operands) ← read forms mixing (awaiting.map (·, true)) ts
      return (first ++ more, operands)
    | none, '-' :: c :: cs => do
      let (first, awaiting) ← OptionForm.ofLetters forms (c :: cs)
      let (more, operands) ← read forms mixing (awaiting.map (·, false)) ts
      return (first ++ more, operands)
    | none, _ =>
      match mixing with
      | .strict => .ok ([], t :: ts)
      | .free => do
        let (given, operands) ← read forms mixing none ts
        return (given, t :: operands)

namespace Given

/-- An option is given. -/
def has (given : Given) (key : String) : Bool :=
  given.any (·.1 = key)

/-- One of some options is given, by their letters. -/
def hasAny (given : Given) (letters : String) : Bool :=
  given.any fun entry => letters.toList.any fun c => entry.1 = String.singleton c

/-- The value of an option.  The last one that is given counts. -/
def value? (given : Given) (key : String) : Option Text :=
  given.reverse.lookup key

/-- All values of an option, in order. -/
def values (given : Given) (key : String) : List Text :=
  (given.filter (·.1 = key)).map Prod.snd

/-- The last one of some options that is given, by their letters. -/
def lastOf (given : Given) (letters : String) : Option Char :=
  (given.filterMap fun entry =>
    letters.toList.find? fun c => entry.1 = String.singleton c).getLast?

end Given

/-! ## Words among which options choose

Some options take one of a few words as their values.  A word may be cut short as long as it is clear
which value it stands for, and several words may stand for one value. -/

namespace Choice

/-- What is told of a word that does not choose anything: what is wrong with it, and what may stand in
its place. -/
def refused (trouble : String) (word option : Text) (valid : List (List String)) : Text :=
  trouble.toList ++ " argument ".toList ++ Quoting.word word ++ " for ".toList ++
    Quoting.word option ++ "\nValid arguments are:".toList ++
    valid.flatMap fun ws => "\n  - ".toList ++ ", ".toList.intercalate
      (ws.map fun w => Quoting.word w.toList)

/-- What a word chooses from a table. -/
def ofWord {α : Type} (option : Text) (table : List (List String × α)) (t : Text) :
    Except Text α :=
  let isExact (row : List String × α) : Bool := row.1.any (·.toList = t)
  let isMeant (row : List String × α) : Bool := row.1.any fun w => t.isPrefixOf w.toList
  let valid := table.map Prod.fst
  match table.find? isExact, table.filter isMeant with
  | some row, _ => .ok row.2
  | none, [row] => .ok row.2
  | none, [] => .error (refused "invalid" t option valid)
  | none, _ => .error (refused "ambiguous" t option valid)

/-- What the value of an option chooses from a table, if the option is given. -/
def ofGiven {α : Type} (given : Given) (key name : String) (table : List (List String × α)) :
    Except Text (Option α) :=
  match given.value? key with
  | none => .ok none
  | some t => (ofWord ("--".toList ++ name.toList) table t).map some

end Choice

end LineShell.Sh
