import LineShell.Computer.Sh.Expansion

/-!
# What the commands of the extended language have in common

How commands take options there, and what they say when they are misused.  A command that fails
gives an exit code and nothing else; only an argument too many drops the line.
-/

namespace LineShell.Sh.Commands.Extended

/-- How commands are called, by their names. -/
def usages : List (String × String) :=
  [(".", "filename [arguments]"), ("alias", "[-p] [name[=value] ... ]"),
    ("builtin", "[shell-builtin [arg ...]]"), ("caller", "[expr]"),
    ("cd", "[-L|[-P [-e]] [-@]] [dir]"), ("command", "[-pVv] command [arg ...]"),
    ("declare", "[-aAfFgiIlnrtux] [name[=value] ...] or declare -p [-aAfFilnrtux] [name ...]"),
    ("dirs", "[-clpv] [+N] [-N]"), ("disown", "[-h] [-ar] [jobspec ... | pid ...]"),
    ("enable", "[-a] [-dnps] [-f filename] [name ...]"), ("eval", "[arg ...]"),
    ("exec", "[-cl] [-a name] [command [argument ...]] [redirection ...]"),
    ("export", "[-fn] [name[=value] ...] or export -p"), ("getopts", "optstring name [arg ...]"),
    ("hash", "[-lr] [-p pathname] [-dt] [name ...]"),
    ("jobs", "[-lnprs] [jobspec ...] or jobs -x command [args]"),
    ("kill", "[-s sigspec | -n signum | -sigspec] pid | jobspec ... or kill -l [sigspec]"),
    ("let", "arg [arg ...]"), ("local", "[option] name[=value] ..."),
    ("mapfile", "[-d delim] [-n count] [-O origin] [-s count] [-t] [-u fd] [-C callback] " ++
      "[-c quantum] [array]"),
    ("popd", "[-n] [+N | -N]"), ("printf", "[-v var] format [arguments]"),
    ("pushd", "[-n] [+N | -N | dir]"), ("pwd", "[-LP]"),
    ("read", "[-ers] [-a array] [-d delim] [-i text] [-n nchars] [-N nchars] [-p prompt] " ++
      "[-t timeout] [-u fd] [name ...]"),
    ("readarray", "[-d delim] [-n count] [-O origin] [-s count] [-t] [-u fd] [-C callback] " ++
      "[-c quantum] [array]"),
    ("readonly", "[-aAf] [name[=value] ...] or readonly -p"),
    ("set", "[-abefhkmnptuvxBCEHPT] [-o option-name] [--] [-] [arg ...]"),
    ("shopt", "[-pqsu] [-o] [optname ...]"), ("source", "filename [arguments]"),
    ("trap", "[-lp] [[arg] signal_spec ...]"), ("type", "[-afptP] name [name ...]"),
    ("typeset", "[-aAfFgiIlnrtux] name[=value] ... or typeset -p [-aAfFilnrtux] [name ...]"),
    ("umask", "[-p] [-S] [mode]"), ("unalias", "[-a] name [name ...]"),
    ("unset", "[-f] [-v] [-n] [name ...]"), ("wait", "[-fn] [-p var] [id ...]"),
    ("ulimit", "[-SHabcdefiklmnpqrstuvxPRT] [limit]")]

/-- Tells how a command is called. -/
def tellUsage : Task Unit := do
  let name := ((← Task.process).speaker).getD []
  let usage := (usages.lookup (String.ofList name)).getD ""
  Task.print 2 (name ++ ": usage: ".toList ++ name ++ ' ' :: usage.toList ++ ['\n'])

/-- Fails with an exit code. -/
def failWith {α : Type} (status : Int) : Task α := do
  Task.setStatus status
  throw .failed

/-- Fails with something to tell. -/
def fail {α : Type} (message : Text) : Task α := do
  Task.complain message
  failWith 1

/-- Fails because a command is misused, and tells how it is called. -/
def misused {α : Type} (message : Text) : Task α := do
  Task.complain message
  tellUsage
  failWith 2

/-- Fails because a command is misused of which nothing else can be said. -/
def mistaken {α : Type} : Task α := do
  tellUsage
  failWith 2

/-- Drops the line because of an argument that is one too many. -/
def refuseMany {α : Type} : Task α := do
  Task.complain "too many arguments".toList
  Task.setStatus 1
  throw .dropLine

/-- The option letters in front of some arguments, each with its value if it takes one, and the
arguments after them. -/
def optionsWithin (known valued : Text) : (fuel : Nat) → List Text →
    Except Text (List (Char × Text) × List Text)
  | 0, rest => .ok ([], rest)
  | _, [] => .ok ([], [])
  | fuel + 1, argument :: rest =>
    match argument with
    | ['-', '-'] => .ok ([], rest)
    | '-' :: c :: cs => letters fuel rest (c :: cs)
    | _ => .ok ([], argument :: rest)
where
  /-- The options in a word, and those in the words after it. -/
  letters (fuel : Nat) (rest : List Text) : Text → Except Text (List (Char × Text) × List Text)
    | [] => optionsWithin known valued fuel rest
    | c :: cs =>
      if valued.contains c then
        match cs, rest with
        | [], [] => .error ('-' :: c :: ": option requires an argument".toList)
        | [], value :: rest => do
          let (more, rest) ← optionsWithin known valued fuel rest
          return ((c, value) :: more, rest)
        | cs, rest => do
          let (more, rest) ← optionsWithin known valued fuel rest
          return ((c, cs) :: more, rest)
      else if known.contains c then do
        let (more, rest) ← letters fuel rest cs
        return ((c, []) :: more, rest)
      else .error ('-' :: c :: ": invalid option".toList)

/-- The options of some arguments, and the arguments after them. -/
def optionsOf (known valued : String) (arguments : List Text) :
    Task (List (Char × Text) × List Text) := do
  match optionsWithin known.toList valued.toList (arguments.length + 1) arguments with
  | .ok found => return found
  | .error message => misused message

/-- An option is given. -/
def has (given : List (Char × Text)) (letter : Char) : Bool :=
  given.any (·.1 = letter)

/-- The value of an option; the last one counts. -/
def value? (given : List (Char × Text)) (letter : Char) : Option Text :=
  given.reverse.lookup letter

/-- The number that an argument denotes, or a given one if there is no argument. -/
def numberOr (otherwise : Int) (failure : Int) (arguments : List Text) : Task Int := do
  let arguments := if arguments.head? = some ['-', '-'] then arguments.tail else arguments
  match arguments with
  | [] => return otherwise
  | t :: rest =>
    match wholeInteger? false t with
    | none =>
      Task.complain (t ++ ": numeric argument required".toList)
      failWith failure
    | some n =>
      if !rest.isEmpty then refuseMany
      return n

/-- What is told of a word that is no name. -/
def notName (word : Text) : Text :=
  '\x60' :: word ++ "': not a valid identifier".toList

/-- The name and the key of an item that a word stands for, if it is one. -/
def target? (word : Text) : Option (Text × Option Text) :=
  let name := word.takeWhile Token.isNameChar
  if ¬ Grammar.isName name then none
  else
    match word.drop name.length with
    | [] => some (name, none)
    | '[' :: rest => if rest.getLast? = some ']' ∧ 1 < rest.length then some (name, some rest.dropLast)
      else none
    | _ => none

/-- The variable or item that a word names, which it has to. -/
def targetOf (word : Text) : Task (Text × Option Text) := do
  match target? word with
  | some target => return target
  | none => fail (notName word)

end LineShell.Sh.Commands.Extended
