import LineShell.Computer.Sh.Person
import LineShell.Computer.Sh.Tool.Finding.Criterion
import LineShell.Computer.Sh.Tool.Launch
import LineShell.Computer.Text.Calendar.Reading

/-!
# Reading criteria

The words after the paths say how to search and what is asked of the files.  Some of them look at
files, or open them, while they are read.
-/

namespace LineShell.Sh.Tool.Finding

/-- Which links are followed. -/
inductive Follow where
  | none
  /-- Those that are given as paths. -/
  | given
  | all
deriving DecidableEq, Repr

/-- A program that is run with many files. -/
structure Gatherer where
  command : List Text
  /-- It is run in the directory of the files. -/
  within : Bool

/-- What has been read. -/
structure Plan where
  follow : Follow
  /-- What is in a directory comes before it; whether that was asked for by itself. -/
  innerFirst : Bool
  asksInnerFirst : Bool
  least : Nat
  most : Option Nat
  /-- How expressions are written. -/
  style : Text
  warns : Bool
  /-- The first word that is no option. -/
  firstTest : Option Text
  /-- The moment at which the search begins, and the one from which days are counted. -/
  now : Int
  dayStart : Int
  /-- The words, last one first. -/
  reversed : List Token
  /-- The files that have been opened, with their descriptors. -/
  opened : List (Text × Nat)
  gatherers : List Gatherer
  hasPrune : Bool
  hasDelete : Bool
  asks : Bool
  /-- Something is done with the files besides passing over some of them. -/
  acts : Bool
  /-- The last word that had a meaning. -/
  lastName : Text
  /-- The file that holds the paths. -/
  paths : Option Text

/-- Reads on, or stops with an exit code. -/
abbrev Reading := ExceptT Int (StateT Plan Task)

namespace Reading

/-- A task as a part of reading. -/
def ofTask {α : Type} (task : Task α) : Reading α := liftM (m := Task) task

/-- Complains and stops. -/
def fail {α : Type} (message : Text) : Reading α := do
  ofTask (complain message)
  throw 1

/-- A word between a grave accent and an apostrophe. -/
def quoted (t : Text) : Text := '\x60' :: t ++ ['\'']

/-- Complains of an argument of a word. -/
def failArgument {α : Type} (name argument : Text) : Reading α :=
  fail ("invalid argument ".toList ++ quoted argument ++ " to ".toList ++ quoted name)

/-- Complains that a word lacks an argument. -/
def failMissing {α : Type} (name : Text) : Reading α :=
  fail ("missing argument to ".toList ++ quoted name)

/-- Warns if that is asked for. -/
def warn (message : Text) : Reading Unit := do
  if (← get).warns then ofTask (complain ("warning: ".toList ++ message))

/-- Adds a word. -/
def add (token : Token) : Reading Unit :=
  modify fun p => { p with reversed := Token.add token p.reversed }

/-- Adds something that is asked. -/
def addTest (t : Test) : Reading Unit := add (.primary (.test t))

/-- Adds something that is done. -/
def addAction (a : Action) : Reading Unit := do
  add (.primary (.act a))
  modify fun p => { p with acts := true }

/-- Warns of an option that stands after something that is no option. -/
def warnLate (name : Text) : Reading Unit := do
  if let some first := (← get).firstTest then
    warn ("you have specified the global option ".toList ++ name ++ " after the argument ".toList ++
      first ++ ", but global options are not positional, i.e., ".toList ++ name ++
      (" affects tests specified before it as well as those specified after it.  " ++
        "Please specify global options before other arguments.").toList)

/-- The number of a depth. -/
def depth (name argument : Text) : Reading Nat := do
  if argument.isEmpty ∨ ¬ argument.all Char.isDigit then
    fail ("Expected a positive decimal integer argument to ".toList ++ name ++ ", but got ".toList ++
      Quoting.word argument)
  if 2147483647 < digitsValue argument then
    fail (argument ++ ": Numerical result out of range".toList)
  return digitsValue argument

/-- A descriptor for a file that is written. -/
def openTarget (path : Text) : Reading Nat := do
  if path = "/dev/stdout".toList then return 1
  if path = "/dev/stderr".toList then return 2
  match (← get).opened.lookup path with
  | some descriptor => return descriptor
  | none =>
    match ← ofTask (Task.openFree .output path) with
    | .error fault => fail (Quoting.word path ++ ": ".toList ++ fault.message)
    | .ok descriptor =>
      modify fun p => { p with opened := (path, descriptor) :: p.opened }
      return descriptor

/-- What a path in an argument leads to. -/
def referred (path : Text) : Reading (NodeId × Node) := do
  match ← ofTask (look ((← get).follow ≠ .none) path) with
  | .error fault => fail (Quoting.word path ++ ": ".toList ++ fault.message)
  | .ok found => return found

/-- The pieces of a description. -/
def description (pattern : Text) : Reading (List Piece) := do
  match Piece.read (pattern.length + 1) pattern with
  | .error message => fail message
  | .ok (pieces, warnings) =>
    for warning in warnings do ofTask (complain warning)
    return pieces

/-- How expressions may be written: the names, how they are read, and whether an operator of the
basic way stands without its backslash. -/
def styles : List (String × Search.Dialect × Bool) :=
  let lenient : Search.Dialect := { Search.Dialect.extended with
    leading := .literal
    keepsBraces := true
    keepsClose := true }
  [("findutils-default", .basic, true), ("ed", .basic, false), ("emacs", .basic, true),
    ("gnu-awk", lenient, false), ("grep", .basic, false), ("posix-awk", .extended, false),
    ("awk", { lenient with hasBraces := false }, false), ("posix-basic", .basic, false),
    ("posix-egrep", lenient, false), ("egrep", lenient, false),
    ("posix-extended", .extended, false), ("posix-minimal-basic", .basic, false),
    ("sed", .basic, false)]

/-- An expression whose operators for repetition stand without backslashes and whose sets name no
classes, as one in which both are otherwise.  `inner` tells how many symbols within brackets have been
passed, if any. -/
def backslashed : (inner : Option Nat) → Text → Text
  | _, [] => []
  | some n, c :: t =>
    if c = ']' ∧ n ≠ 0 then c :: backslashed none t
    else if c = '^' ∧ n = 0 then c :: backslashed (some 0) t
    else if c = '[' ∧ t.head?.any [':', '=', '.'].contains then
      "[.[.]".toList ++ backslashed (some (n + 1)) t
    else c :: backslashed (some (n + 1)) t
  | none, '[' :: t => '[' :: backslashed (some 0) t
  | none, '\\' :: c :: t =>
    if "+?\x7b\x7d".toList.contains c then c :: backslashed none t
    else '\\' :: c :: backslashed none t
  | none, c :: t =>
    if c = '+' ∨ c = '?' then '\\' :: c :: backslashed none t else c :: backslashed none t

/-- Adds the question whether a path is described by an expression. -/
def addExpression (ignoresCase : Bool) (t : Text) : Reading Unit := do
  let style := String.ofList (← get).style
  let (dialect, isBare) := (styles.lookup style).getD (Search.Dialect.basic, true)
  let written := if isBare then backslashed none t else t
  match Search.compile dialect (Search.symbols written).toList with
  | .ok compiled => addTest (.expression compiled.expression ignoresCase)
  | .error fault =>
    fail ("failed to compile regular expression '".toList ++ t ++ "': ".toList ++
      fault.message.toList)

/-- Adds the question whether something fits a pattern. -/
def addPattern (compared : Compared) (ignoresCase : Bool) (t : Text) : Reading Unit :=
  addTest (.pattern compared
    (.ofGlyphs { PatternRules.fileNames with folds := ignoresCase } (Glyph.plain t)))

/-- The letters of the kinds of files between commas. -/
def kindLetters (name : Text) (t : Text) : Reading Text := do
  if t.isEmpty then
    fail ("Arguments to ".toList ++ name ++ " should contain at least one letter".toList)
  letters [] t.length t
where
  /-- Reads the letters that are left. -/
  letters (seen : Text) : (fuel : Nat) → Text → Reading Text
    | 0, _ => return seen
    | _, [] =>
      fail ("Last file type in list argument to ".toList ++ name ++
        " is missing, i.e., list is ending on: ','".toList)
    | fuel + 1, c :: rest => do
      if c = 'D' then
        fail (name ++ (" D is not supported because Solaris doors are not supported on the " ++
          "platform find was compiled on.").toList)
      if ¬ "bcdflps".toList.contains c then
        fail ("Unknown argument to ".toList ++ name ++ ": ".toList ++ [c])
      if seen.contains c then
        fail ("Duplicate file type '".toList ++ c :: "' in the argument list to ".toList ++ name ++
          ['.'])
      match rest with
      | [] => return c :: seen
      | ',' :: rest => letters (c :: seen) fuel rest
      | _ => fail ("Must separate multiple arguments to ".toList ++ name ++ " using: ','".toList)

/-- Adds the question for the size. -/
def addSize (t : Text) : Reading Unit := do
  match t.getLast? with
  | none => fail "invalid null argument to -size".toList
  | some c =>
    let units : List (Char × Nat) :=
      [('b', 512), ('c', 1), ('w', 2), ('k', 1024), ('M', 1048576), ('G', 1073741824)]
    match units.lookup c with
    | some unit =>
      match Bound.ofText? t.dropLast with
      | some bound => addTest (.size unit bound)
      | none => fail ("Invalid argument ".toList ++ quoted t ++ " to -size".toList)
    | none =>
      if ¬ c.isDigit then fail ("invalid -size type ".toList ++ quoted [c])
      match Bound.ofText? t with
      | some bound => addTest (.size 512 bound)
      | none => fail ("Invalid argument ".toList ++ quoted t ++ " to -size".toList)

/-- A number with a fraction, as an interval in microseconds of which it counts units. -/
def interval? (unit : Nat) (t : Text) : Option Int := do
  let (x, rest) ← Binary.ofText? .usual t
  if ¬ rest.isEmpty then none
  match x.value with
  | .finite negative significand exponent =>
    let (n, d) := scaled 2 significand 1 exponent
    let length : Int := ((n * unit * 1000000) / d : Nat)
    return if negative then -length else length
  | _ => none

/-- Adds the question for the age, in units of so many seconds. -/
def addAge (name : Text) (unit : Nat) (t : Text) : Reading Unit := do
  let p ← get
  let (sense, digits) := Bound.senseOf t
  match interval? unit digits with
  | none => failArgument name t
  | some length =>
    let day : Int := 86400 * 1000000
    let origin : Int :=
      if unit = 60 then p.dayStart + day
      else if sense = .less then p.dayStart + day - 1000000
      else p.dayStart
    let turned : Sense := match sense with
      | .less => .more
      | .more => .less
      | .equal => .equal
    addTest (.window turned (origin - length) (unit * 1000000))

/-- Adds the question for the permissions. -/
def addMode (t : Text) : Reading Unit := do
  let (likeness, bits) : Likeness × Text := match t with
    | '-' :: t => (.every, t)
    | '/' :: t => (.any, t)
    | _ => (.exactly, t)
  let isOld : Bool := match t with
    | '+' :: c :: _ => c.isDigit
    | _ => false
  match if isOld || bits.isEmpty then none else Mode.change? bits with
  | none => fail ("invalid mode ".toList ++ Quoting.word t)
  | some steps =>
    let (ofFiles, ofDirectories) := (Mode.applied false 0 steps 0, Mode.applied true 0 steps 0)
    if likeness = .any ∧ ofFiles = 0 ∧ ofDirectories = 0 then
      ofTask (complain (("warning: you have specified a mode pattern ".toList ++ t ++
        (" (which is equivalent to /000). The meaning of -perm /000 has now been changed to be " ++
        "consistent with -perm -000; that is, while it used to match no files, it now matches " ++
        "all files.").toList)))
      addTest (.mode .every 0 0)
    else addTest (.mode likeness ofFiles ofDirectories)

/-- Adds the question for an owner or a group by its name. -/
def addOwner (name t : Text) (isGroup : Bool) : Reading Unit := do
  let known := if isGroup then Person.groupNamed? t else (Person.named? t).map Person.number
  if t.isEmpty then fail ("The argument to ".toList ++ name ++ " should not be empty".toList)
  if let some n := known then addTest (.owner ⟨.equal, n⟩)
  else if t.all Char.isDigit then addTest (.owner ⟨.equal, digitsValue t⟩)
  else if ¬ isGroup then fail (Quoting.word t ++ " is not the name of a known user".toList)
  else
    let digits := t.takeWhile Char.isDigit
    let rest : Text := if digits.isEmpty then []
      else " and it does not look like a numeric group ID because it has the unexpected suffix ".toList
        ++ Quoting.word (t.drop digits.length)
    fail (Quoting.word t ++ " is not the name of an existing group".toList ++ rest)

/-- A text holds the place of a path. -/
def hasBraces : Text → Bool
  | '\x7b' :: '\x7d' :: _ => true
  | _ :: t => hasBraces t
  | [] => false

/-- The words of a command up to the one that ends it, whether that is the one for many files, and
what follows; `reversed` are the words so far, last one first. -/
def commandWords (allowsMany : Bool) : (reversed : List Text) → List Text →
    Except (List Text) (List Text × Bool × List Text)
  | _, [] => .error []
  | [], [';'] :: rest => .error ([';'] :: rest)
  | reversed, [';'] :: rest => .ok (reversed.reverse, false, rest)
  | reversed, ['+'] :: rest =>
    if allowsMany && reversed.head?.any hasBraces then .ok (reversed.reverse, true, rest)
    else commandWords allowsMany (['+'] :: reversed) rest
  | reversed, t :: rest => commandWords allowsMany (t :: reversed) rest

/-- Complains if programs might be found in the directories that are searched. -/
def checkPlaces (name : Text) : Reading Unit := do
  let places := (← ofTask (Task.value? "PATH".toList)).getD "/".toList
  for place in pieces ':' places do
    if place.isEmpty ∨ place = ['.'] then
      fail (("The current directory is included in the PATH environment variable, which is " ++
        "insecure in combination with the ").toList ++ name ++ (" action of find.  Please remove " ++
        "the current directory from your $PATH (that is, remove \".\", doubled colons, or " ++
        "leading or trailing colons)").toList)
    if place.head? ≠ some '/' then
      fail ("The relative path ".toList ++ Quoting.word place ++ (" is included in the PATH " ++
        "environment variable, which is insecure in combination with the ").toList ++ name ++
        " action of find.  Please remove that entry from $PATH".toList)

/-- Adds a program that is run, and gives the words after its command. -/
def addProgram (name : Text) (within asks : Bool) (arguments : List Text) : Reading (List Text) := do
  if within then checkPlaces name
  match commandWords (!asks) [] arguments with
  | .error [] => failMissing name
  | .error (t :: _) => failArgument name t
  | .ok (command, isMany, rest) =>
    if isMany then
      let words := command.filter hasBraces
      let word := command.getLastD []
      if words.length ≠ 1 then
        fail ("Only one instance of \x7b\x7d is supported with ".toList ++ name ++
          " ... +".toList)
      if word.length ≠ 2 then
        fail ("In ".toList ++ Quoting.word (name ++ " ... \x7b\x7d +".toList) ++ " the ".toList ++
          Quoting.word "\x7b\x7d".toList ++ " must appear by itself, but you specified ".toList ++
          Quoting.word word)
      let index := (← get).gatherers.length
      modify fun p => { p with gatherers := p.gatherers ++ [⟨command.dropLast, within⟩] }
      addAction (.gather index)
    else addAction (.run command within asks)
    if asks then modify fun p => { p with asks := true }
    return rest

/-- Adds the comparison of a time with that of another file, or with a moment. -/
def addNewer (name : Text) (rest : List Text) : Reading (List Text) := do
  let letters := name.drop 6
  let isWell := letters.head?.any "aBcm".toList.contains && letters.getLast?.any "aBcmt".toList.contains
  if isWell && letters.contains 'B' then
    ofTask (complain
      "This system does not provide a way to find the birth time of a file.".toList)
  if !isWell || letters.contains 'B' then fail ("invalid predicate ".toList ++ quoted name)
  match rest with
  | [] => fail ("The ".toList ++ Quoting.word name ++ " test needs an argument".toList)
  | t :: rest =>
    if letters.getLast? = some 't' then
      let now := (← get).now
      match Calendar.moment? .universal (now.fdiv 1000000, (now.fmod 1000000).toNat * 1000) t with
      | some (second, nanosecond) =>
        addTest (.after (second * 1000000 + (nanosecond / 1000 : Nat)))
      | none =>
        fail ("I cannot figure out how to interpret ".toList ++ Quoting.word t ++
          " as a date or time".toList)
    else addTest (.after (← referred t).2.time)
    return rest

/-- The words that take no argument and set how to search. -/
def settings : List String :=
  ["depth", "d", "xdev", "mount", "noleaf", "ignore_readdir_race", "noignore_readdir_race"]

/-- Takes a word that sets how to search and has no argument. -/
def set (name : Text) : Reading Unit := do
  warnLate name
  addTest (.always true)
  if name = "-d".toList then
    warn ("the -d option is deprecated; please use -depth instead, because the latter is a " ++
      "POSIX-compliant feature.").toList
  if name = "-depth".toList ∨ name = "-d".toList then
    modify fun p => { p with innerFirst := true, asksInnerFirst := true }

/-- Takes a word that has no argument, or tells that there is none of this name. -/
def bareWord (name : Text) : Reading Bool := do
  match String.ofList (name.drop 1) with
  | "daystart" =>
    modify fun p =>
      let day : Int := 86400 * 1000000
      { p with dayStart := (p.now.fdiv day) * day }
  | "follow" =>
    addTest (.always true)
    modify fun p => { p with follow := .all }
  | "warn" =>
    addTest (.always true)
    modify fun p => { p with warns := true }
  | "nowarn" =>
    addTest (.always true)
    modify fun p => { p with warns := false }
  | "true" => addTest (.always true)
  | "false" => addTest (.always false)
  | "nouser" => addTest (.always false)
  | "nogroup" => addTest (.always false)
  | "empty" => addTest .empty
  | "readable" => addTest (.allows .reading)
  | "writable" => addTest (.allows .writing)
  | "executable" => addTest (.allows .running)
  | "print" => addAction (.tell 1 (.line '\n'))
  | "print0" => addAction (.tell 1 (.line '\x00'))
  | "ls" => addAction (.tell 1 .listing)
  | "quit" => addAction .quit
  | "prune" =>
    add (.primary (.act .prune))
    modify fun p => { p with hasPrune := true }
  | "delete" =>
    addAction .delete
    modify fun p => { p with hasDelete := true, innerFirst := true }
  | _ => return false
  return true

/-- Takes a word with one argument, or tells that there is none of this name. -/
def wordWith (name t : Text) : Reading Bool := do
  let bounded (use : Bound → Test) : Reading Unit := do
    match Bound.ofText? t with
    | some bound => addTest (use bound)
    | none => failArgument name t
  let warnSlash (isCaseless : Bool) : Reading Unit := do
    if t.contains '/' ∧ t.length ≠ 0 then
      warn (Quoting.word name ++ (" matches against basenames only, but the given pattern contains " ++
        "a directory separator (").toList ++ Quoting.word ['/'] ++ ("), thus the expression will " ++
        "evaluate to false all the time.  Did you mean ").toList ++
        Quoting.word (if isCaseless then "-iwholename" else "-wholename").toList ++ ['?'])
  let warnEnd : Reading Unit := do
    if t.getLast? = some '/' ∧ t.length ≠ 1 then
      warn (name ++ [' '] ++ t ++ " will not match anything because it ends with /.".toList)
  match String.ofList (name.drop 1) with
  | "maxdepth" =>
    let n ← depth name t
    warnLate name
    addTest (.always true)
    modify fun p => { p with most := some n }
  | "mindepth" =>
    let n ← depth name t
    warnLate name
    addTest (.always true)
    modify fun p => { p with least := n }
  | "regextype" =>
    if (styles.lookup (String.ofList t)).isNone then
      let names := styles.map fun entry => Quoting.word entry.1.toList
      fail ("Unknown regular expression type ".toList ++ Quoting.word t ++ "; valid types are ".toList
        ++ (names.intersperse ", ".toList).flatten ++ ['.'])
    addTest (.always true)
    modify fun p => { p with style := t }
  | "files0-from" =>
    addTest (.always true)
    modify fun p => { p with paths := some t }
  | "name" =>
    warnSlash false
    addPattern .name false t
  | "iname" =>
    warnSlash true
    addPattern .name true t
  | "path" =>
    warnEnd
    addPattern .path false t
  | "wholename" =>
    warnEnd
    addPattern .path false t
  | "ipath" =>
    warnEnd
    addPattern .path true t
  | "iwholename" =>
    warnEnd
    addPattern .path true t
  | "lname" => addPattern .target false t
  | "ilname" => addPattern .target true t
  | "regex" => addExpression false t
  | "iregex" => addExpression true t
  | "type" => addTest (.kind false (← kindLetters name t))
  | "xtype" => addTest (.kind true (← kindLetters name t))
  | "size" => addSize t
  | "links" => bounded .names
  | "inum" => bounded .number
  | "uid" => bounded .owner
  | "gid" => bounded .owner
  | "user" => addOwner name t false
  | "group" => addOwner name t true
  | "perm" => addMode t
  | "fstype" => addTest (.always (t = "overlay".toList))
  | "used" =>
    match Bound.ofText? t with
    | some bound => addTest (.always (bound.fits 1))
    | none => fail ("Invalid argument ".toList ++ t ++ " to -used".toList)
  | "mtime" => addAge name 86400 t
  | "atime" => addAge name 86400 t
  | "ctime" => addAge name 86400 t
  | "mmin" => addAge name 60 t
  | "amin" => addAge name 60 t
  | "cmin" => addAge name 60 t
  | "newer" => addTest (.after (← referred t).2.time)
  | "anewer" => addTest (.after (← referred t).2.time)
  | "cnewer" => addTest (.after (← referred t).2.time)
  | "samefile" => addTest (.same (← referred t).1)
  | "context" => fail "invalid predicate -context: SELinux is not enabled.".toList
  | "printf" => addAction (.tell 1 (.described (← description t)))
  | "fprint" => addAction (.tell (← openTarget t) (.line '\n'))
  | "fprint0" => addAction (.tell (← openTarget t) (.line '\x00'))
  | "fls" => addAction (.tell (← openTarget t) .listing)
  | _ => return false
  return true

/-- The words that have one argument. -/
def withArgument : List String :=
  ["maxdepth", "mindepth", "regextype", "files0-from", "name", "iname", "path", "wholename",
    "ipath", "iwholename", "lname", "ilname", "regex", "iregex", "type", "xtype", "size", "links",
    "inum", "uid", "gid", "user", "group", "perm", "fstype", "used", "mtime", "atime", "ctime",
    "mmin", "amin", "cmin", "newer", "anewer", "cnewer", "samefile", "context", "printf", "fprint",
    "fprint0", "fls"]

/-- The words that are options. -/
def optionNames : List String :=
  settings ++ ["maxdepth", "mindepth", "files0-from", "daystart", "follow", "warn", "nowarn",
    "regextype"]

/-- Takes a word that joins or denies others or is a parenthesis. -/
def connective? (name : Text) : Option Token :=
  let bare := match name with
    | '-' :: t => t
    | t => t
  match String.ofList bare with
  | "(" => some (.opens name false)
  | ")" => some (.closes false)
  | "!" => some (.denies name)
  | "not" => if bare = name then none else some (.denies name)
  | "a" => some (.joins .both name)
  | "and" => some (.joins .both name)
  | "o" => some (.joins .either name)
  | "or" => some (.joins .either name)
  | "," => some (.joins .second name)
  | _ => none

/-- Takes a word, and gives the words after it and its arguments. -/
def word (name : Text) (rest : List Text) : Reading (List Text) := do
  let bare := String.ofList (name.drop 1)
  if let some token := connective? name then
    add token
    return rest
  if settings.contains bare then
    set name
    return rest
  if ← bareWord name then return rest
  if "-newer".toList.isPrefixOf name ∧ name.length = 8 then return ← addNewer name rest
  if withArgument.contains bare then
    match rest with
    | [] => failMissing name
    | t :: rest =>
      let _ ← wordWith name t
      return rest
  match bare with
  | "fprintf" =>
    match rest with
    | path :: pattern :: rest =>
      let descriptor ← openTarget path
      addAction (.tell descriptor (.described (← description pattern)))
      return rest
    | [path] => failArgument name path
    | [] => failMissing name
  | "exec" => addProgram name false false rest
  | "execdir" => addProgram name true false rest
  | "ok" => addProgram name false true rest
  | "okdir" => addProgram name true true rest
  | _ => fail ("unknown predicate ".toList ++ quoted name)

/-- A word is no path but a part of a criterion. -/
def isWord (leading : Bool) (t : Text) : Bool :=
  match t with
  | ['-'] => false
  | '-' :: _ => true
  | [c] => c = '(' || c = '!' || (!leading && (c = ')' || c = ','))
  | _ => false

/-- Takes all words, of which there are at most as many as given. -/
def words : (fuel : Nat) → List Text → Reading Unit
  | 0, _ => pure ()
  | _, [] => pure ()
  | fuel + 1, name :: rest => do
    if ¬ isWord false name then
      ofTask (complain ("paths must precede expression: ".toList ++ quoted name))
      if (← ofTask (look? true name)).isSome then
        ofTask (complain ("possible unquoted pattern after predicate ".toList ++
          quoted (← get).lastName ++ ['?']))
      throw 1
    let rest ← word name rest
    modify fun p => { p with
      lastName := name
      firstTest :=
        if p.firstTest.isSome || optionNames.contains (String.ofList (name.drop 1)) ||
          (connective? name).isSome then p.firstTest else some name }
    words fuel rest

/-- The criterion that has been read.  If nothing is done with the files, they are told. -/
def criterion : Reading Criterion := do
  let p ← get
  let written := p.reversed.reverse
  let tell : Token := .primary (.act (.tell 1 (.line '\n')))
  let tokens :=
    if written.isEmpty then [tell]
    else if p.acts then written
    else .opens ['('] true :: written ++ [.closes true, .joins .both "-a".toList, tell]
  match Token.whole tokens with
  | .error message => fail message
  | .ok c => return c

end Reading

end LineShell.Sh.Tool.Finding
