import LineShell.Computer.Sh.Commands.Extended.Variables
import LineShell.Computer.Sh.Switch

/-!
# Commands of the extended language about the process

Switches and settings, arguments, words that stand for others, permissions of new files, options
among arguments, and directories, to which the process may return.
-/

namespace LineShell.Sh.Commands.Extended

/-- A process with a switch turned on or off. -/
def turned (on : Bool) (letter : Char) (p : Process) : Process :=
  let others := p.switches.filter (· ≠ letter)
  { p with switches := if on then letter :: others else others }

/-- A process with a setting turned on or off. -/
def settled (on : Bool) (name : Text) (p : Process) : Process :=
  let others := p.extras.settings.filter (· ≠ name)
  { p with extras := { p.extras with settings := if on then name :: others else others } }

/-- A switch or setting of a name is on. -/
def isOnIn (p : Process) (name : Text) : Option Char → Bool
  | some letter => p.isOn letter
  | none => p.extras.settings.contains name

/-- A process with a switch of a name turned on or off; nothing if there is none. -/
def turnedByName? (on : Bool) (name : Text) (p : Process) : Option Process :=
  match Switch.extendedTable.lookup name with
  | none => none
  | some (some letter) => some (turned on letter p)
  | some none => some (settled on name p)

/-- Lists the switches, for a reader or as commands. -/
def listSwitches (asCommands : Bool) (shows : Text → Bool → Bool) : Task Unit := do
  let p ← Task.process
  for (name, letter) in Switch.extendedTable do
    let isOn := isOnIn p name letter
    if shows name isOn then
      if asCommands then
        Task.print 1 ((if isOn then "set -o " else "set +o ").toList ++ name ++ ['\n'])
      else Task.print 1 (Switch.row name isOn)

/-- Turns the switches of letters, of which `o` stands for the name that is the next argument.  The
arguments that are left are given. -/
def turnLetters (on : Bool) : Text → List Text → Task (List Text)
  | [], rest => return rest
  | 'o' :: letters, [] => do
    listSwitches (!on) fun _ _ => true
    turnLetters on letters []
  | 'o' :: letters, name :: rest => do
    match turnedByName? on name (← Task.process) with
    | some p => Task.modifyProcess fun _ => p
    | none =>
      Task.complain (name ++ ": invalid option name".toList)
      failWith 2
    turnLetters on letters rest
  | c :: letters, rest => do
    if Switch.extendedLetters.contains c then Task.modifyProcess (turned on c)
    else misused ((if on then '-' else '+') :: c :: ": invalid option".toList)
    turnLetters on letters rest

/-- Turns switches and sets the arguments, in at most `fuel` steps. -/
def setWithin : Nat → List Text → Task Unit
  | 0, _ => pure ()
  | _, [] => pure ()
  | fuel + 1, argument :: rest => do
    match argument with
    | ['-', '-'] => setArguments rest
    | ['-'] =>
      Task.modifyProcess fun p => turned false 'x' (turned false 'v' p)
      if !rest.isEmpty then setArguments rest
    | ['+'] => setWithin fuel rest
    | '-' :: letters => setWithin fuel (← turnLetters true letters rest)
    | '+' :: letters => setWithin fuel (← turnLetters false letters rest)
    | _ => setArguments (argument :: rest)

/-- Turns switches and sets the arguments, or lists the variables and the functions, of which
`showFunction` gives the text. -/
def set (showFunction : Text → Script → Text) (arguments : List Text) : Task Int := do
  if arguments.isEmpty then
    Declaring.list Declaring.listed fun _ => true
    let functions := (← Task.process).functions
    for name in sorted (functions.map Prod.fst) do
      match functions.lookup name with
      | some body => Task.print 1 (showFunction name body)
      | none => pure ()
    return 0
  setWithin (arguments.length + 1) arguments
  return 0

/-- Turns settings on or off, or lists them. -/
def shopt (arguments : List Text) : Task Int := do
  let (given, names) ← optionsOf "pqsuo" "" arguments
  let isQuiet := has given 'q'
  let isCommand := has given 'p'
  let sets := has given 's'
  let unsets := has given 'u'
  if sets ∧ unsets then fail "cannot set and unset shell options simultaneously".toList
  if has given 'o' then
    if names.isEmpty then
      listSwitches isCommand fun _ isOn => !isQuiet && (!sets || isOn) && (!unsets || !isOn)
      return 0
    let mut status : Int := 0
    for name in names do
      let p ← Task.process
      match Switch.extendedTable.lookup name with
      | none =>
        Task.complain (name ++ ": invalid option name".toList)
        status := 1
      | some letter =>
        if sets ∨ unsets then
          Task.modifyProcess fun p => (turnedByName? sets name p).getD p
        else
          let isOn := isOnIn p name letter
          if ¬ isOn then status := 1
          if ¬ isQuiet then listSwitches isCommand fun other _ => other = name
    return status
  let line (name : Text) (isOn : Bool) : Text :=
    if isCommand then (if isOn then "shopt -s " else "shopt -u ").toList ++ name ++ ['\n']
    else Switch.row name isOn
  if names.isEmpty then
    let settings := (← Task.process).extras.settings
    for (name, _) in Switch.settings do
      let isOn := settings.contains name
      if (!sets || isOn) && (!unsets || !isOn) && !isQuiet then Task.print 1 (line name isOn)
    return 0
  let mut status : Int := 0
  for name in names do
    if (Switch.settings.lookup name).isNone then
      Task.complain (name ++ ": invalid shell option name".toList)
      status := 1
    else if sets ∨ unsets then Task.modifyProcess (settled sets name)
    else
      let isOn := (← Task.process).extras.settings.contains name
      if ¬ isOn then status := 1
      if ¬ isQuiet then Task.print 1 (line name isOn)
  return status

/-- Drops the first arguments. -/
def shift (arguments : List Text) : Task Int := do
  let n ← numberOr 1 1 arguments
  let p ← Task.process
  let isTold := p.extras.settings.contains "shift_verbose".toList
  if n < 0 then fail (arguments.headD [] ++ ": shift count out of range".toList)
  if p.arguments.length < n.toNat then
    if isTold then Task.complain (arguments.headD ['1'] ++ ": shift count out of range".toList)
    return 1
  Task.modifyProcess fun p => { p with arguments := p.arguments.drop n.toNat }
  return 0

/-- An alias, so that it can be read again. -/
def aliasLine (entry : Text × Text) : Text :=
  "alias ".toList ++ entry.1 ++ '=' :: Quotation.inSingle entry.2 ++ ['\n']

/-- Makes words stand for others, or tells what they stand for. -/
def setAliases (arguments : List Text) : Task Int := do
  let (given, rest) ← optionsOf "p" "" arguments
  if rest.isEmpty ∨ has given 'p' then
    let known := (← Task.process).aliases
    for name in sorted (known.map Prod.fst) do
      Task.print 1 (aliasLine (name, (known.lookup name).getD []))
  let mut status : Int := 0
  for argument in rest do
    let name := argument.takeWhile (· ≠ '=')
    match if name.isEmpty then [] else argument.drop name.length with
    | _ :: value =>
      Task.modifyProcess fun p => { p with aliases := Task.assign name value p.aliases }
    | [] =>
      match (← Task.process).aliases.lookup argument with
      | some value => Task.print 1 (aliasLine (argument, value))
      | none =>
        Task.complain (argument ++ ": not found".toList)
        status := 1
  return status

/-- Makes words stand for themselves again. -/
def dropAliases (arguments : List Text) : Task Int := do
  let (given, names) ← optionsOf "a" "" arguments
  if has given 'a' then
    Task.modifyProcess fun p => { p with aliases := [] }
    return 0
  if names.isEmpty then mistaken
  let mut status : Int := 0
  for name in names do
    if ((← Task.process).aliases.lookup name).isSome then
      Task.modifyProcess fun p => { p with aliases := p.aliases.filter (·.1 ≠ name) }
    else
      Task.complain (name ++ ": not found".toList)
      status := 1
  return status

namespace Mask

/-- The permissions of three kinds of people after clauses that change them, or what is wrong. -/
def clauses : (fuel : Nat) → List Nat → Text → Except Text (List Nat)
  | 0, granted, _ => .ok granted
  | fuel + 1, granted, t => do
    let who := t.takeWhile ("ugoa".toList.contains ·)
    let rest := t.drop who.length
    let wrong (c : Char) (what : String) : Text :=
      '\x60' :: c :: "': invalid symbolic mode ".toList ++ what.toList
    let people := if who.isEmpty || who.contains 'a' then "ugo".toList else who
    match rest with
    | [] => throw (wrong '\x00' "operator")
    | sign :: rest =>
      if !(['+', '-', '='].contains sign) then throw (wrong sign "operator")
      let letters := rest.takeWhile ("rwxXst".toList.contains ·)
      let value (c : Char) : Nat :=
        if c = 'r' then 4 else if c = 'w' then 2 else if c = 'x' ∨ c = 'X' then 1 else 0
      let bits := (letters.map value).foldl Nat.lor 0
      let change (old : Nat) : Nat :=
        if sign = '+' then Nat.lor old bits
        else if sign = '-' then old - Nat.land old bits
        else bits
      let granted := (granted.zip "ugo".toList).map fun (old, person) =>
        if people.contains person then change old else old
      match rest.drop letters.length with
      | [] => return granted
      | ',' :: more => clauses fuel granted more
      | c :: _ => throw (wrong c "character")

/-- The letters of the permissions that a mask leaves. -/
def letters (mask : Nat) : Text :=
  "u=".toList ++ granted (mask / 64) ++ ",g=".toList ++ granted (mask / 8) ++
    ",o=".toList ++ granted mask

end Mask

/-- Shows or changes the permissions that new files do not get. -/
def umask (arguments : List Text) : Task Int := do
  let (given, rest) ← optionsOf "Sp" "" arguments
  let tell : Task Unit := do
    let mask := (← Task.process).mask
    let word : Text := if has given 'p' then
      (if has given 'S' then "umask -S " else "umask ").toList else []
    Task.print 1 (word ++ (if has given 'S' then Mask.letters mask else octal mask) ++ ['\n'])
  match rest with
  | [] => tell
  | t :: _ =>
    if t.head?.any Char.isDigit then
      if (t.all fun c => '0' ≤ c && c ≤ '7') && digitsIn 8 t ≤ 0o777 then
        Task.modifyProcess fun p => { p with mask := digitsIn 8 t }
      else fail (t ++ ": octal number out of range".toList)
    else
      let mask := (← Task.process).mask
      let before := [mask / 64 % 8, mask / 8 % 8, mask % 8].map (7 - ·)
      match Mask.clauses (t.length + 1) before t with
      | .ok [u, g, o] =>
        Task.modifyProcess fun p => { p with mask := (7 - u) * 64 + (7 - g) * 8 + (7 - o) }
      | .ok _ => pure ()
      | .error message => fail message
    if has given 'S' then tell
  return 0

/-- Reads one more option into variables.  The exit code tells whether there was one. -/
def getOption (arguments : List Text) : Task Int := do
  let (_, rest) ← optionsOf "" "" arguments
  match rest with
  | known :: name :: given =>
    let p ← Task.process
    let among := if given.isEmpty then p.arguments else given
    let place := if among.length + 1 < p.options.index then .first else p.options
    let found := nextOption known among place
    let isTold := (← Values.text? "OPTERR".toList) ≠ some ['0']
    match if isTold then found.fault else none with
    | some (.unknown c) =>
      Task.print 2 (p.name ++ ": illegal option -- ".toList ++ [c, '\n'])
    | some (.valueless c) =>
      Task.print 2 (p.name ++ ": option requires an argument -- ".toList ++ [c, '\n'])
    | none => pure ()
    let value := if found.isOver then none else found.value.filter (!·.isEmpty)
    match value with
    | some t => Values.assign "OPTARG".toList none false t
    | none => Values.unset "OPTARG".toList
    Values.place "OPTIND".toList none (numeral found.next.index)
    Task.modifyProcess fun p => { p with options := found.next }
    if !Grammar.isName name then fail (notName name)
    Values.assign name none false [found.letter]
    return if found.isOver then 1 else 0
  | _ => mistaken

namespace Directories

/-- A path with the home directory told by its sign. -/
def abbreviated (home : Option Text) (path : Text) : Text :=
  match home with
  | none => path
  | some home =>
    if home.isEmpty ∨ home = ['/'] then path
    else if path = home then ['~']
    else if (home ++ ['/']).isPrefixOf path then '~' :: path.drop home.length
    else path

/-- Shows the directories to which the process may return. -/
def tell : Task Unit := do
  let p ← Task.process
  let home ← Values.text? "HOME".toList
  let shown := (p.path :: p.extras.directories).map (abbreviated home)
  Task.print 1 ([' '].intercalate shown ++ ['\n'])

/-- Goes to a directory, or tells why that is not possible. -/
def go (placeCounts : Bool) (path : Text) : Task Unit := do
  let m ← get
  if ¬ (← goTo placeCounts path) then
    let fault : FileFault :=
      match m.files.find true m.process.directory path with
      | .error fault => fault
      | .ok id => if m.files.isDirectory id then .denied else .notDirectory
    fail (path ++ ": ".toList ++ fault.message)

/-- The place in a list of directories that a word with a sign means: from the left, or from the
right. -/
def place? (count : Nat) : Text → Option (Option Nat)
  | sign :: digits =>
    if (sign = '+' ∨ sign = '-') ∧ !digits.isEmpty ∧ digits.all Char.isDigit then
      let n := digitsValue digits
      some (if count ≤ n then none else some (if sign = '+' then n else count - 1 - n))
    else none
  | [] => none

/-- Makes the first of some directories the current one, and keeps the others. -/
def enter (all : List Text) : Task Unit := do
  go false (all.headD [])
  Task.modifyProcess fun p => { p with extras := { p.extras with directories := all.tail } }

/-- The options and the only other argument of a command about directories. -/
def request (arguments : List Text) : Except Text (Bool × Option Text) :=
  match arguments with
  | [] => .ok (false, none)
  | ['-', '-'] :: rest =>
    if rest.tail.isEmpty then .ok (false, rest.head?) else .error "too many arguments".toList
  | ['-', 'n'] :: rest => do
    let (_, other) ← request rest
    return (true, other)
  | t :: rest => if rest.isEmpty then .ok (false, some t) else .error "too many arguments".toList

end Directories

/-- Changes the directory. -/
def changeDirectory (arguments : List Text) : Task Int := do
  let (given, rest) ← optionsOf "LPe@" "" arguments
  let isPhysical := (given.map Prod.fst).foldl (fun b c =>
    if c = 'P' then true else if c = 'L' then false else b) ((← Task.process).isOn 'P')
  match rest with
  | _ :: _ :: _ => fail "too many arguments".toList
  | [['-']] =>
    match ← Values.text? "OLDPWD".toList with
    | none => fail "OLDPWD not set".toList
    | some path =>
      Directories.go isPhysical path
      Task.print 1 ((← Task.process).path ++ ['\n'])
      return 0
  | [] =>
    match ← Values.text? "HOME".toList with
    | none => fail "HOME not set".toList
    | some path =>
      if !path.isEmpty then Directories.go isPhysical path
      return 0
  | [path] =>
    if path.isEmpty then return 0
    let (whole, isOther) ← fromStartingPoints path (← startingPoints path)
    let m ← get
    let isThere := (m.files.find true m.process.directory whole).toOption.isSome
    let named ← Values.text? path
    let isNamed := !isThere && m.process.extras.settings.contains "cdable_vars".toList &&
      named.isSome
    Directories.go isPhysical (if isNamed then named.getD [] else whole)
    if isOther ∨ isNamed then Task.print 1 ((← Task.process).path ++ ['\n'])
    return 0

/-- Writes the current directory. -/
def printDirectory (arguments : List Text) : Task Int := do
  let (given, _) ← optionsOf "LP" "" arguments
  let letters := given.map Prod.fst
  let letters := if letters.isEmpty ∧ (← Task.process).isOn 'P' then ['P'] else letters
  Commands.printDirectory letters []

/-- Goes to a directory, to which the one before is kept to return, or exchanges directories. -/
def pushDirectory (arguments : List Text) : Task Int := do
  let p ← Task.process
  let kept := p.extras.directories
  let keep (directories : List Text) : Task Unit :=
    Task.modifyProcess fun p => { p with extras := { p.extras with directories } }
  match Directories.request arguments with
  | .error message => fail message
  | .ok (stays, none) =>
    match kept with
    | [] => fail "no other directory".toList
    | first :: rest =>
      if stays then keep (p.path :: rest) else Directories.enter (first :: p.path :: rest)
  | .ok (stays, some t) =>
    let all := p.path :: kept
    match Directories.place? all.length t with
    | some (some n) =>
      let turned := all.drop n ++ all.take n
      if stays then keep turned.tail else Directories.enter turned
    | some none =>
      if kept.isEmpty then fail "directory stack empty".toList
      else fail (t ++ ": directory stack index out of range".toList)
    | none =>
      if t.head? = some '-' ∧ t ≠ ['-'] then
        Task.complain (t ++ ": invalid number".toList)
        tellUsage
        failWith 2
      if stays then keep (t :: kept)
      else
        Directories.go false t
        keep (p.path :: kept)
  Directories.tell
  return 0

/-- Returns to a directory that was kept. -/
def popDirectory (arguments : List Text) : Task Int := do
  let p ← Task.process
  let kept := p.extras.directories
  match Directories.request arguments with
  | .error _ => mistaken
  | .ok (stays, target) =>
    let all := p.path :: kept
    let place ← match target with
      | none => pure (some 0)
      | some t =>
        match Directories.place? all.length t with
        | some place => pure place
        | none =>
          Task.complain (t ++ ": invalid argument".toList)
          tellUsage
          failWith 2
    if kept.isEmpty then fail "directory stack empty".toList
    match place with
    | none =>
      fail (target.getD [] ++ ": directory stack index out of range".toList)
    | some 0 =>
      if stays then
        Task.modifyProcess fun p =>
          { p with extras := { p.extras with directories := kept.tail } }
      else Directories.enter kept
    | some n =>
      let left := kept.take (n - 1) ++ kept.drop n
      Task.modifyProcess fun p => { p with extras := { p.extras with directories := left } }
  Directories.tell
  return 0

/-- Shows or forgets the directories to which the process may return. -/
def listDirectories (arguments : List Text) : Task Int := do
  let p ← Task.process
  let home ← Values.text? "HOME".toList
  let letters := (arguments.filter fun t =>
    t.head? = some '-' && !(t.tail.all Char.isDigit)).flatMap List.tail
  let target := arguments.find? fun t =>
    (t.head? = some '+' || t.head? = some '-') && !t.tail.isEmpty && t.tail.all Char.isDigit
  match letters.find? fun c => !"clpv".toList.contains c with
  | some c => misused ('-' :: c :: ": invalid number".toList)
  | none => pure ()
  if letters.contains 'c' then
    Task.modifyProcess fun p => { p with extras := { p.extras with directories := [] } }
    return 0
  let paths := p.path :: p.extras.directories
  let all := paths.map fun path =>
    if letters.contains 'l' then path else Directories.abbreviated home path
  match target with
  | some t =>
    match Directories.place? all.length t with
    | some (some n) => Task.print 1 ((all[n]?).getD [] ++ ['\n'])
    | _ =>
      if p.extras.directories.isEmpty then fail "directory stack empty".toList
      else fail (t.tail ++ ": directory stack index out of range".toList)
  | none =>
    if letters.contains 'v' then
      for (path, n) in all.zip (List.range all.length) do
        let n := numeral n
        Task.print 1 (List.replicate (2 - n.length) ' ' ++ n ++ "  ".toList ++ path ++ ['\n'])
    else if letters.contains 'p' then
      for path in all do
        Task.print 1 (path ++ ['\n'])
    else Task.print 1 ([' '].intercalate all ++ ['\n'])
  return 0

end LineShell.Sh.Commands.Extended
