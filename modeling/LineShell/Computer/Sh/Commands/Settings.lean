import LineShell.Computer.Sh.Commands.Variables
import LineShell.Computer.Sh.Switch

/-!
# Commands about the process

Switches and arguments, words that stand for others, permissions of new files, and the current
directory.
-/

namespace LineShell.Sh.Commands

/-- Turns switches on or off. -/
def turnSwitches (on : Bool) (letters : Text) (p : Process) : Process :=
  { p with switches := Switch.turned on letters p.switches }

/-- What is told instead of turning the control of jobs on, for which there is no terminal. -/
def noTerminal : Text := "can't access tty; job control turned off".toList

/-- Turns the switch of a letter. -/
def turnLetter (on : Bool) (letter : Char) : Task Unit := do
  if on ∧ letter = 'm' then Task.complain noTerminal
  else if Switch.letters.contains letter then Task.modifyProcess (turnSwitches on [letter])
  else Task.fail ("Illegal option -".toList ++ [letter])

/-- Turns the switch of a name. -/
def turnNamed (on : Bool) (name : Text) : Task Unit := do
  match Switch.table.lookup name with
  | some letter =>
    for c in letter.toList do
      turnLetter on c
  | none => Task.fail ((if on then "Illegal option -o " else "Illegal option +o ").toList ++ name)

/-- Lists the switches. -/
def listSwitches (on : Bool) : Task Unit := do
  let p ← Task.process
  Task.print 1 (if on then Switch.overview p.switches else Switch.commands p.switches)

/-- Turns the switches of letters, of which `o` stands for the name that is the next argument.  The
arguments that are left are given. -/
def turnLetters (on : Bool) : Text → List Text → Task (List Text)
  | [], rest => return rest
  | 'o' :: letters, [] => do
    listSwitches on
    turnLetters on letters []
  | 'o' :: letters, name :: rest => do
    turnNamed on name
    turnLetters on letters rest
  | c :: letters, rest => do
    turnLetter on c
    turnLetters on letters rest

/-- Sets the arguments. -/
def setArguments (arguments : List Text) : Task Unit :=
  Task.modifyProcess fun p => { p with arguments, options := .first }

/-- Turns switches and sets the arguments, in at most `fuel` steps. -/
def setWithin : Nat → List Text → Task Unit
  | 0, _ => pure ()
  | _, [] => pure ()
  | fuel + 1, argument :: rest => do
    match argument with
    | ['-', '-'] => setArguments rest
    | ['-'] =>
      Task.modifyProcess (turnSwitches false ['x', 'v'])
      if !rest.isEmpty then setArguments rest
    | '-' :: letters => setWithin fuel (← turnLetters true letters rest)
    | '+' :: letters => setWithin fuel (← turnLetters false letters rest)
    | _ => setArguments (argument :: rest)

/-- Turns switches and sets the arguments, or lists the variables. -/
def set (arguments : List Text) : Task Int := do
  if arguments.isEmpty then listVariables [] fun v => v.value.isSome
  else
    setWithin arguments.length arguments
    return 0

/-- Drops the first arguments. -/
def shift (arguments : List Text) : Task Int := do
  let n ← numberOr 1 arguments
  let p ← Task.process
  if p.arguments.length < n.toNat then Task.fail "can't shift that many".toList
  else
    setArguments (p.arguments.drop n.toNat)
    return 0

/-- An alias, so that it can be read again. -/
def aliasLine (entry : Text × Text) : Text :=
  entry.1 ++ '=' :: inQuotes entry.2 ++ ['\n']

/-- The place of a name in the order in which aliases and variables are told. -/
def bucket (size : Nat) (name : Text) : Nat :=
  (name.foldl (fun n c => n + c.toNat) ((name.headD '\x00').toNat * 16)) % size

/-- Entries by the places of their names; those of one place stay as they are. -/
def inBuckets {α : Type} (size : Nat) (entries : List (Text × α)) : List (Text × α) :=
  (List.range size).flatMap fun n => entries.filter fun entry => bucket size entry.1 = n

/-- Makes words stand for others, or tells what they stand for. -/
def setAliases (arguments : List Text) : Task Int := do
  if arguments.isEmpty then
    for entry in inBuckets 39 (← Task.process).aliases do
      Task.print 1 (aliasLine entry)
  let mut status : Int := 0
  for argument in arguments do
    let name := argument.take 1 ++ (argument.drop 1).takeWhile (· ≠ '=')
    match argument.drop name.length with
    | _ :: value =>
      Task.modifyProcess fun p => { p with aliases := Task.assign name value p.aliases }
    | [] =>
      match (← Task.process).aliases.lookup name with
      | some value => Task.print 1 (aliasLine (name, value))
      | none =>
        Task.print 2 ("alias: ".toList ++ name ++ " not found\n".toList)
        status := 1
  return status

/-- Makes words stand for themselves again. -/
def dropAliases (arguments : List Text) : Task Int := do
  let (given, names) ← optionsOf "a" "" arguments
  if !given.isEmpty then
    Task.modifyProcess fun p => { p with aliases := [] }
    return 0
  let mut status : Int := 0
  for name in names do
    if ((← Task.process).aliases.lookup name).isSome then
      Task.modifyProcess fun p => { p with aliases := p.aliases.filter (·.1 ≠ name) }
    else
      Task.print 2 ("unalias: ".toList ++ name ++ " not found\n".toList)
      status := 1
  return status

/-- A digit for each three permissions. -/
def octal (n : Nat) : Text :=
  [n / 512 % 8, n / 64 % 8, n / 8 % 8, n % 8].map Nat.digitChar

/-- The letters of the permissions that a digit takes away leaves. -/
def granted (digit : Nat) : Text :=
  (if digit / 4 % 2 = 0 then ['r'] else []) ++ (if digit / 2 % 2 = 0 then ['w'] else []) ++
    (if digit % 2 = 0 then ['x'] else [])

/-- The permissions of three kinds of people after one clause that changes them, such as `u+x`. -/
def clause? (granted : List Nat) (t : Text) : Option (List Nat) :=
  let who := t.takeWhile ("ugoa".toList.contains ·)
  let who := if who.isEmpty || who.contains 'a' then "ugo".toList else who
  match t.dropWhile ("ugoa".toList.contains ·) with
  | sign :: letters =>
    let value? (c : Char) : Option Nat :=
      match c with
      | 'r' => some 4
      | 'w' => some 2
      | 'x' => some 1
      | 'X' => some 1
      | 's' => some 0
      | 't' => some 0
      | 'u' => granted[0]?
      | 'g' => granted[1]?
      | 'o' => granted[2]?
      | _ => none
    match letters.mapM value? with
    | none => none
    | some values =>
      let bits := values.foldl Nat.lor 0
      let change (old : Nat) : Option Nat :=
        match sign with
        | '+' => some (Nat.lor old bits)
        | '-' => some (old - Nat.land old bits)
        | '=' => some bits
        | _ => none
      (granted.zip "ugo".toList).mapM fun (old, person) =>
        if who.contains person then change old else some old
  | [] => none

/-- Shows or changes the permissions that new files do not get. -/
def umask (letters : Text) (arguments : List Text) : Task Int := do
  let mask := (← Task.process).mask
  match arguments with
  | [] =>
    if letters.contains 'S' then
      Task.print 1 ("u=".toList ++ granted (mask / 64) ++ ",g=".toList ++ granted (mask / 8) ++
        ",o=".toList ++ granted mask ++ ['\n'])
    else Task.print 1 (octal mask ++ ['\n'])
    return 0
  | t :: _ =>
    if t.head?.any Char.isDigit then
      if t.all fun c => '0' ≤ c && c ≤ '7' then
        Task.modifyProcess fun p => { p with mask := digitsIn 8 t % 512 }
        return 0
      else Task.fail ("Illegal number: ".toList ++ t)
    else
      let before := [mask / 64 % 8, mask / 8 % 8, mask % 8].map (7 - ·)
      match (pieces ',' t).foldlM clause? before with
      | some [u, g, o] =>
        Task.modifyProcess fun p => { p with mask := (7 - u) * 64 + (7 - g) * 8 + (7 - o) }
        return 0
      | _ => Task.fail ("Illegal mode: ".toList ++ t)

/-- The path that another one leads to, whose names are only put together: going up takes the last
name away. -/
def joinedPath (old path : Text) : Text :=
  let slashes := path.takeWhile (· = '/')
  let root : Text :=
    if slashes.isEmpty then (if "//".toList.isPrefixOf old then ['/', '/'] else ['/'])
    else if slashes.length = 2 then ['/', '/'] else ['/']
  let before := if slashes.isEmpty then (Path.names old).filter (· ≠ []) else []
  let names := (Path.names path).foldl (fun names name =>
    if name = [] ∨ name = ['.'] then names
    else if name = ['.', '.'] then names.dropLast
    else names ++ [name]) before
  root ++ ['/'].intercalate names

/-- Goes to another directory, which tells whether that is possible.  The way there is kept unless
the place itself counts. -/
def goTo (placeCounts : Bool) (path : Text) : Task Bool := do
  let m ← get
  let joined := if placeCounts then path else joinedPath m.process.path path
  match m.files.find true m.process.directory joined with
  | .error _ => return false
  | .ok id =>
    if ¬ (m.files.isDirectory id && m.files.isOpen id) then return false
    let reached := if placeCounts then m.files.pathOf id else joined
    let set (name value : Text) : Task Unit :=
      Task.alterVariable name (some value) fun v => { v with exported := true }
    set "OLDPWD".toList m.process.path
    Task.modifyProcess fun p => { p with directory := id, path := reached }
    set "PWD".toList reached
    return true

/-- The directories in front of which a path is tried: none, or those that a variable names unless
the path begins with a slash or a dot of its own. -/
def startingPoints (path : Text) : Task (List Text) := do
  let first := (pieces '/' path).headD []
  if path.head? = some '/' ∨ first = ['.'] ∨ first = ['.', '.'] then return []
  match ← Task.value? "CDPATH".toList with
  | none => return []
  | some t => return pieces ':' t

/-- Tries to find a directory from starting points, and tells the path and whether it is another
one than was given. -/
def fromStartingPoints (path : Text) : List Text → Task (Text × Bool)
  | [] => return (path, false)
  | start :: rest => do
    let m ← get
    let whole := if start = [] then path else start ++ '/' :: path
    match m.files.find true m.process.directory whole with
    | .ok id =>
      if m.files.isDirectory id then return (whole, start ≠ [])
      else fromStartingPoints path rest
    | .error _ => fromStartingPoints path rest

/-- Changes the directory.  Without a path it is the one that a variable names, if there is one. -/
def changeDirectory (letters : Text) (arguments : List Text) : Task Int := do
  let back := arguments.head? = some ['-']
  let path ←
    match arguments with
    | [] => pure ((← Task.value? "HOME".toList).getD [])
    | ['-'] :: _ => pure ((← Task.value? "OLDPWD".toList).getD [])
    | path :: _ => pure path
  let path := if path = [] then ['.'] else path
  let (path, isOther) ← fromStartingPoints path (← startingPoints path)
  if ← goTo (letters.getLast? = some 'P') path then
    if back || isOther then Task.print 1 ((← Task.process).path ++ ['\n'])
    return 0
  else
    Task.fail ("can't cd to ".toList ++ path)

/-- Writes the current directory. -/
def printDirectory (letters : Text) (_ : List Text) : Task Int := do
  let p ← Task.process
  let files ← Task.files
  let path := if letters.getLast? = some 'P' then files.pathOf p.directory else p.path
  Task.print 1 (path ++ ['\n'])
  return 0

end LineShell.Sh.Commands
