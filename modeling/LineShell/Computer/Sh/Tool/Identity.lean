import LineShell.Computer.Sh.Person
import LineShell.Computer.Sh.Tool.Entries
import LineShell.Computer.Sh.Tool.Size

/-!
# Tools that tell who and where one is

They tell in whose name everything is done, what the system is called, and who else is there, which
is nobody.
-/

namespace LineShell.Sh.Tool

namespace Identity

/-- The person whom a word names, by name or by number. -/
def person? (t : Text) : Option Person :=
  let digits := if t.head? = some '+' then t.tail else t
  (Person.named? t).or <|
    if !digits.isEmpty && digits.all Char.isDigit then Person.numbered? (digitsValue digits)
    else none

/-- The name of a group, or its number if it has none. -/
def groupText (n : Nat) : Text :=
  match Person.groupName? n with
  | some name => name.toList
  | none => numeral n

/-- All that is known about a person. -/
def description (p : Person) : Text :=
  let named (key : String) (n : Nat) (name : Text) : Text :=
    key.toList ++ '=' :: numeral n ++ '(' :: name ++ [')']
  let group := groupText p.group
  [' '].intercalate [named "uid" p.number p.name.toList, named "gid" p.group group,
    named "groups" p.group group]

/-- What options ask about a person. -/
def answer (given : Given) (p : Person) : Text :=
  let isName := given.has "n"
  match given.lastOf "ugG" with
  | some 'u' => if isName then p.name.toList else numeral p.number
  | some _ => if isName then groupText p.group else numeral p.group
  | none => description p

/-- What is wrong with options that do not go together. -/
def clash? (given : Given) : Option String :=
  let isChosen := given.hasAny "ugG"
  if 1 < ["u", "g", "G"].countP given.has then
    some "cannot print \"only\" of more than one choice"
  else if !isChosen && given.hasAny "rn" then
    some "cannot print only names or real IDs in default format"
  else if !isChosen && given.has "z" then some "option --zero not permitted in default format"
  else none

end Identity

/-- How `id` takes options. -/
def idUsage : Usage :=
  .free (OptionForm.flags [('u', "user"), ('g', "group"), ('G', "groups"), ('n', "name"),
    ('r', "real"), ('z', "zero"), ('Z', "context")] ++ OptionForm.letters "a")

/-- Tells who persons are. -/
def identify (given : Given) (names : List Text) : Task Int := do
  let clash : Option String :=
    if given.has "Z" then some "--context (-Z) works only on an SELinux-enabled kernel"
    else Identity.clash? given
  if let some message := clash then
    complain message.toList
    return 1
  let ending : Text :=
    if ¬ given.has "z" then ['\n']
    else if given.has "G" ∧ 1 < names.length then ['\x00', '\x00'] else ['\x00']
  if names.isEmpty then
    print (Identity.answer given Person.user ++ ending)
    return 0
  let mut status : Int := 0
  for name in names do
    match Identity.person? name with
    | some p => print (Identity.answer given p ++ ending)
    | none =>
      complain (Quoting.word name ++ ": no such user".toList)
      status := 1
  return status

/-- A tool that takes no operands and tells one thing. -/
def telling (action : Task Int) (_ : Given) (operands : List Text) : Task Int := do
  match operands with
  | extra :: _ => refuseExtra extra
  | [] => action

/-- Tells something. -/
def tell (t : Text) : Task Int := do
  printLine t
  return 0

/-- Tells the name of the user. -/
def whoami : Given → List Text → Task Int :=
  telling (tell Person.user.name.toList)

/-- Tells under which name one has logged in, which is none. -/
def logname : Given → List Text → Task Int :=
  telling do
    complain "no login name".toList
    return 1

/-- Tells the groups of persons. -/
def groups (_ : Given) (names : List Text) : Task Int := do
  if names.isEmpty then return ← tell (Identity.groupText Person.user.group)
  let mut status : Int := 0
  for name in names do
    match Person.named? name with
    | some p => printLine (name ++ " : ".toList ++ Identity.groupText p.group)
    | none =>
      complain (Quoting.word name ++ ": no such user".toList)
      status := 1
  return status

/-- Tells who is there: nobody. -/
def users (_ : Given) (operands : List Text) : Task Int := do
  match operands with
  | _ :: extra :: _ => refuseExtra extra
  | _ => return 0

/-- How `who` takes options. -/
def whoUsage : Usage :=
  .free (OptionForm.flags [('a', "all"), ('b', "boot"), ('d', "dead"), ('H', "heading"),
    ('l', "login"), ('p', "process"), ('q', "count"), ('r', "runlevel"), ('s', "short"),
    ('t', "time"), ('T', "mesg"), ('u', "users")] ++ OptionForm.letters "mw" ++
    OptionForm.names ["lookup", "message", "writable"])

/-- Tells who is there and since when: nobody. -/
def who (given : Given) (operands : List Text) : Task Int := do
  if let some extra := operands[2]? then return ← refuseExtra extra
  if given.has "q" then
    print "\n# users=0\n".toList
    return 0
  if given.has "H" then
    let column (letters t : String) : Text := if given.hasAny letters then t.toList else []
    printLine ("NAME    ".toList ++ column "aTw" "  " ++ " LINE         TIME        ".toList ++
      column "adlru" " IDLE          PID" ++ " COMMENT".toList ++ column "ad" "  EXIT")
  return 0

/-- How `tty` takes options. -/
def ttyUsage : Usage where
  forms := OptionForm.flags [('s', "silent"), ('s', "quiet")]
  mixing := .free
  failure := 2

/-- Tells that the standard input is no terminal. -/
def tty (given : Given) (operands : List Text) : Task Int := do
  match operands with
  | extra :: _ => refuse ("extra operand ".toList ++ Quoting.word extra) 2
  | [] =>
    unless given.has "s" do printLine "not a tty".toList
    return 1

/-- How `uname` takes options. -/
def unameUsage : Usage :=
  .free (OptionForm.flags [('a', "all"), ('s', "kernel-name"), ('n', "nodename"),
    ('r', "kernel-release"), ('v', "kernel-version"), ('m', "machine"), ('p', "processor"),
    ('i', "hardware-platform"), ('o', "operating-system")])

/-- What the machine is. -/
def machineName : String := "x86_64"

/-- What the host is called. -/
def hostName : String := "localhost"

/-- What is told about the system, by letters. -/
def systemParts : List (Char × String) :=
  [('s', "Linux"), ('n', hostName), ('r', "6.1.0"), ('v', "#1 SMP PREEMPT_DYNAMIC"),
    ('m', machineName), ('p', "unknown"), ('i', "unknown"), ('o', "GNU/Linux")]

/-- Tells about the system. -/
def uname (given : Given) (operands : List Text) : Task Int := do
  if let some extra := operands.head? then return ← refuseExtra extra
  let isAsked (part : Char × String) : Bool :=
    if given.has "a" then part.2 ≠ "unknown"
    else if given.isEmpty then part.1 = 's'
    else given.has (String.singleton part.1)
  tell ([' '].intercalate ((systemParts.filter isAsked).map fun part => part.2.toList))

/-- Tells what the machine is. -/
def arch : Given → List Text → Task Int :=
  telling (tell machineName.toList)

/-- Tells the number of the host. -/
def hostid : Given → List Text → Task Int :=
  telling (tell "007f0100".toList)

/-- Tells what the host is called. -/
def hostname (_ : Given) (operands : List Text) : Task Int := do
  if operands.isEmpty then return ← tell hostName.toList
  complain "you must be root to change the host name".toList
  return 1

/-- How `nproc` takes options. -/
def nprocUsage : Usage :=
  .free (OptionForm.names ["all"] ++ OptionForm.valuedNames ["ignore"])

/-- How many processors there are. -/
def processors : Nat := 4

/-- Tells how many processes can run at once; a variable may say so. -/
def nproc (given : Given) (operands : List Text) : Task Int := do
  if let some extra := operands.head? then return ← refuseExtra extra
  let ignored ← match given.value? "ignore" with
    | none => pure 0
    | some t =>
      match Amount.ofText "" t with
      | .ok n => pure n
      | .error fault =>
        complain ("invalid number: ".toList ++ Quoting.word t ++ Amount.reason fault)
        return 1
  let count (name : String) : Task (Option Nat) := do
    let t := (← Task.value? name.toList).getD []
    let digits := (t.dropWhile isSpace).takeWhile Char.isDigit
    return if digits.isEmpty then none else some (digitsValue digits)
  let wanted ← if given.has "all" then pure none else count "OMP_NUM_THREADS"
  let limit ← if given.has "all" then pure none else count "OMP_THREAD_LIMIT"
  let n := (wanted.filter (0 < ·)).getD processors
  let n := match limit.filter (0 < ·) with
    | some limit => min n limit
    | none => n
  tell (numeral (if ignored < n then n - ignored else 1))

/-- How `sync` takes options. -/
def syncUsage : Usage :=
  .free (OptionForm.flags [('d', "data"), ('f', "file-system")])

/-- Makes sure that files are kept, which they are. -/
def sync (given : Given) (paths : List Text) : Task Int := do
  let fail (message : String) : Task Int := do
    complain message.toList
    return 1
  if given.has "d" && given.has "f" then
    return ← fail "cannot specify both --data and --file-system"
  if given.has "d" && paths.isEmpty then return ← fail "--data needs at least one argument"
  let mut status : Int := 0
  for path in paths do
    if let .error fault ← look true path then
      complainOf "error opening" path fault
      status := 1
  return status

end LineShell.Sh.Tool
