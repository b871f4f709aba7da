import LineShell.Computer.Sh.Bindings

/-!
# What the commands of the language have in common

Option letters in front of the arguments, and values in quotes, so that they can be read again.  A
command that is misused fails; whether that ends the process is decided where it is called.
-/

namespace LineShell.Sh.Commands

/-- The option letters in front of some arguments, each with its value if it takes one, and the
arguments after them.  The letters in `valued` take the rest of their word or the next word.  A
fault is told as a text. -/
def options (known valued : Text) (awaiting : Option Char) :
    List Text → Except Text (List (Char × Text) × List Text)
  | [] =>
    match awaiting with
    | none => .ok ([], [])
    | some c => .error ("No arg for -".toList ++ c :: " option".toList)
  | argument :: rest =>
    match awaiting, argument with
    | some c, _ => do
      let (more, rest) ← options known valued none rest
      return ((c, argument) :: more, rest)
    | none, ['-', '-'] => .ok ([], rest)
    | none, '-' :: c :: cs => do
      let (given, awaiting) ← letters (c :: cs)
      let (more, rest) ← options known valued awaiting rest
      return (given ++ more, rest)
    | none, _ => .ok ([], argument :: rest)
where
  /-- The options in a word, and the last letter if its value is the next word. -/
  letters : Text → Except Text (List (Char × Text) × Option Char)
    | [] => .ok ([], none)
    | c :: cs =>
      if valued.contains c then .ok (if cs.isEmpty then ([], some c) else ([(c, cs)], none))
      else if known.contains c then do
        let (more, awaiting) ← letters cs
        return ((c, []) :: more, awaiting)
      else .error ("Illegal option -".toList ++ [c])

/-- The options of some arguments, and the arguments after them. -/
def optionsOf (known valued : String) (arguments : List Text) :
    Task (List (Char × Text) × List Text) := do
  match options known.toList valued.toList none arguments with
  | .ok found => return found
  | .error message => Task.fail message

/-- Carries out a command with its option letters and the arguments after them. -/
def withLetters (known : String) (task : Text → List Text → Task Int) (arguments : List Text) :
    Task Int := do
  let (given, rest) ← optionsOf known "" arguments
  task (given.map Prod.fst) rest

/-- The number that an argument denotes, or a given one if there is no argument. -/
def numberOr (otherwise : Int) : List Text → Task Int
  | [] => return otherwise
  | t :: _ => do return (← Task.numberOf t)

/-- A text in quotes, read in at most `fuel` steps: what holds no single quotes stands between
single ones, and single quotes between double ones. -/
def inQuotesWithin : Nat → Text → Text
  | 0, _ => []
  | fuel + 1, t =>
    let bare := t.takeWhile (· ≠ '\'')
    let marks := (t.drop bare.length).takeWhile (· = '\'')
    let rest := t.drop (bare.length + marks.length)
    '\'' :: bare ++ ['\''] ++ (if marks.isEmpty then [] else '"' :: marks ++ ['"']) ++
      if rest.isEmpty then [] else inQuotesWithin fuel rest

/-- A text in quotes, so that it can be read again. -/
def inQuotes (t : Text) : Text :=
  inQuotesWithin (t.length + 1) t

/-! ## Limits of a process

What a process may use of each resource.  A resource has two limits: the one that counts, and the
one up to which the first one may be raised, which itself can only be lowered.
-/

/-- The resources: their letters, their names and the limits that a first process has. -/
def resources : List (Char × String × Option Nat) :=
  [('t', "time(seconds)", none), ('f', "file(blocks)", none), ('d', "data(kbytes)", none),
    ('s', "stack(kbytes)", some 8192), ('c', "coredump(blocks)", some 0),
    ('m', "memory(kbytes)", none), ('l', "locked memory(kbytes)", some 8192),
    ('p', "process", none), ('n', "nofiles", some 1048576), ('v', "vmemory(kbytes)", none),
    ('w', "locks", none), ('r', "rtprio", some 0)]

/-- The limits of a resource that nobody has altered.  A core dump and the stack may be as large as
one likes. -/
def usualLimit (letter : Char) : Limit :=
  let counted := ((resources.lookup letter).map Prod.snd).getD none
  ⟨counted, if letter = 'c' ∨ letter = 's' then none else counted⟩

/-- The limits of a resource. -/
def limitOf (letter : Char) : Task Limit := do
  return ((← Task.process).limits.lookup letter).getD (usualLimit letter)

/-- A limit is at most as large as another one. -/
def isWithinLimit : Option Nat → Option Nat → Bool
  | _, none => true
  | none, some _ => false
  | some m, some n => m ≤ n

/-- A limit as it is shown. -/
def limitText (limit : Option Nat) : Text :=
  (limit.map numeral).getD "unlimited".toList

/-- The limit that a text denotes: digits, or none at all. -/
def limit? (t : Text) : Option (Option Nat) :=
  if t = "unlimited".toList then some none
  else if t.all Char.isDigit then some (some (digitsValue t))
  else none

/-- Shows or alters limits. -/
def ulimit (arguments : List Text) : Task Int := do
  let (given, arguments) ← optionsOf "HSatfdscmlpnvwr" "" arguments
  let letters := given.map Prod.fst
  let kind := (letters.filter fun c => c = 'H' || c = 'S').getLast?
  let all := letters.contains 'a'
  let letter := (letters.filter fun c => c ≠ 'H' && c ≠ 'S' && c ≠ 'a').getLastD 'f'
  let shown (limit : Limit) : Text :=
    limitText (if kind = some 'H' then limit.greatest else limit.counted)
  match arguments with
  | [] =>
    for (c, name, _) in if all then resources else [] do
      let padded := name.toList ++ List.replicate (20 - name.length) ' '
      Task.print 1 (padded ++ ' ' :: shown (← limitOf c) ++ ['\n'])
    if ¬ all then Task.print 1 (shown (← limitOf letter) ++ ['\n'])
  | t :: more =>
    if all || !more.isEmpty then Task.fail "too many arguments".toList
    match limit? t with
    | none => Task.fail "bad number".toList
    | some value =>
      let old ← limitOf letter
      let new : Limit :=
        ⟨if kind = some 'H' then old.counted else value,
          if kind = some 'S' then old.greatest else value⟩
      let refuse (why : String) : Task Unit :=
        Task.fail ("error setting limit (".toList ++ why.toList ++ [')'])
      if ¬ isWithinLimit new.counted new.greatest then refuse "Invalid argument"
      if ¬ isWithinLimit new.greatest old.greatest then refuse "Operation not permitted"
      Task.modifyProcess fun p => { p with limits := Task.assign letter new p.limits }
  return 0

end LineShell.Sh.Commands
