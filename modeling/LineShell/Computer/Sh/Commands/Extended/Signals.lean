import LineShell.Computer.Sh.Commands.Extended.Basic
import LineShell.Computer.Sh.Commands.Basic
import LineShell.Computer.Sh.Commands.Signals

/-!
# Commands of the extended language about signals and limits

What is prepared for signals and for other things that happen, signals that are sent, commands that
are carried out beside the process, and what the process may use.
-/

namespace LineShell.Sh.Commands.Extended

namespace Signals

/-- What may be prepared for besides signals. -/
def others : List (Text × Signal) :=
  [("EXIT".toList, 0), ("DEBUG".toList, Signal.step), ("ERR".toList, Signal.failure),
    ("RETURN".toList, Signal.comeback)]

/-- The name of a signal. -/
def name (s : Signal) : Text :=
  match others.find? (·.2 = s) with
  | some (name, _) => name
  | none => if s = 16 then "STKFLT".toList else Signal.names.getD (s - 1) []

/-- A signal has a name. -/
def isNamed (s : Signal) : Bool :=
  0 < s && s ≤ Signal.greatest && s ≠ 32 && s ≠ 33

/-- The name of a signal as it is shown where it is prepared for. -/
def shown (s : Signal) : Text :=
  if isNamed s then "SIG".toList ++ name s else name s

/-- The signal of a word: a number or a name, perhaps with its first syllable. -/
def ofText? (t : Text) : Option Signal :=
  let capital := t.map Char.toUpper
  let bare := if "SIG".toList.isPrefixOf capital then capital.drop 3 else capital
  if !t.isEmpty && t.all Char.isDigit then
    if digitsValue t ≤ Signal.greatest then some (digitsValue t) else none
  else
    match others.lookup capital with
    | some s => some s
    | none =>
      ((List.range Signal.greatest).map (· + 1)).find? fun s => isNamed s && name s = bare

/-- The signals with their numbers, five a line. -/
def table : Text :=
  let entries := ((List.range Signal.greatest).map (· + 1)).filter isNamed
  (entries.zip (List.range entries.length)).flatMap fun (s, i) =>
    let n := numeral s
    List.replicate (2 - n.length) ' ' ++ n ++ ") ".toList ++ shown s ++
      (if (i + 1) % 5 = 0 then ['\n'] else ['\t'])

/-- Shows what is prepared for one signal. -/
def tell (s : Signal) : Task Unit := do
  match (← Task.process).traps.lookup s with
  | some action =>
    Task.print 1 ("trap -- ".toList ++ Quotation.quoted action ++ ' ' :: shown s ++ ['\n'])
  | none => pure ()

end Signals

/-- Prepares for signals and for other things that happen, or no longer. -/
def trap (arguments : List Text) : Task Int := do
  let (given, rest) ← optionsOf "lp" "" arguments
  if has given 'l' then
    Task.print 1 (Signals.table ++ ['\n'])
    return 0
  if has given 'p' ∨ rest.isEmpty then
    if rest.isEmpty then
      for s in List.range (Signal.comeback + 1) do
        Signals.tell s
      return 0
    let mut status : Int := 0
    for word in rest do
      match Signals.ofText? word with
      | some s => Signals.tell s
      | none =>
        Task.complain (word ++ ": invalid signal specification".toList)
        status := 1
    return status
  let (action, words) : Option Text × List Text :=
    match rest with
    | [] => (none, [])
    | ['-'] :: words => (none, words)
    | first :: words =>
      if words.isEmpty ∨ (first.all Char.isDigit ∧ ¬ first.isEmpty) then (none, first :: words)
      else (some first, words)
  if let [word] := rest then
    if word = ['-'] ∨ (Signals.ofText? word).isNone then mistaken
  let mut status : Int := 0
  for word in words do
    match Signals.ofText? word with
    | some s =>
      Task.modifyProcess fun p => { p with
        traps := action.toList.map (s, ·) ++ p.traps.filter (·.1 ≠ s) }
    | none =>
      Task.complain (word ++ ": invalid signal specification".toList)
      status := 1
  return status

/-- The command in the background that a word names, if there is one, and whether several could be
meant. -/
def child? (children : List Child) (word : Text) : Option Child × Bool :=
  match word with
  | ['%'] => (children.head?, false)
  | ['%', '+'] => (children.head?, false)
  | ['%', '%'] => (children.head?, false)
  | ['%', '-'] => ((children.tail.head?).or children.head?, false)
  | '%' :: name =>
    if name.all Char.isDigit then (children.find? (·.number = digitsValue name), false)
    else
      let fits (c : Child) : Bool :=
        match name with
        | '?' :: part => Values.mentions part c.shown
        | name => name.isPrefixOf c.shown
      match children.filter fits with
      | [c] => (some c, false)
      | several => (none, !several.isEmpty)
  | _ => (none, false)

/-- The command in the background that a word names, which it has to. -/
def childNamed (word : Text) : Task Child := do
  match child? (← Task.process).children word with
  | (some c, _) => return c
  | (none, isAmbiguous) =>
    if isAmbiguous then Task.complain (word.drop 1 ++ ": ambiguous job spec".toList)
    fail (word ++ ": no such job".toList)

/-- Lists the signals, or those that words stand for. -/
def listSignals (words : List Text) : Task Int := do
  if words.isEmpty then Task.print 1 (Signals.table ++ ['\n'])
  let mut status : Int := 0
  for t in words do
    let n := digitsValue t
    let isNumber := !t.isEmpty && t.all Char.isDigit
    let s := if isNumber ∧ 128 < n then some (n - 128) else Signals.ofText? t
    match s.filter (· ≤ Signal.greatest) with
    | some s =>
      let shown := if isNumber ∧ (s = 0 ∨ Signals.isNamed s) then Signals.name s else numeral s
      if isNumber ∧ 128 ≤ n ∧ s = 0 then
        Task.complain (t ++ ": invalid signal specification".toList)
        status := 1
      else Task.print 1 ((if s = 0 ∧ t = ['0'] then "EXIT".toList else shown) ++ ['\n'])
    | none =>
      Task.complain (t ++ ": invalid signal specification".toList)
      status := 1
  return status

/-- The signal of a word, which has to be one. -/
def signalOf (t : Text) : Task Signal := do
  match (Signals.ofText? t).filter (· ≤ Signal.greatest) with
  | some s => return s
  | none => fail (t ++ ": invalid signal specification".toList)

/-- The signal that arguments ask for, and the arguments that tell who gets it. -/
def sent : List Text → Task (Signal × List Text)
  | ['-', 's'] :: t :: rest => do return (← signalOf t, rest)
  | ['-', 'n'] :: t :: rest => do return (← signalOf t, rest)
  | [['-', 's']] => fail "-s: option requires an argument".toList
  | [['-', 'n']] => fail "-n: option requires an argument".toList
  | ['-', '-'] :: rest => return (Signal.terminate, rest)
  | ('-' :: c :: cs) :: rest => do return (← signalOf (c :: cs), rest)
  | rest => return (Signal.terminate, rest)

/-- Sends a signal to processes, or lists the signals. -/
def kill (arguments : List Text) : Task Int := do
  if let ['-', c] :: rest := arguments then
    if c = 'l' ∨ c = 'L' then return ← listSignals rest
  let (signal, targets) ← sent arguments
  let targets := if targets.head? = some ['-', '-'] then targets.tail else targets
  if targets.isEmpty then mistaken
  let mut reached := false
  for t in targets do
    let digits := if t.head? = some '-' then t.tail else t
    if t.head? = some '%' then
      match child? (← Task.process).children t with
      | (some c, _) => if ← send c.id signal then reached := true
      | (none, _) => Task.complain (t ++ ": no such job".toList)
    else if !digits.isEmpty ∧ digits.all Char.isDigit then
      if ← send (digitsValue digits) signal then reached := true
      else Task.complain ('(' :: t ++ ") - No such process".toList)
    else if t.isEmpty then Task.complain "\x60': not a pid or valid job spec".toList
    else Task.complain (t ++ ": arguments must be process or job IDs".toList)
  return if reached then 0 else 1

/-- The commands in the background that still go on. -/
def running : Task (List Child) := do
  let m ← get
  return m.process.children.filter fun c => (m.ended.lookup c.id).isNone && !c.isNoticed

/-- Shows commands in the background. -/
def jobs (arguments : List Text) : Task Int := do
  let (given, words) ← optionsOf "lnprs" "" arguments
  let alive ← running
  let tell (c : Child) : Task Unit := do
    let mark :=
      if alive.head? = some c then '+' else if alive.tail.head? = some c then '-' else ' '
    if has given 'p' then Task.print 1 (numeral c.id ++ ['\n'])
    else
      let id := if has given 'l' then numeral c.id ++ [' '] else []
      let gap := if has given 'l' then [mark, ' '] else [mark, ' ', ' ']
      Task.print 1 ('[' :: numeral c.number ++ ']' :: gap ++ id ++
        "Running                 ".toList ++ c.shown ++ " &\n".toList)
  if has given 's' ∨ has given 'n' then return 0
  if words.isEmpty then
    for c in alive.reverse do
      tell c
    return 0
  let mut status : Int := 0
  for word in words do
    match child? alive word with
    | (some c, _) => tell c
    | (none, isAmbiguous) =>
      if isAmbiguous then Task.complain (word.drop 1 ++ ": ambiguous job spec".toList)
      Task.complain (word ++ ": no such job".toList)
      status := 1
  return status

/-- Forgets commands in the background. -/
def disown (arguments : List Text) : Task Int := do
  let (given, words) ← optionsOf "ahr" "" arguments
  if has given 'h' then return 0
  let forget (isMeant : Child → Bool) : Task Unit :=
    Task.modifyProcess fun p => { p with children := p.children.filter (!isMeant ·) }
  if words.isEmpty then
    if has given 'a' ∨ has given 'r' then forget fun _ => true
    else
      match (← running).head? with
      | some c => forget (· == c)
      | none => fail "current: no such job".toList
    return 0
  let mut status : Int := 0
  for word in words do
    match child? (← running) word with
    | (some c, _) => forget (· == c)
    | (none, _) =>
      Task.complain (word ++ ": no such job".toList)
      status := 1
  return status

namespace Limits

/-- The resources: their letters, names and units. -/
def resources : List (Char × String × String) :=
  [('R', "real-time non-blocking time", "microseconds, "), ('c', "core file size", "blocks, "),
    ('d', "data seg size", "kbytes, "), ('e', "scheduling priority", ""),
    ('f', "file size", "blocks, "), ('i', "pending signals", ""),
    ('l', "max locked memory", "kbytes, "), ('m', "max memory size", "kbytes, "),
    ('n', "open files", ""), ('p', "pipe size", "512 bytes, "),
    ('q', "POSIX message queues", "bytes, "), ('r', "real-time priority", ""),
    ('s', "stack size", "kbytes, "), ('t', "cpu time", "seconds, "),
    ('u', "max user processes", ""), ('v', "virtual memory", "kbytes, "), ('x', "file locks", "")]

/-- The limits of a resource, which has another letter in the common language or none at all. -/
def known (letter : Char) : Task Limit := do
  match letter with
  | 'u' => limitOf 'p'
  | 'x' => limitOf 'w'
  | 'e' => return ⟨some 0, some 0⟩
  | 'p' => return ⟨some 8, some 8⟩
  | 'q' => return ⟨some 819200, some 819200⟩
  | 'i' => limitOf 'p'
  | 'R' => return ⟨none, none⟩
  | 'w' => return ⟨none, none⟩
  | letter => limitOf letter

/-- The letter of a resource in the common language. -/
def stored (letter : Char) : Char :=
  if letter = 'u' then 'p' else if letter = 'x' then 'w' else letter

end Limits

/-- Shows or alters limits. -/
def ulimit (arguments : List Text) : Task Int := do
  let (given, words) ← optionsOf "HSacdefilmnpqrstuvxR" "" arguments
  let letters := (given.map Prod.fst).filter fun c => c ≠ 'H' && c ≠ 'S'
  let hard := has given 'H'
  let shown (limit : Limit) : Text :=
    limitText (if hard && !has given 'S' then limit.greatest else limit.counted)
  let row (entry : Char × String × String) : Task Unit := do
    let (letter, name, unit) := entry
    let label := '(' :: unit.toList ++ ['-', letter, ')']
    let gap := List.replicate (20 - label.length) ' '
    let name := name.toList ++ List.replicate (20 - name.length) ' '
    Task.print 1 (name ++ gap ++ label ++ ' ' :: shown (← Limits.known letter) ++ ['\n'])
  if letters.contains 'a' then
    for entry in Limits.resources do
      row entry
    return 0
  let letters := if letters.isEmpty then ['f'] else letters
  match words with
  | [] =>
    for letter in letters do
      if letters.length = 1 then Task.print 1 (shown (← Limits.known letter) ++ ['\n'])
      else
        match Limits.resources.find? (·.1 = letter) with
        | some entry => row entry
        | none => pure ()
  | t :: _ =>
    let letter := letters.headD 'f'
    let old ← Limits.known letter
    let value ← match String.ofList t with
      | "hard" => pure old.greatest
      | "soft" => pure old.counted
      | "unlimited" => pure none
      | _ =>
        if t.all Char.isDigit then pure (some (digitsValue t))
        else fail (t ++ ": invalid number".toList)
    let both := hard == has given 'S'
    let new : Limit :=
      ⟨if hard && !both then old.counted else value, if has given 'S' && !both then old.greatest
        else value⟩
    let name := (Limits.resources.lookup letter).map Prod.fst
    let refuse (why : String) : Task Unit :=
      fail ((name.getD "").toList ++ ": cannot modify limit: ".toList ++ why.toList)
    if ¬ isWithinLimit new.counted new.greatest then refuse "Invalid argument"
    if ¬ isWithinLimit new.greatest old.greatest then refuse "Operation not permitted"
    Task.modifyProcess fun p =>
      { p with limits := Task.assign (Limits.stored letter) new p.limits }
  return 0

end LineShell.Sh.Commands.Extended
